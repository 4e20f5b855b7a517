import HingeField.Shell.Host.Disk

/-!
The machine that scripts run on: its disk, the pipes between processes, the
channels through which files and pipes are read and written, the processes with
their descriptors of channels, and the time.

A pipe is at its end for readers once no process can write to it, and broken for
writers once no process can read from it.
-/

namespace HingeField.Shell

structure Pipe where
  content : ByteArray := .empty
  /-- How much of the content has been read. -/
  start : Nat := 0
  /-- Whether what is written is kept without end. -/
  isKept : Bool := false

/-- Where the bytes of a channel are. -/
inductive Medium where
  | device (device : Device)
  | pipe (number : Nat)
  | node (number : Nat)
deriving DecidableEq

/-- An open file, of which descriptors share the offset. -/
structure Channel where
  medium : Medium
  offset : Nat := 0
  appends : Bool := false
  reads : Bool := true
  writes : Bool := true

/-- How a process has ended: its status, and the signal that has ended it, if one has. -/
structure Ending where
  status : Nat
  signal? : Option Nat := none

/-- A number by which a process knows a channel. -/
structure Descriptor where
  number : Nat
  channel : Nat
  /-- Whether the descriptor is closed when another program is started. -/
  isOwn : Bool := false

/-- The number of the first process. -/
def firstProcess : Nat := 4242

structure Process where
  number : Nat
  parent : Nat
  /-- The process that leads the group of this one. -/
  group : Nat := firstProcess
  descriptors : List Descriptor := []
  /-- The channel of a file that others have yet to open. -/
  opening? : Option Nat := none
  /-- The directory that relative paths start from. -/
  here : Nat
  /-- The permissions that new files are not given. -/
  mask : Nat := 0o022
  ignored : List Nat := []
  caught : List Nat := []
  /-- The signals that have come and are caught. -/
  pending : List Nat := []
  /-- The signal that ends the process. -/
  fatal? : Option Nat := none
  isStopped : Bool := false
  ending? : Option Ending := none

structure Machine where
  disk : Disk
  pipes : Array Pipe := #[]
  channels : Array Channel := #[]
  processes : List Process := []
  /-- The number of the process that goes on. -/
  current : Nat
  nextProcess : Nat
  /-- The time in microseconds. -/
  clock : Nat := 0
  /-- The time that the current process has taken since then. -/
  spent : Nat := 0

/-- The signal that cannot be held off. -/
def killing : Nat := 9

/-- The signal of a pipe that nobody reads. -/
def breaking : Nat := 13

/-- The signal of a child that has ended. -/
def childEnding : Nat := 17

/-- The signal that lets a stopped process go on. -/
def continuing : Nat := 18

/-- The signals that stop a process. -/
def stopping : List Nat :=
  [19, 20, 21, 22]

/-- Signals that change nothing unless a process asks for them. -/
def isHarmless (signal : Nat) : Bool :=
  [childEnding, continuing, 23, 28].contains signal

namespace Process

/-- A process that no one knows of. -/
def unknown : Process :=
  { number := 0, parent := 0, here := Disk.root }

def descriptor? (process : Process) (number : Nat) : Option Descriptor :=
  process.descriptors.find? fun descriptor => descriptor.number == number

/-- Leads a descriptor to a channel. -/
def lead (process : Process) (descriptor : Descriptor) : Process :=
  { process with
    descriptors := descriptor ::
      process.descriptors.filter fun other => other.number != descriptor.number }

def close (process : Process) (number : Nat) : Process :=
  { process with
    descriptors := process.descriptors.filter fun other => other.number != number }

/-- The least number from a bound on that is no descriptor. -/
def freeNumber (process : Process) (least : Nat) : Nat :=
  let isTaken := fun number => (process.descriptor? number).isSome
  ((List.range (process.descriptors.length + 1)).find? fun place => !isTaken (least + place)).getD
    0 + least

/-- Gets a signal: it ends the process, or stops it, or waits to be dealt with, or does nothing. -/
def receive (process : Process) (signal : Nat) : Process :=
  if signal = 0 || process.ending?.isSome then process
  else if signal = killing then { process with fatal? := some signal, isStopped := false }
  else
    let process :=
      if signal = continuing then { process with isStopped := false } else process
    if process.ignored.contains signal then process
    else if process.caught.contains signal then
      if process.pending.contains signal then process
      else { process with pending := process.pending ++ [signal] }
    else if isHarmless signal then process
    else if stopping.contains signal then { process with isStopped := true }
    else { process with fatal? := some (process.fatal?.getD signal) }

/-- Whether the process has a descriptor of a channel, or is opening it. -/
def holds (process : Process) (isHeld : Nat → Bool) : Bool :=
  process.ending?.isNone &&
    (process.descriptors.any (fun descriptor => isHeld descriptor.channel) ||
      process.opening?.any isHeld)

end Process

namespace Machine

def process? (machine : Machine) (number : Nat) : Option Process :=
  machine.processes.find? fun process => process.number == number

/-- The process that goes on. -/
def own (machine : Machine) : Process :=
  (machine.process? machine.current).getD .unknown

def modifyProcess (machine : Machine) (number : Nat) (change : Process → Process) : Machine :=
  { machine with
    processes := machine.processes.map fun process =>
      if process.number == number then change process else process }

def modifyOwn (machine : Machine) (change : Process → Process) : Machine :=
  machine.modifyProcess machine.current change

/-- The time for the current process. -/
def now (machine : Machine) : Nat :=
  machine.clock + machine.spent

/-- The seconds between the start of the calendar and that of the machine. -/
def startSeconds : Nat := 1700000000

/-- The time on the calendar, in nanoseconds. -/
def time (machine : Machine) : Int :=
  (startSeconds * 1000000000 + machine.now * 1000 : Nat)

def spend (machine : Machine) (duration : Nat) : Machine :=
  { machine with spent := machine.spent + duration }

/-- The channel that a descriptor of the current process leads to. -/
def channel? (machine : Machine) (descriptor : Nat) : Option Channel := do
  machine.channels[(← machine.own.descriptor? descriptor).channel]?

def openChannel (machine : Machine) (channel : Channel) : Nat × Machine :=
  (machine.channels.size, { machine with channels := machine.channels.push channel })

def makePipe (machine : Machine) (pipe : Pipe) : Nat × Machine :=
  (machine.pipes.size, { machine with pipes := machine.pipes.push pipe })

/-- Whether a process can read from a pipe. -/
def isRead (machine : Machine) (pipe : Nat) : Bool :=
  (machine.pipes[pipe]?.any Pipe.isKept) ||
    machine.processes.any fun process =>
      process.holds fun number =>
        match machine.channels[number]? with
        | some channel => channel.reads && channel.medium == .pipe pipe
        | none => false

/-- Whether a process can write to a pipe. -/
def isWritten (machine : Machine) (pipe : Nat) : Bool :=
  machine.processes.any fun process =>
    process.holds fun number =>
      match machine.channels[number]? with
      | some channel => channel.writes && channel.medium == .pipe pipe
      | none => false

/-- How many bytes of a pipe have not been read. -/
def unread (machine : Machine) (pipe : Nat) : Nat :=
  match machine.pipes[pipe]? with
  | some pipe => pipe.content.size - pipe.start
  | none => 0

/-- How many bytes a pipe holds. -/
def pipeSize : Nat := 65536

/-- How many bytes are written to a pipe at once or not at all. -/
def unitSize : Nat := 4096

/-- How many of so many bytes can be written to a pipe at once. -/
def room (machine : Machine) (pipe size : Nat) : Nat :=
  if machine.pipes[pipe]?.any Pipe.isKept then size
  else
    let free := pipeSize - machine.unread pipe
    if size ≤ free then size else if size ≤ unitSize then 0 else free

/-! ### Processes -/

/-- The status of a process that a signal has ended. -/
def signalStatus (signal : Nat) : Nat :=
  128 + signal

/-- Sends a signal to a process; tells whether there is one. -/
def send (machine : Machine) (number signal : Nat) : Bool × Machine :=
  match machine.process? number with
  | some _ => (true, machine.modifyProcess number fun process => process.receive signal)
  | none => (false, machine)

/-- Sends a signal to all processes of a group but one; tells whether there are any. -/
def sendGroup (machine : Machine) (group spared signal : Nat) : Bool × Machine :=
  let isMeant := fun process : Process => process.group == group && process.number != spared
  (machine.processes.any isMeant,
    { machine with
      processes := machine.processes.map fun process =>
        if isMeant process then process.receive signal else process })

/-- A new process like the current one, which is its parent. What the parent has caught is not
caught any more. -/
def spawn (machine : Machine) : Nat × Machine :=
  let number := machine.nextProcess
  let child : Process :=
    { machine.own with
      number, parent := machine.current, caught := [], pending := [], fatal? := none }
  (number,
    { machine with
      processes := machine.processes ++ [child], nextProcess := machine.nextProcess + 1 })

/-- Ends a process. Its children are left alone, and those of them that have ended are forgotten. -/
def finish (machine : Machine) (number : Nat) (ending : Ending) : Machine :=
  let parent := (machine.process? number).map Process.parent
  let ended :=
    machine.modifyProcess number fun process =>
      { process with
        ending? := some ending, descriptors := [], opening? := none, fatal? := none }
  let isOrphan := (parent.bind machine.process?).all fun parent => parent.ending?.isSome
  let processes :=
    ended.processes.filterMap fun process =>
      if process.parent == number then
        if process.ending?.isSome then none else some { process with parent := 1 }
      else if process.number == number && isOrphan && number ≠ firstProcess then none
      else some process
  let ended := { ended with processes }
  match parent with
  | some parent => (ended.send parent childEnding).2
  | none => ended

/-- The children of the current process. -/
def children (machine : Machine) : List Process :=
  machine.processes.filter fun process => process.parent == machine.current

/-- Takes a process that has ended off the list. -/
def forget (machine : Machine) (number : Nat) : Machine :=
  { machine with
    processes := machine.processes.filter fun process => process.number != number }

end Machine

end HingeField.Shell
