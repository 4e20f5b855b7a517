import HingeField.Shell.Host.Course

/-!
What processes ask of the machine: to open, read and write files and pipes, to
lead descriptors to them, to send signals, and to wait for time to pass and for
other processes to end.
-/

namespace HingeField.Shell

/-- More steps than any process takes. -/
def endlessSteps : Nat := 1000000000

/-- How long a process takes to ask for something, in microseconds. -/
def callTime : Nat := 2

/-- How a file is opened. -/
structure Opening where
  reads : Bool := false
  writes : Bool := false
  creates : Bool := false
  empties : Bool := false
  appends : Bool := false
  /-- Whether there may not be such a file before. -/
  isNew : Bool := false

def Opening.forReading : Opening :=
  { reads := true }

def Opening.forWriting : Opening :=
  { writes := true, creates := true, empties := true }

def Opening.forAdding : Opening :=
  { writes := true, creates := true, appends := true }

namespace Machine

/-- What reading comes to. -/
inductive Reading where
  | read (content : ByteArray)
  | blocked (pipe : Nat)
  | refused (fault : FileFault)

/-- So many zeros. -/
def zeros (size : Nat) : ByteArray :=
  ⟨Array.replicate size 0⟩

/-- Bytes without a rule that is easily seen. -/
def scattered (seed size : Nat) : ByteArray :=
  ((List.range size).foldl
    (fun (bytes, state) _ =>
      let state := (state * 6364136223846793005 + 1442695040888963407) % 0x10000000000000000
      (ByteArray.push bytes (state / 0x200000000).toUInt8, state))
    (ByteArray.empty, seed)).1

/-- Takes up to so many bytes from a pipe. -/
def readPipe (machine : Machine) (pipe size : Nat) : Reading × Machine :=
  match machine.pipes[pipe]? with
  | none => (.refused .badDescriptor, machine)
  | some { content, start, isKept } =>
      if start < content.size then
        let read := content.extract start (start + size)
        let start := start + read.size
        let rest : Pipe :=
          if content.size ≤ start then { isKept } else { content, start, isKept }
        (.read read, { machine with pipes := machine.pipes.setIfInBounds pipe rest })
      else if machine.isWritten pipe then (.blocked pipe, machine)
      else (.read .empty, machine)

/-- Reads up to so many bytes through a channel. -/
def read (machine : Machine) (number size : Nat) : Reading × Machine :=
  match machine.channels[number]? with
  | none => (.refused .badDescriptor, machine)
  | some channel =>
      if !channel.reads then (.refused .badDescriptor, machine)
      else
        match channel.medium with
        | .pipe pipe => machine.readPipe pipe size
        | .device .zero | .device .full => (.read (zeros size), machine)
        | .device .random => (.read (scattered machine.now size), machine)
        | .device _ => (.read .empty, machine)
        | .node node =>
            if machine.disk.isDirectory node then (.refused .isDirectory, machine)
            else
              let content :=
                (machine.disk.node node).content.extract channel.offset (channel.offset + size)
              let channels :=
                machine.channels.setIfInBounds number
                  { channel with offset := channel.offset + content.size }
              (.read content, { machine with channels })

/-- What writing comes to: so many bytes are written, or some have to wait. -/
inductive Writing where
  | written (count : Nat)
  | blocked (pipe size : Nat)
  | broken
  | refused (fault : FileFault)

def writePipe (machine : Machine) (pipe : Nat) (content : ByteArray) : Writing × Machine :=
  if !machine.isRead pipe then (.broken, machine)
  else
    let count := machine.room pipe content.size
    if count = 0 && content.size ≠ 0 then (.blocked pipe content.size, machine)
    else
      let written := if count = content.size then content else content.extract 0 count
      let pipes :=
        machine.pipes.modify pipe fun
          | ⟨before, start, isKept⟩ =>
              if pipeSize ≤ start && !isKept then
                ⟨before.extract start before.size ++ written, 0, isKept⟩
              else ⟨before ++ written, start, isKept⟩
      (.written count, { machine with pipes })

/-- Writes bytes to a regular file through a channel. -/
def writeNode (machine : Machine) (number : Nat) (channel : Channel) (node : Nat)
    (content : ByteArray) : Writing × Machine :=
  let offset := if channel.appends then (machine.disk.node node).size else channel.offset
  let time := machine.time
  let channels :=
    machine.channels.setIfInBounds number { channel with offset := offset + content.size }
  let size := content.size
  match machine with
  | ⟨disk, pipes, _, processes, current, nextProcess, clock, spent⟩ =>
      (.written size,
        ⟨disk.write node offset content time, pipes, channels, processes, current, nextProcess,
          clock, spent⟩)

/-- Writes bytes through a channel, as many of them as it takes at once. -/
def write (machine : Machine) (number : Nat) (content : ByteArray) : Writing × Machine :=
  match machine.channels[number]? with
  | none => (.refused .badDescriptor, machine)
  | some channel =>
      if !channel.writes then (.refused .badDescriptor, machine)
      else
        match channel.medium with
        | .pipe pipe => machine.writePipe pipe content
        | .device .full =>
            if content.isEmpty then (.written 0, machine) else (.refused .noSpace, machine)
        | .device _ => (.written content.size, machine)
        | .node node => machine.writeNode number channel node content

/-- What a path leads to when it is opened. -/
inductive Opened where
  | channel (channel : Channel)
  | refused (fault : FileFault)

/-- Opens a node that is there. -/
def openNode (machine : Machine) (opening : Opening) (number : Nat) : Opened × Machine :=
  let channelTo := fun medium : Medium =>
    Opened.channel
      { medium, appends := opening.appends, reads := opening.reads, writes := opening.writes }
  match (machine.disk.node number).body with
  | .directory _ _ =>
      if opening.writes || opening.creates then (.refused .isDirectory, machine)
      else (channelTo (.node number), machine)
  | .link _ => (.refused .tooManyLinks, machine)
  | .fifo pipe => (channelTo (.pipe pipe), machine)
  | .device .terminal => (.refused .noDevice, machine)
  | .device (.descriptor descriptor) =>
      match machine.channel? descriptor with
      | none => (.refused .notFound, machine)
      | some { medium := .node node, .. } =>
          let machine :=
            if opening.empties && opening.writes then
              { machine with disk := machine.disk.resize node 0 machine.time }
            else machine
          (channelTo (.node node), machine)
      | some { medium, .. } => (channelTo medium, machine)
  | .device device => (channelTo (.device device), machine)
  | .regular content =>
      let machine :=
        if opening.empties && opening.writes && !content.isEmpty then
          { machine with disk := machine.disk.resize number 0 machine.time }
        else machine
      (channelTo (.node number), machine)

/-- Opens what a path leads to; what is to be written is made if it is not there. -/
def openPath (machine : Machine) (opening : Opening) (path : String) : Opened × Machine :=
  let own := machine.own
  match machine.disk.walk (!opening.isNew) own.here path with
  | .error fault => (.refused fault, machine)
  | .ok spot =>
      match spot.node? with
      | some number =>
          if opening.isNew then (.refused .alreadyExists, machine)
          else if path.endsWith "/" && !machine.disk.isDirectory number then
            (.refused .notDirectory, machine)
          else machine.openNode opening number
      | none =>
          if !opening.creates then (.refused .notFound, machine)
          else if path.endsWith "/" then (.refused .isDirectory, machine)
          else
            let mode := 0o666 - (0o666 &&& own.mask)
            let time := machine.time
            let (number, disk) :=
              machine.disk.create spot.directory spot.name (.regular .empty) mode time
            (.channel
                { medium := .node number, appends := opening.appends, reads := opening.reads,
                  writes := opening.writes },
              { machine with disk })

end Machine

namespace Course

variable {ε σ : Type}

/-! ### Files -/

/-- Opens what a path leads to; returns the number of the channel. A pipe on the disk is open once
another process has opened its other end. -/
def openPath (opening : Opening) (path : String) : Course ε σ (Except FileFault Nat) := do
  spend (2 * callTime)
  match ← fromMachine fun machine => machine.openPath opening path with
  | .refused fault => return .error fault
  | .channel channel => do
      let number ← fromMachine fun machine => machine.openChannel channel
      match channel.medium with
      | .pipe pipe => do
          let isNamed ← ask fun machine => (machine.pipes[pipe]?.any Pipe.isKept) == false
          if isNamed && channel.reads != channel.writes then
            onMachine fun machine =>
              machine.modifyOwn fun process => { process with opening? := some number }
            pause
            let isOpen ← ask fun machine =>
              if channel.reads then machine.isWritten pipe else machine.isRead pipe
            unless isOpen do
              let _ ← await { event := .opened pipe channel.reads }
          return .ok number
      | _ => return .ok number

/-- Leads a descriptor to a channel. -/
def lead (number channel : Nat) : Course ε σ Unit :=
  onMachine fun machine =>
    machine.modifyOwn fun process =>
      { process.lead { number, channel } with opening? := none }

def close (number : Nat) : Course ε σ Unit :=
  onMachine fun machine => machine.modifyOwn fun process => process.close number

/-- Opens what a path leads to under the least free number from a bound on. -/
def openFrom (least : Nat) (opening : Opening) (path : String) :
    Course ε σ (Except FileFault Nat) := do
  match ← openPath opening path with
  | .error fault => return .error fault
  | .ok channel => do
      let number ← ask fun machine => machine.own.freeNumber least
      lead number channel
      return .ok number

/-- Reads up to so many bytes, at least one unless the end is reached. A signal that is caught may
break off a process that waits for them; the result is `none` then. -/
def readChannel (isInterruptible : Bool) (channel size : Nat) :
    Nat → Course ε σ (Except FileFault (Option ByteArray))
  | 0 => return .ok none
  | fuel + 1 => do
      match ← fromMachine fun machine => machine.read channel size with
      | .read content => return .ok (some content)
      | .refused fault => return .error fault
      | .blocked pipe =>
          match ← await { event := .readable pipe, isInterruptible } with
          | .interrupted => return .ok none
          | _ => readChannel isInterruptible channel size fuel

/-- Reads up to so many bytes from a descriptor. -/
def readSome (isInterruptible : Bool) (descriptor size : Nat) :
    Course ε σ (Except FileFault (Option ByteArray)) := do
  spend callTime
  match ← ask fun machine => machine.own.descriptor? descriptor with
  | none => return .error .badDescriptor
  | some found => readChannel isInterruptible found.channel size endlessSteps

/-- Reads up to so many bytes from a descriptor; none at the end. -/
def read (descriptor size : Nat) : Course ε σ (Except FileFault ByteArray) := do
  match ← readSome false descriptor size with
  | .error fault => return .error fault
  | .ok content? => return .ok (content?.getD .empty)

/-- Writes all bytes. A process that writes to a broken pipe gets a signal, and if that does not end
it, fails to write. -/
def writeChannel (channel : Nat) : Nat → ByteArray → Course ε σ (Except FileFault Unit)
  | 0, _ => return .ok ()
  | fuel + 1, content => do
      match ← fromMachine fun machine => machine.write channel content with
      | .written count =>
          if content.size ≤ count then return .ok ()
          else writeChannel channel fuel (content.extract count content.size)
      | .refused fault => return .error fault
      | .broken => do
          onMachine fun machine =>
            machine.modifyOwn fun process => process.receive breaking
          pause
          return .error .brokenPipe
      | .blocked pipe size => do
          let _ ← await { event := .writable pipe size }
          writeChannel channel fuel content

/-- Writes bytes to a descriptor. -/
def write (descriptor : Nat) (content : ByteArray) : Course ε σ (Except FileFault Unit) := do
  spend callTime
  match ← ask fun machine => machine.own.descriptor? descriptor with
  | none => return .error .badDescriptor
  | some found => writeChannel found.channel endlessSteps content

/-- A pipe for reading and writing: the channels of its two ends. -/
def makePipe (content : ByteArray) : Course ε σ (Nat × Nat) :=
  fromMachine fun machine =>
    let (pipe, machine) := machine.makePipe { content }
    let (input, machine) := machine.openChannel { medium := .pipe pipe, writes := false }
    let (output, machine) := machine.openChannel { medium := .pipe pipe, reads := false }
    ((input, output), machine)

/-- Changes the disk unless the operation is refused. -/
def onDisk (operation : Disk → Nat → Int → Except FileFault Disk) :
    Course ε σ (Except FileFault Unit) := do
  spend callTime
  fromMachine fun machine =>
    match operation machine.disk machine.own.here machine.time with
    | .ok disk => (.ok (), { machine with disk })
    | .error fault => (.error fault, machine)

/-! ### Processes -/

/-- Goes on after so many microseconds. -/
def sleepFor (isInterruptible : Bool) (duration : Nat) : Course ε σ Waking := do
  let time ← ask Machine.now
  await { event := .never, until? := some (time + duration), isInterruptible }

/-- Sends a signal to a process; tells whether there is one. -/
def send (number signal : Nat) : Course ε σ Bool := do
  let isThere ← fromMachine fun machine => machine.send number signal
  pause
  return isThere

/-- How long it takes to start another program, in microseconds. -/
def startTime : Nat := 700

/-- Closes what only the program at hand has opened for itself, and catches no signals any more,
as another program is started. -/
def startAnew : Course ε σ Unit := do
  onMachine fun machine =>
    machine.modifyOwn fun process =>
      { process with
        descriptors := process.descriptors.filter fun descriptor => !descriptor.isOwn
        caught := [], pending := [] }
  spend startTime

/-- How one of some children has ended, which is forgotten then; `none` if there is none. -/
def endedChild? (numbers : List Nat) (machine : Machine) : Option (Nat × Ending) :=
  machine.processes.findSome? fun process =>
    if numbers.contains process.number then
      process.ending?.map fun ending => (process.number, ending)
    else none

/-- Waits until one of some children has ended, whose number and ending are returned; `none` if
there is no such child, or a signal comes first. -/
def awaitChild (isInterruptible : Bool) (numbers : List Nat) :
    Nat → Course ε σ (Option (Nat × Ending))
  | 0 => return none
  | fuel + 1 => do
      match ← ask (endedChild? numbers) with
      | some (number, ending) => do
          onMachine fun machine => machine.forget number
          return some (number, ending)
      | none =>
          let isThere ← ask fun machine =>
            machine.processes.any fun process => numbers.contains process.number
          if !isThere then return none
          match ← await { event := .ended numbers, isInterruptible } with
          | .interrupted => return none
          | _ => awaitChild isInterruptible numbers fuel

end Course

end HingeField.Shell
