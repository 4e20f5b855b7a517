import HingeField.Shell.Host.Calls

/-!
How processes share the machine. Each of them goes on when what it waits for has
happened, or its time has come; of several that can go on, the one whose time is
earliest does, and of those with the same time the one that came first. A
process that gets a fatal signal does not go on at all.
-/

namespace HingeField.Shell

/-- A process with what is left of its course, and when it can go on, if that is known. -/
structure Running where
  number : Nat
  wait : Wait
  ready? : Option (Nat × Waking)
  next : Waking → Machine → Task

namespace Machine

/-- Whether what a process waits for has happened. -/
def hasHappened (machine : Machine) (event : Event) : Bool :=
  match event with
  | .never => false
  | .readable pipe => 0 < machine.unread pipe || !machine.isWritten pipe
  | .writable pipe size => 0 < machine.room pipe size || !machine.isRead pipe
  | .opened pipe forReading =>
      if forReading then machine.isWritten pipe else machine.isRead pipe
  | .ended numbers =>
      machine.processes.all (fun process => !numbers.contains process.number) ||
        machine.processes.any fun process =>
          numbers.contains process.number && process.ending?.isSome

/-- How long a process takes to go on once it can, in microseconds. -/
def wakeTime : Nat := 50

/-- How long a process takes to start another one. -/
def forkTime : Nat := 120

/-- How long the other one takes to go on. -/
def childTime : Nat := 180

/-- When a process that waits can go on, as far as that is known now. -/
def readiness (machine : Machine) (number : Nat) (wait : Wait) : Option (Nat × Waking) :=
  let now := machine.now
  if machine.hasHappened wait.event then some (now + wakeTime, .happened)
  else if wait.isInterruptible &&
      (machine.process? number).any (fun process => !process.pending.isEmpty) then
    some (now + wakeTime, .interrupted)
  else none

/-- The processes with those noted that can go on now. -/
def refresh (machine : Machine) (tasks : List Running) : List Running :=
  tasks.map fun running =>
    match running.ready? with
    | some _ => running
    | none => { running with ready? := machine.readiness running.number running.wait }

/-- When a process goes on, and why, unless it is stopped or has to wait without end. -/
def turn? (machine : Machine) (running : Running) : Option (Nat × Waking) := do
  guard (!(machine.process? running.number).any Process.isStopped)
  match running.ready?, running.wait.until? with
  | some (time, waking), some limit =>
      if limit < time then some (limit, .late) else some (time, waking)
  | some ready, none => some ready
  | none, some limit => some (limit, .late)
  | none, none => none

/-- The process that goes on next, when, and why. -/
def choose (machine : Machine) (tasks : List Running) : Option (Running × Nat × Waking) :=
  tasks.foldl
    (fun best running =>
      match machine.turn? running, best with
      | none, best => best
      | some (time, waking), none => some (running, time, waking)
      | some (time, waking), some (other, earliest, reason) =>
          if time < earliest then some (running, time, waking)
          else some (other, earliest, reason))
    none

/-- Ends the processes that have got fatal signals. -/
def endFatal (machine : Machine) : Machine :=
  machine.processes.foldl
    (fun machine process =>
      match process.fatal?, process.ending? with
      | some signal, none =>
          machine.finish process.number
            { status := signalStatus signal, signal? := some signal }
      | _, _ => machine)
    machine

/-- Whether a process has yet to end. -/
def isAlive (machine : Machine) (number : Nat) : Bool :=
  (machine.process? number).any fun process => process.ending?.isNone

/-- The machine and the processes after a task has been taken up to where it waits. -/
def settle (number : Nat) (tasks : List Running) : Task → Machine × List Running
  | .ended machine => (machine, tasks)
  | .waiting machine wait next =>
      let ready? :=
        match wait.event, wait.until? with
        | .never, some limit => if limit ≤ machine.now then some (limit, .late) else none
        | _, _ => none
      (machine, tasks ++ [{ number, wait, ready?, next }])
  | .forked machine child body next =>
      let now := machine.now
      let parent : Running :=
        { number, wait := { event := .never, until? := some (now + forkTime) }
          ready? := some (now + forkTime, .late), next := fun _ => next }
      let started : Running :=
        { number := child, wait := { event := .never, until? := some (now + childTime) }
          ready? := some (now + childTime, .late), next := fun _ => body }
      (machine, tasks ++ [parent, started])

/-- Whether the first process has ended and nothing more can be written to some pipes. -/
def isOver (machine : Machine) (pipes : List Nat) : Bool :=
  !machine.isAlive firstProcess && pipes.all fun pipe => !machine.isWritten pipe

/-- Lets the processes go on until the first one has ended and some pipes are closed, or none of
them can go on. -/
def run (pipes : List Nat) : Nat → Machine → List Running → Machine
  | 0, machine, _ => machine
  | fuel + 1, machine, tasks =>
      if machine.isOver pipes then machine
      else
        match machine.choose tasks with
        | none => machine
        | some (running, time, waking) =>
            let others := tasks.filter fun other => other.number != running.number
            let machine :=
              { machine with
                current := running.number, clock := max machine.clock time, spent := 0 }
            let (machine, tasks) := settle running.number others (running.next waking machine)
            let machine :=
              if machine.processes.any fun process => process.fatal?.isSome then
                machine.endFatal
              else machine
            let tasks := tasks.filter fun running => machine.isAlive running.number
            run pipes fuel machine (machine.refresh tasks)

end Machine

end HingeField.Shell
