import HingeField.Shell.Session

/-!
Signals as a script deals with them: which ones it has commands for or ignores,
and what is said of a process that one of them has ended.
-/

namespace HingeField.Shell

/-- What the system calls the signals that end a process. -/
def signalTexts : List (Nat × String) :=
  [(1, "Hangup"), (2, "Interrupt"), (3, "Quit"), (4, "Illegal instruction"),
    (5, "Trace/breakpoint trap"), (6, "Aborted"), (7, "Bus error"), (8, "Floating point exception"),
    (9, "Killed"), (10, "User defined signal 1"), (11, "Segmentation fault"),
    (12, "User defined signal 2"), (13, "Broken pipe"), (14, "Alarm clock"), (15, "Terminated"),
    (16, "Stack fault"), (24, "CPU time limit exceeded"), (25, "File size limit exceeded"),
    (26, "Virtual timer expired"), (27, "Profiling timer expired"), (29, "I/O possible"),
    (30, "Power failure"), (31, "Bad system call")]

/-- The first of the signals that have no meaning of their own. -/
def firstFreeSignal : Nat := 34

def signalText (signal : Nat) : String :=
  match signalTexts.lookup signal with
  | some text => text
  | none =>
      if firstFreeSignal ≤ signal then "Real-time signal " ++ toString (signal - firstFreeSignal)
      else "Unknown signal " ++ toString signal

/-- Has the process ignore a signal, catch it, or do neither. -/
def disposeOf (signal : Nat) (action? : Option String) : Act Unit :=
  Course.onMachine fun machine =>
    machine.modifyOwn fun process =>
      let others := fun signals : List Nat => signals.filter (· != signal)
      match action? with
      | some "" =>
          { process with
            ignored := signal :: others process.ignored, caught := others process.caught }
      | some _ =>
          { process with
            caught := signal :: others process.caught, ignored := others process.ignored }
      | none =>
          { process with
            ignored := others process.ignored, caught := others process.caught }

/-- Sets the commands for a signal, or takes them away. What the script was started to ignore it
goes on to ignore. -/
def setTrap (signal : Nat) (action? : Option String) : Act Unit := do
  let session ← get
  unless session.ignored.contains signal do
    let others := session.traps.filter fun entry => entry.1 != signal
    set { session with
      traps :=
        match action? with
        | some action => (signal, action) :: others
        | none => others }
    if signal ≠ 0 then disposeOf signal action?

/-- Signals of which nothing is said when they end a process that is waited for. -/
def isQuiet (signal : Nat) : Bool :=
  signal == 2 || signal == 13

/-- Says which signal has ended a process that was waited for. -/
def announce (ending : Ending) : Act Unit := do
  match ending.signal? with
  | some signal =>
      unless isQuiet signal do
        let _ ← emit 2 (signalText signal ++ "\n")
  | none => pure ()

/-- The children that a script knows of and that have not been looked after. -/
def Session.openMembers (session : Session) : List Nat :=
  session.background.flatMap fun job =>
    job.members.filter fun member => (job.endings.lookup member).isNone

/-- Notes how a child has ended that was not waited for. -/
def noteEnding (number : Nat) (ending : Ending) : Act Unit :=
  modify fun session =>
    { session with
      background := session.background.map fun job =>
        if job.members.contains number then
          { job with endings := (number, ending) :: job.endings }
        else job }

/-- The first free number of a job from a number on, with the jobs that are left: one that has ended
and was waited for gives its number away. -/
def freeJobNumber (jobs : List Job) : Nat → Nat → Nat × List Job
  | 0, number => (number, jobs)
  | fuel + 1, number =>
      match jobs.find? fun job => job.number == number with
      | none => (number, jobs)
      | some job =>
          if job.isWaited && job.ending?.isSome then
            (number, jobs.filter fun job => job.number != number)
          else freeJobNumber jobs fuel (number + 1)

/-- Takes the first free number of a job. -/
def takeJobNumber : Act Nat :=
  modifyGet fun session =>
    let (number, background) := freeJobNumber session.background (session.background.length + 1) 1
    (number, { session with background })

/-- Waits until some children have ended; returns how the last of them has. Of those that end
meanwhile it is noted how. -/
def awaitMembers (last : Nat) : Nat → List Nat → Option Ending → Act Ending
  | 0, _, _ => throw .exhausted
  | fuel + 1, members, ending? => do
      if members.isEmpty then return ending?.getD { status := 127 }
      let others := (← get).openMembers
      match ← Course.awaitChild false (members ++ others) endlessSteps with
      | none => return ending?.getD { status := 127 }
      | some (number, ending) =>
          if members.contains number then
            announce ending
            let ending? := if number = last then some ending else ending?
            awaitMembers last fuel (members.filter (· != number)) ending?
          else
            noteEnding number ending
            awaitMembers last fuel members ending?

/-- Waits for a job whose last process is named. -/
def awaitJob (members : List Nat) : Act Ending :=
  awaitMembers (members.getLastD 0) endlessSteps members none

end HingeField.Shell
