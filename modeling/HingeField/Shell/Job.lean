import HingeField.Shell.Delivery
import HingeField.Shell.Options
import HingeField.Shell.Printing

/-!
Jobs, which are the processes that a script does not wait for at once: how an
operand names one, how it is shown, and how it is waited for in the end.
-/

namespace HingeField.Shell

/-! ### Naming -/

/-- The job that an operand names behind a percent sign; the last one, or the one before it, has a
sign of its own. -/
def jobOf (operand : String) : Act Job := do
  let jobs := (← get).background
  let orFail := fun (fault : String) (job? : Option Job) =>
    match job? with
    | some job => pure job
    | none => (fail fault : Act Job)
  match operand with
  | "%" | "%%" | "%+" => orFail "No current job" jobs.head?
  | "%-" => orFail "No previous job" (jobs.drop 1).head?
  | operand =>
      let number? := (operand.drop 1).toString.toNat?.filter fun _ => operand.startsWith "%"
      orFail ("No such job: " ++ operand)
        (number?.bind fun number => jobs.find? fun job => job.number == number)

/-! ### Showing -/

/-- What a job is at. -/
def Job.stateText (job : Job) : String :=
  match job.ending? with
  | none => "Running"
  | some { signal? := some signal, .. } => signalText signal
  | some { status := 0, .. } => "Done"
  | some { status, .. } => "Done(" ++ toString status ++ ")"

/-- A text with blanks behind it up to a column, and at least one. -/
def upToColumn (column : Nat) (text : String) : String :=
  text ++ String.ofList (List.replicate (max 1 (column - text.length)) ' ')

/-- The lines that show a job, with a sign for the last one and the one before it: with the numbers
of its processes each has a line. -/
def Job.text (job : Job) (sign : Char) (withProcesses : Bool) : String :=
  let number := "[" ++ toString job.number ++ "] " ++ String.singleton sign ++ " "
  let last := 33
  if withProcesses then
    let first := toString (job.members.headD 0) ++ " "
    let others := (job.members.drop 1).map fun member =>
      " |\n" ++ upToColumn last (String.ofList (List.replicate number.length ' ') ++
        toString member ++ " ")
    upToColumn last (number ++ first ++ job.stateText) ++ String.join others ++ "\n"
  else
    upToColumn last (number ++ job.stateText) ++
      String.join ((job.members.drop 1).map fun _ => " | ") ++ "\n"

/-- Looks after the children that have ended meanwhile. -/
def noteEndings : Nat → Act Unit
  | 0 => pure ()
  | fuel + 1 => do
      let members := (← get).openMembers
      match ← Course.ask (Course.endedChild? members) with
      | none => pure ()
      | some (number, ending) => do
          Course.onMachine fun machine => machine.forget number
          noteEnding number ending
          noteEndings fuel

/-- Shows a job, which is forgotten then if it has ended. -/
def showJob (options : Options) (job : Job) : Act Nat := do
  if (options.letters.getLast?.map (·.1)) == some 'p' then
    say (toString (job.members.headD 0) ++ "\n")
  else
    let jobs := (← get).background
    let isAt := fun place : Nat => (jobs[place]?).any fun other => other.number == job.number
    let sign := if isAt 0 then '+' else if isAt 1 then '-' else ' '
    let status ← say (job.text sign (options.has 'l'))
    if job.ending?.isSome then
      modify fun session =>
        { session with
          background := session.background.filter fun other => other.number != job.number }
    return status

/-- Shows the jobs that are named, or all. -/
def showJobs (operands : List String) : Act Nat := do
  let options ← optionsOf "lp" operands
  let mut status := 0
  if options.operands.isEmpty then
    noteEndings endlessSteps
    for job in (← get).background do status := max status (← showJob options job)
  else
    for operand in options.operands do
      status := max status (← showJob options (← jobOf operand))
  return status

/-- Refuses to go on with a job in another way, which takes a terminal. -/
def resumeJob (operands : List String) : Act Nat := do
  let options ← optionsOf "" operands
  let operand? := options.operands.head?
  let _ ← jobOf (operand?.getD "%")
  fail ("job " ++ operand?.getD "(null)" ++ " not created under job control")

/-! ### Waiting -/

/-- Waits until children have ended that were not waited for; of those that are named it is said
which signal has ended them. A signal that is caught breaks that off; tells whether it did. -/
def awaitBackground (named : List Nat) (isDone : Session → Bool) : Nat → Act Bool
  | 0 => throw .exhausted
  | fuel + 1 => do
      let session ← get
      if isDone session || session.openMembers.isEmpty then return false
      match ← Course.awaitChild true session.openMembers endlessSteps with
      | some (number, ending) =>
          if named.contains number then announce ending
          noteEnding number ending
          awaitBackground named isDone fuel
      | none =>
          if (← Course.ask fun machine => machine.own.pending).isEmpty then
            modify fun session => { session with background := [] }
            return false
          else return true

/-- The status of a command that a signal has broken off. -/
def brokenStatus : Act Nat := do
  match ← Course.ask fun machine => machine.own.pending with
  | signal :: _ => return Machine.signalStatus signal
  | [] => return 0

/-- Marks jobs that have ended as waited for. -/
def markWaited (isMeant : Job → Bool) : Act Unit :=
  modify fun session =>
    { session with
      background := session.background.map fun job =>
        if isMeant job && job.ending?.isSome then { job with isWaited := true } else job }

/-- The job that an operand of a wait means: by its own number, or by that of its last process. -/
def waitedJob? (operand : String) : Act (Option Job) := do
  if operand.startsWith "%" then return some (← jobOf operand)
  let number ← countOf operand
  return (← get).background.find? fun job => job.process == number

/-- Waits for processes that were not waited for: those named, or all of them. -/
def awaitCommands (operands : List String) : Act Nat := do
  if operands.isEmpty then
    let isBroken ← awaitBackground [] (fun _ => false) endlessSteps
    markWaited fun _ => true
    if isBroken then brokenStatus else return 0
  else
    let mut status := 0
    for operand in operands do
      match ← waitedJob? operand with
      | none => status := 127
      | some job =>
          let current := fun session : Session =>
            session.background.find? fun other => other.number == job.number
          let isDone := fun session : Session => (current session).all fun job => job.ending?.isSome
          if ← awaitBackground job.members isDone endlessSteps then return ← brokenStatus
          markWaited fun other => other.number == job.number
          status := (((current (← get)).bind Job.ending?).getD { status := 127 }).status
    return status

end HingeField.Shell
