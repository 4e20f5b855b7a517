import HingeField.Shell.Host.Calls
import HingeField.Shell.Tree

/-!
The state of a running script: its parameters and settings, and how far it has
come; and the steps that change it. A step may stop the commands around it: it
leaves a loop or a function, ends the script, or fails.
-/

namespace HingeField.Shell

structure Variable where
  value : Option String := none
  isExported : Bool := false
  isReadonly : Bool := false

/-- A defined command, and the line its definition stands on. -/
structure Function where
  body : Command
  line : Nat

/-- Why the commands that follow are left out: a loop or function is left, the script ends, a
command fails, or the fuel is used up. -/
inductive Stop where
  | leave (loops : Nat)
  | again (loops : Nat)
  | back
  | finish
  | failure
  | exhausted
deriving DecidableEq

/-- Processes that were started together and are not waited for: the number of the job, that of the
last process, all their numbers, and how those have ended that have been looked after since. -/
structure Job where
  number : Nat
  process : Nat
  members : List Nat
  endings : List (Nat × Ending) := []
  /-- Whether it has been waited for in the end. -/
  isWaited : Bool := false

/-- How a job has ended, which is how its last process has, once all of them have. -/
def Job.ending? (job : Job) : Option Ending :=
  if job.members.all fun member => (job.endings.lookup member).isSome then
    job.endings.lookup job.process
  else none

/-- Where a command was found before: its place among the directories that are searched, and whether
the current directory has changed since then. -/
structure Finding where
  place : Nat
  isStale : Bool := false

structure Session where
  bindings : List (String × Variable) := []
  functions : List (String × Function) := []
  /-- The variables that each running function has hidden, innermost function first. -/
  hidden : List (List (String × Option Variable)) := []
  documents : List (Nat × Word) := []
  nextDocument : Nat := 0
  name : String
  /-- The path of the current directory, in which links may stand. -/
  place : String := "/"
  arguments : List String := []
  /-- The number of the next argument that may be an option. -/
  nextOption : Nat := 1
  /-- How far into the argument before it options have been read, unless they have to its end. -/
  optionOffset : Option Nat := none
  settings : List Char := []
  status : Nat := 0
  /-- The status of the last commands whose output was put in. -/
  outputStatus : Nat := 0
  /-- The line that messages name. -/
  line : Nat := 0
  commandName : Option String := none
  /-- The program that a command of the script's language runs as. -/
  program? : Option String := none
  loopDepth : Nat := 0
  callDepth : Nat := 0
  traps : List (Nat × String) := []
  /-- The signals that the process was started to ignore. -/
  ignored : List Nat := []
  /-- The status from before the trap that is being carried out. -/
  savedStatus : Option Nat := none
  /-- The jobs, the last one first. -/
  background : List Job := []
  /-- The number of the last process that was not waited for. -/
  lastJob : Option Nat := none
  aliases : List (String × String) := []
  /-- The commands that were found, in the order in which they were. -/
  findings : List (String × Finding) := []
  /-- The number of the process that the script was started as. -/
  script : Nat := firstProcess
  /-- Whether messages call a line a line and a command a command. -/
  isWordy : Bool := false

/-- A step of a script. What it has changed stays changed when it stops. -/
abbrev Act := Course Stop Session

def setStatus (status : Nat) : Act Unit :=
  modify fun session => { session with status }

/-- Takes a step and then restores a part of the state before it, even if the step stops. -/
def restoring {α : Type} (restore : Session → Session → Session) (act : Act α) : Act α :=
  Course.restoring restore act

/-- How a step ends, with the reason if it stops. -/
def outcomeOf {α : Type} (act : Act α) : Act (Except Stop α) :=
  Course.outcome act

/-- Writes bytes to a descriptor; tells why it did not take them. -/
def deliver (descriptor : Nat) (octets : String) : Act (Except FileFault Unit) :=
  if octets.isEmpty then return .ok () else Course.write descriptor (octetsContent octets)

/-- Writes bytes to a descriptor; tells whether it took them. -/
def emit (descriptor : Nat) (octets : String) : Act Bool := do
  return (← deliver descriptor octets).isOk

/-! ### Messages -/

/-- Says something on the error output, in the name of the script and its line. -/
def complain (text : String) : Act Unit := do
  let session ← get
  let subject :=
    match session.commandName with
    | some name => name ++ ": "
    | none => ""
  let place :=
    match session.program? with
    | some program => program ++ ": "
    | none =>
        let word := if session.isWordy then ": line " else ": "
        session.name ++ word ++ toString session.line ++ ": "
  let _ ← emit 2 (place ++ subject ++ text ++ "\n")

/-- Fails with a message. -/
def fail {α : Type} (text : String) : Act α := do
  complain text
  setStatus 2
  throw .failure

/-- Notes the line of the command that is carried out. -/
def atLine (line : Nat) : Act Unit :=
  modify fun session => { session with line }

/-! ### Variables -/

def Session.hasSetting (session : Session) (letter : Char) : Bool :=
  session.settings.contains letter

def Session.binding? (session : Session) (name : String) : Option Variable :=
  session.bindings.lookup name

/-- The value of a variable. -/
def Session.valueOf? (session : Session) (name : String) : Option String :=
  (session.binding? name).bind Variable.value

def putVariable (name : String) (binding? : Option Variable) : Act Unit :=
  modify fun session =>
    let others := session.bindings.filter fun entry => entry.1 != name
    { session with
      bindings :=
        match binding? with
        | some given => (name, given) :: others
        | none => others }

/-- Forgets where commands were found. -/
def forgetFindings : Act Unit :=
  modify fun session => { session with findings := [] }

/-- Gives a variable a value. -/
def setVariable (name value : String) : Act Unit := do
  let session ← get
  let before := (session.binding? name).getD { isExported := session.hasSetting 'a' }
  if before.isReadonly then fail (name ++ ": is read only")
  putVariable name (some { before with value := some value })
  if name = "PATH" then forgetFindings
  if name = "OPTIND" then
    let number := (value.toNat?.filter (0 < ·)).getD 1
    modify fun session => { session with nextOption := number, optionOffset := none }

def unsetVariable (name : String) : Act Unit := do
  if ((← get).binding? name).any Variable.isReadonly then fail (name ++ ": is read only")
  putVariable name none
  if name = "PATH" then forgetFindings

/-- Hides a variable until the running function ends. -/
def hideVariable (name : String) : Act Unit :=
  modify fun session =>
    match session.hidden with
    | innermost :: outer =>
        if innermost.any fun entry => entry.1 == name then session
        else
          { session with hidden := ((name, session.binding? name) :: innermost) :: outer }
    | [] => session

/-- The name under which settings are hidden. -/
def settingsName : String := "-"

/-- Hides the settings until the running function ends. -/
def hideSettings : Act Unit :=
  modify fun session =>
    match session.hidden with
    | innermost :: outer =>
        let settings : Variable := { value := some (String.ofList session.settings) }
        { session with hidden := ((settingsName, some settings) :: innermost) :: outer }
    | [] => session

/-- Takes a step with a place for hidden variables and settings, which come back after it. -/
def withHiding {α : Type} (act : Act α) : Act α :=
  restoring
    (fun before after =>
      let (settings, innermost) :=
        (after.hidden.headD []).partition fun entry => entry.1 == settingsName
      let restored :=
        innermost.foldl
          (fun bindings (name, binding?) =>
            let others := bindings.filter fun entry : String × Variable => entry.1 != name
            match binding? with
            | some given => (name, given) :: others
            | none => others)
          after.bindings
      let kept := settings.getLast?.bind fun entry => entry.2.bind Variable.value
      let isMoved := innermost.any fun entry => entry.1 == "PATH"
      { after with
        bindings := restored
        findings := if isMoved then [] else after.findings
        settings := (kept.map String.toList).getD after.settings
        hidden := before.hidden })
    (do
      modify fun session => { session with hidden := [] :: session.hidden }
      act)

/-- The text that separates words, unless another one is set. -/
def standardSeparators : String := " \t\n"

def Session.separators (session : Session) : String :=
  (session.valueOf? "IFS").getD standardSeparators

/-- The variables that programs are given. -/
def Session.environment (session : Session) : List (String × String) :=
  session.bindings.filterMap fun (name, given) =>
    if given.isExported then given.value.map fun value => (name, value) else none

end HingeField.Shell
