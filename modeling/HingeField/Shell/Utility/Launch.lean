import HingeField.Shell.Utility.Desk

/-!
Commands that have programs run for them. How a program is started is given to
them: in a new process, whose descriptors may be arranged first.
-/

namespace HingeField.Shell.Utility

/-- Starts a program in a new process, whose number is returned. What is said when it cannot be
started is given, and how the process differs from the one at hand. -/
abbrev Launcher := (FileFault → String) → (Process → Process) → List String → Work Nat

/-- How a child ends. -/
def awaitEnding (number : Nat) : Work Ending := do
  match ← Course.awaitChild false [number] endlessSteps with
  | some (_, ending) => return ending
  | none => return { status := 127 }

/-- Runs a program and waits for its end. What is held for the output is written before. -/
def runProgram (launch : Launcher) (refusal : FileFault → String) (arrange : Process → Process)
    (words : List String) : Work Ending := do
  flushAll
  awaitEnding (← launch refusal arrange words)

/-- Starts a command of a shell at the other end of a pipe, which is read from or written to.
Returns the number of the process and the descriptor of this end. -/
def startPiped (launch : Launcher) (shell : String) (isRead : Bool) (command : String) :
    Work (Nat × Nat) := do
  let (input, output) ← Course.makePipe .empty
  let (here, there) := if isRead then (input, output) else (output, input)
  let descriptor ← Course.ask fun machine => machine.own.freeNumber 3
  Course.onMachine fun machine =>
    machine.modifyOwn fun process =>
      process.lead { number := descriptor, channel := here, isOwn := true }
  let child ← launch (fun fault => shell ++ ": " ++ faultText fault)
    (fun process => process.lead { number := if isRead then 1 else 0, channel := there })
    [shell, "-c", command]
  return (child, descriptor)

/-- What a command of the shell puts out. -/
def outputOf (launch : Launcher) (command : String) : Work String := do
  let (child, descriptor) ← startPiped launch "sh" true command
  let content ← readRest descriptor endlessSteps .empty
  Course.close descriptor
  let _ ← awaitEnding child
  return (content.toOption.map contentOctets).getD ""

/-- What is said of a program that cannot be started, in the name of the command at hand. -/
def refusalOf (command : String) (quoted : String → String) (words : List String)
    (fault : FileFault) : String :=
  command ++ ": " ++ quoted (words.headD "") ++ ": " ++ faultText fault

end HingeField.Shell.Utility
