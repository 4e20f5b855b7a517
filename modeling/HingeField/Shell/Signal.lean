import HingeField.Shell.Delivery
import HingeField.Shell.Expansion
import HingeField.Shell.Job
import HingeField.Shell.Parameters

/-!
Signals: their names and numbers, the commands a script is to carry out when it
gets one, and sending one to the script itself.
-/

namespace HingeField.Shell

/-- The names of signals in the order of their numbers; the first one is the end of the script. -/
def signalNames : List String :=
  ["EXIT", "HUP", "INT", "QUIT", "ILL", "TRAP", "ABRT", "BUS", "FPE", "KILL", "USR1", "SEGV",
    "USR2", "PIPE", "ALRM", "TERM", "16", "CHLD", "CONT", "STOP", "TSTP", "TTIN", "TTOU", "URG",
    "XCPU", "XFSZ", "VTALRM", "PROF", "WINCH", "IO", "PWR", "SYS", "32", "33", "RTMIN"] ++
    (List.range 15).map (fun place => "RTMIN+" ++ toString (place + 1)) ++
    (List.range 14).map (fun place => "RTMAX-" ++ toString (14 - place)) ++ ["RTMAX"]

/-- The signal that a number or name stands for. -/
def signal? (text : String) : Option Nat :=
  match text.toNat? with
  | some number => if number < 65 then some number else none
  | none => signalNames.findIdx? fun name => name == text.toUpper

def setTraps (action : String) : List String → Act Nat
  | [] => return 0
  | operand :: rest => do
      match signal? operand with
      | none =>
          let _ ← emit 2 ("trap: " ++ operand ++ ": bad trap\n")
          return 1
      | some signal =>
          setTrap signal (if action == "-" then none else some action)
          setTraps action rest

/-- Sets what to do on signals; without operands, shows it. -/
def trapSignals (operands : List String) : Act Nat := do
  let options ← optionsOf "" operands
  match options.operands with
  | [] =>
      let sorted := (← get).traps.mergeSort fun first second => first.1 ≤ second.1
      say <| String.join <| sorted.map fun (signal, action) =>
        "trap -- " ++ singleQuoted action ++ " " ++
          (signalNames[signal]?).getD (toString signal) ++ "\n"
  | [operand] => setTraps "-" [operand]
  | action :: operands => setTraps action operands

def killUsage : String :=
  "Usage: kill [-s sigspec | -signum | -sigspec] [pid | job]... or\nkill -l [exitstatus]"

/-- The name of the signal that a status tells of. -/
def signalOfStatus (operand : String) : Act Nat := do
  let status ← countOf operand
  let signal := if 128 < status then status - 128 else status
  match if signal = 0 then none else signalNames[signal]? with
  | some name => say (name ++ "\n")
  | none => fail ("invalid signal number or exit status: " ++ operand)

/-- Sends a signal to processes. -/
def sendTo (signal : Nat) (targets : List String) : Act Nat := do
  let mut status := 0
  for target in targets do
    if target.startsWith "%" then
      let _ ← jobOf target
      complain "No such process\n"
      status := 1
    else
      match decimal? target with
      | none => fail ("Illegal number: " ++ target)
      | some number =>
          unless 0 < number && (← Course.send number.toNat signal) do
            complain "No such process\n"
            status := 1
  return status

/-- Sends signals, or names them. -/
def sendSignal (operands : List String) : Act Nat := do
  match operands with
  | "-l" :: [] | "-L" :: [] =>
      say (String.join (("0" :: signalNames.drop 1).map fun name => name ++ "\n"))
  | "-l" :: operand :: _ | "-L" :: operand :: _ => signalOfStatus operand
  | "-s" :: name :: targets =>
      match signal? name with
      | some signal => if targets.isEmpty then fail killUsage else sendTo signal targets
      | none => fail ("invalid signal number or name: " ++ name)
  | "--" :: targets => if targets.isEmpty then fail killUsage else sendTo 15 targets
  | option :: targets =>
      if option.startsWith "-" then
        match signal? (option.drop 1).toString with
        | some signal => if targets.isEmpty then fail killUsage else sendTo signal targets
        | none => fail ("Illegal option " ++ (option.take 2).toString)
      else sendTo 15 operands
  | [] => fail killUsage

end HingeField.Shell
