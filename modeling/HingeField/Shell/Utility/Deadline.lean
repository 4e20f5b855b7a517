import HingeField.Shell.Integer
import HingeField.Shell.Signal
import HingeField.Shell.Utility.Launch

/-!
Commands that wait: for some time, or for another command that is to end in
time. One that does not is sent a signal, and all that it has started with it.
Durations are numbers of seconds or of other units.
-/

namespace HingeField.Shell

/-- A time that never comes. -/
def endlessTime : Nat := 1000000000000000000

/-- How many places behind the point count in a number of seconds. -/
def secondPlaces : Nat := 6

/-- The microseconds of a unit of time. -/
def unitTime? : List Char → Option Nat
  | [] | ['s'] => some (Nat.pow 10 secondPlaces)
  | ['m'] => some (60 * Nat.pow 10 secondPlaces)
  | ['h'] => some (3600 * Nat.pow 10 secondPlaces)
  | ['d'] => some (86400 * Nat.pow 10 secondPlaces)
  | _ => none

/-- The power of ten behind a number, and what is left behind it. -/
def readPower : List Char → Int × List Char
  | 'e' :: '-' :: rest =>
      match readDigits 10 rest with
      | some (power, rest) => (-power, rest)
      | none => (0, 'e' :: '-' :: rest)
  | 'e' :: rest =>
      match readDigits 10 (if rest.head? == some '+' then rest.drop 1 else rest) with
      | some (power, rest) => (power, rest)
      | none => (0, 'e' :: rest)
  | rest => (0, rest)

/-- The microseconds of a duration: a number, and perhaps the letter of a unit. -/
def duration? (text : String) : Option Nat := do
  if ["inf", "infinity"].contains text.toLower then return endlessTime
  let chars := text.toList
  let whole := chars.takeWhile Char.isDigit
  let rest := chars.drop whole.length
  let places := if rest.head? == some '.' then (rest.drop 1).takeWhile Char.isDigit else []
  let rest := if rest.head? == some '.' then rest.drop (places.length + 1) else rest
  guard (!(whole ++ places).isEmpty)
  let (digits, _) ← readDigits 10 (whole ++ places)
  let (power, rest) := readPower rest
  let unit ← unitTime? rest
  let shift := power - places.length
  return min endlessTime <|
    if 0 ≤ shift then digits * unit * Nat.pow 10 (min shift.toNat 18)
    else digits * unit / Nat.pow 10 (min shift.natAbs 400)

end HingeField.Shell

namespace HingeField.Shell.Utility

/-- Waits for the durations named together. -/
def sleepFor (operands : List String) : Work Unit :=
  withOptions "" [] 1 operands fun options => do
    let wrong := options.operands.filter fun operand => (duration? operand).isNone
    if options.operands.isEmpty then misuse 1 "missing operand"
    else if wrong.isEmpty then
      let total := (options.operands.filterMap duration?).foldl (· + ·) 0
      let _ ← Course.sleepFor false total
    else
      for operand in wrong do warn 1 ("invalid time interval " ++ inCurlyQuotes operand)
      putError (hintText (← get).command)

/-- The signals that are passed on to the command. -/
def passedSignals : List Nat :=
  [1, 2, 3, 14, 15]

/-- What is to be done with a command that does not end in time. -/
structure Ultimatum where
  options : Options
  name : String
  child : Nat
  /-- The signal that is sent when the time is over. -/
  signal : Nat
  /-- How long after that the command is ended by force, if it is. -/
  respite? : Option Nat

/-- Sends a signal to the command and all that it has started. -/
def Ultimatum.send (ultimatum : Ultimatum) (signal : Nat) : Work Unit := do
  if ultimatum.options.has 'v' then
    let signalName := signalNames.getD signal (toString signal)
    remark ("sending signal " ++ signalName ++ " to command " ++ inCurlyQuotes ultimatum.name)
  let _ ← (Course.send ultimatum.child signal : Work Bool)
  unless ultimatum.options.has 'f' do
    let own ← Course.ask Machine.current
    let spared := if signal = killing then 0 else own
    Course.onMachine fun machine => (machine.sendGroup own spared signal).2
    if signal ≠ killing && signal ≠ continuing then
      Course.onMachine fun machine => (machine.sendGroup own own continuing).2
    Course.pause

/-- Waits for the command, and sends it a signal when the time is over or one has come. Returns how
it has ended, and whether it was in time. -/
def Ultimatum.watch (ultimatum : Ultimatum) :
    Nat → Option Nat → Bool → Work (Ending × Bool)
  | 0, _, isLate => return ({ status := 124 }, isLate)
  | fuel + 1, limit?, isLate => do
      match ← Course.ask (Course.endedChild? [ultimatum.child]) with
      | some (number, ending) =>
          Course.onMachine fun machine => machine.forget number
          return (ending, isLate)
      | none =>
          let waking ← Course.await
            { event := .ended [ultimatum.child], until? := limit?, isInterruptible := true }
          match waking with
          | .happened => ultimatum.watch fuel limit? isLate
          | waking => do
              let pending ← Course.ask fun machine => machine.own.pending
              Course.onMachine fun machine =>
                machine.modifyOwn fun process => { process with pending := [] }
              let isOver := waking == .late
              let signal := if isOver then ultimatum.signal else pending.headD 15
              ultimatum.send signal
              let now ← Course.ask Machine.now
              match ultimatum.respite? with
              | some respite =>
                  let later := { ultimatum with signal := killing, respite? := none }
                  later.watch fuel (some (now + respite)) (isLate || isOver)
              | none =>
                  let limit? := if isOver then none else limit?
                  ultimatum.watch fuel limit? (isLate || isOver)

/-- Runs a command that has to end in time. -/
def runInTime (launch : Launcher) (operands : List String) : Work Unit := do
  match findOptions "k:s:vpf".toList
    [("kill-after", 'k'), ("signal", 's'), ("verbose", 'v'), ("preserve-status", 'p'),
      ("foreground", 'f')] true operands with
  | .error defect => misuse 125 defect.message
  | .ok options =>
      let refuse := fun (kind operand : String) =>
        misuse 125 (kind ++ " " ++ inCurlyQuotes operand)
      let respite? := (options.argument? 'k').map duration?
      match (options.argument? 's').map fun name => (name, signal? name), options.operands with
      | some (name, none), _ => misuse 125 (inCurlyQuotes name ++ ": invalid signal")
      | asked?, limit :: name :: arguments =>
          match duration? limit, respite? with
          | none, _ => refuse "invalid time interval" limit
          | _, some none => refuse "invalid time interval" ((options.argument? 'k').getD "")
          | some duration, respite? =>
              let words := name :: arguments
              unless options.has 'f' do
                Course.onMachine fun machine =>
                  machine.modifyOwn fun process => { process with group := process.number }
              let command := (← get).command
              let refusal := fun fault =>
                command ++ ": failed to run command " ++ inCurlyQuotes name ++ ": " ++
                  faultText fault
              flushAll
              let start ← Course.ask Machine.now
              let arrange := fun process : Process => process
              let child ← launch refusal arrange words
              Course.onMachine fun machine =>
                machine.modifyOwn fun process =>
                  { process with
                    caught := passedSignals.filter fun signal => !process.ignored.contains signal }
              let ultimatum : Ultimatum :=
                { options, name, child, signal := (asked?.bind (·.2)).getD 15
                  respite? := (respite?.bind id).filter (· ≠ 0) }
              let limit? := if duration = 0 then none else some (start + duration)
              let (ending, isLate) ← ultimatum.watch endlessSteps limit? false
              match ending.signal? with
              | some signal =>
                  if !isLate then
                    Course.onMachine fun machine =>
                      machine.modifyOwn fun process => { process with fatal? := some signal }
                    Course.pause
                  else if options.has 'p' || signal = killing then setStatus (128 + signal)
                  else setStatus 124
              | none =>
                  setStatus (if isLate && !options.has 'p' then 124 else ending.status)
      | _, _ =>
          raiseStatus 125
          putError (hintText (← get).command)

end HingeField.Shell.Utility
