import HingeField.Shell.Printing
import HingeField.Shell.Verdict
import HingeField.Shell.Program
import HingeField.Shell.Records.Command
import HingeField.Shell.Utility.Arguments
import HingeField.Shell.Utility.Deadline
import HingeField.Shell.Utility.Edit
import HingeField.Shell.Utility.Find

/-!
Programs by their names. Some of them give way to another program, in another
environment; others have programs run for them, or do their work themselves.
-/

namespace HingeField.Shell

/-- Runs a program in place of the one at hand. -/
abbrev Replacer := List String → Act Unit

/-! ### Environments -/

/-- The words of a text that is to be split: blanks separate them, unless they are quoted. -/
def splitWords (session : Session) : Nat → Option Char → Option (List Char) → List Char →
    Except String (List String)
  | 0, _, _, _ => .ok []
  | _ + 1, some _, _, [] => .error "no terminating quote in -S string"
  | _ + 1, none, current?, [] => .ok (current?.map fun word => String.ofList word.reverse).toList
  | fuel + 1, quote?, current?, c :: rest =>
      let goOn := fun (added : List Char) (rest : List Char) =>
        splitWords session fuel quote? (some (added.reverse ++ current?.getD [])) rest
      let word := (current?.map fun word => String.ofList word.reverse).toList
      match quote?, c, rest with
      | some '\x27', '\\', next :: rest =>
          if next == '\\' || next == '\x27' then goOn [next] rest else goOn ['\\', next] rest
      | quote?, '\\', next :: rest =>
          match quote?, next with
          | none, 'c' => .ok word
          | some _, 'c' => .error "'\\c' must not appear in double-quoted -S string"
          | none, '_' => do return word ++ (← splitWords session fuel none none rest)
          | some _, '_' => goOn [' '] rest
          | _, 'n' => goOn ['\n'] rest
          | _, 't' => goOn ['\t'] rest
          | _, 'r' => goOn ['\r'] rest
          | _, 'v' => goOn ['\x0b'] rest
          | _, 'f' => goOn ['\x0c'] rest
          | _, next =>
              if "\x22#$\x27\\".toList.contains next then goOn [next] rest
              else .error ("invalid sequence '\\" ++ String.singleton next ++ "' in -S")
      | some '\x27', '$', rest => goOn ['$'] rest
      | _, '$', '\x7b' :: rest =>
          let name := rest.takeWhile (· != '\x7d')
          let value := (session.valueOf? (String.ofList name)).getD ""
          goOn value.toList (rest.drop (name.length + 1))
      | some mark, c, rest =>
          if c == mark then splitWords session fuel none current? rest else goOn [c] rest
      | none, c, rest =>
          if c == '\x27' || c == '\x22' then
            splitWords session fuel (some c) (some (current?.getD [])) rest
          else if isSpace c then do return word ++ (← splitWords session fuel none none rest)
          else if c == '#' && current?.isNone then .ok []
          else goOn [c] rest

/-- Operands with those split that are marked for it. -/
def withSplitWords (session : Session) : List String → Except String (List String)
  | [] => .ok []
  | operand :: rest =>
      let split := fun text : String => splitWords session (text.length + 1) none none text.toList
      if operand == "-S" || operand == "--split-string" then
        match rest with
        | text :: rest => do return (← split text) ++ rest
        | [] => .ok [operand]
      else if operand.startsWith "-S" || operand.startsWith "-vS" then do
        let text := if operand.startsWith "-S" then operand.drop 2 else operand.drop 3
        return (← split text.toString) ++ rest
      else if operand.startsWith "--split-string=" then do
        return (← split (operand.drop 15).toString) ++ rest
      else if operand.startsWith "-" && operand != "--" then do
        return operand :: (← withSplitWords session rest)
      else .ok (operand :: rest)

/-- Reports a wrong use of a program. -/
def misuseProgram (title : String) (status : Nat) (text : String) : Act Unit := do
  let lead := if text.isEmpty then "" else title ++ ": " ++ text ++ "\n"
  let _ ← emit 2 (lead ++ Utility.hintText title)
  setStatus status

/-- Fails in the name of a program. -/
def refuseProgram (title : String) (status : Nat) (text : String) : Act Unit := do
  let _ ← emit 2 (title ++ ": " ++ text ++ "\n")
  setStatus status

/-- Runs a command with other variables. -/
def runInEnvironment (replace : Replacer) (title : String) (given : List String) : Act Unit := do
  match withSplitWords (← get) given with
  | .error text => refuseProgram title 125 text
  | .ok operands =>
  match Utility.findOptions "iu:0C:v".toList
    [("ignore-environment", 'i'), ("unset", 'u'), ("null", '0'), ("chdir", 'C')] true
    operands with
  | .error defect => misuseProgram title 125 defect.message
  | .ok options =>
      let operands := options.operands
      let isCleared := options.has 'i' || operands.head? == some "-"
      let operands := if operands.head? == some "-" then operands.drop 1 else operands
      if isCleared then
        modify fun session =>
          { session with bindings := session.bindings.filter fun entry => !entry.2.isExported }
      for (letter, name) in options.letters do
        if letter == 'u' then putVariable name none
      let settings := operands.takeWhile fun operand => operand.contains '='
      for setting in settings do
        let (name, value?) := splitSetting setting
        putVariable name (some { value := value?, isExported := true })
      let command := operands.drop settings.length
      match options.argument? 'C' with
      | some directory =>
          if command.isEmpty then
            return ← misuseProgram title 125 "must specify command with --chdir (-C)"
          unless ← enterDirectory directory do
            return ← refuseProgram title 125
              ("cannot change directory to " ++ inCurlyQuotes directory ++ ": " ++
                faultText .notFound)
      | none => pure ()
      if command.isEmpty then
        let lineEnd := if options.has '0' then "\x00" else "\n"
        let environment := (← get).environment
        let _ ← emit 1 (String.join (environment.map fun (name, value) =>
          name ++ "=" ++ value ++ lineEnd))
        setStatus 0
      else replace command

/-- Runs the command that stands behind the name of the program. -/
def runPersistently (replace : Replacer) (title : String) (operands : List String) :
    Act Unit := do
  match Utility.findOptions [] [] true operands with
  | .error defect => misuseProgram title 125 defect.message
  | .ok options =>
      if options.operands.isEmpty then misuseProgram title 125 "missing operand"
      else replace options.operands

/-- Operands in which an adjustment right behind a hyphen is given as an option. -/
def withAdjustment : List String → List String
  | operand :: rest =>
      match operand.toList with
      | '-' :: c :: digits =>
          let isAdjustment := c.isDigit || ((c == '-' || c == '+') && !digits.isEmpty)
          if isAdjustment && digits.all Char.isDigit then
            "-n" :: String.ofList (c :: digits) :: rest
          else operand :: rest
      | _ => operand :: rest
  | [] => []

/-- Runs the command behind a change of priority, which changes nothing else. -/
def runAdjusted (replace : Replacer) (title : String) (operands : List String) : Act Unit := do
  match Utility.findOptions ['n', ':'] [("adjustment", 'n')] true (withAdjustment operands) with
  | .error defect => misuseProgram title 125 defect.message
  | .ok options =>
      let adjustment? := options.argument? 'n'
      match adjustment?.filter fun text => (decimal? text).isNone with
      | some text =>
          let _ ← emit 2 (title ++ ": invalid adjustment " ++ inCurlyQuotes text ++ "\n")
          setStatus 125
      | none =>
          if !options.operands.isEmpty then replace options.operands
          else if adjustment?.isSome then
            misuseProgram title 125 "a command must be given with an adjustment"
          else
            let _ ← emit 1 "0\n"
            setStatus 0

/-- A command of the script's own language that is run as a program, with the status of its
failure. -/
def runOwn (title : String) (failing : Nat) (command : List String → Act Nat)
    (operands : List String) : Act Unit := do
  modify fun session => { session with program? := some title, commandName := none }
  match ← outcomeOf (command operands) with
  | .ok status => setStatus status
  | .error .failure => setStatus failing
  | .error stop => throw stop

/-- What a command of the script's language says about a condition. -/
def ConditionDefect.message : ConditionDefect → String
  | .notAnInteger text => "Illegal number: " ++ text
  | .noOperandFor operator => operator ++ ": argument expected"
  | .unexpected text => text ++ ": unexpected operator"
  | .notClosed => "closing paren expected"
  | .noBracket => "missing ]"

/-- Sets the status by whether a condition holds. -/
def testCondition (isBracketed : Bool) (operands : List String) : Act Nat := do
  let isProgram := (← get).program?.isSome
  let outcome : Except String Bool ← Course.ask fun machine =>
    if isProgram then verdict isBracketed machine operands
    else
      Except.mapError ConditionDefect.message do
        judge machine (← if isBracketed then bracketed operands else .ok operands)
  match outcome with
  | .ok holds => return if holds then 0 else 1
  | .error text => fail text

/-- Prints operands by a format, as a program. -/
def printAsProgram (title : String) (operands : List String) : Act Unit := do
  if operands.isEmpty then misuseProgram title 1 "missing operand"
  else runOwn title 1 printFormat operands

/-- Says that a program cannot be started, in the name of the one that was to start it. -/
def refuseStart (text : FileFault → String) (fault : FileFault) : Act Unit := do
  let _ ← emit 2 (text fault ++ "\n")
  setStatus (startRefusal false fault).2

/-- The commands that have programs run for them, by their names. -/
def delegates : List (String × (Utility.Launcher → List String → Utility.Work Unit)) :=
  [("xargs", Utility.runOnWords),
    ("find", Utility.findFiles),
    ("sed", Utility.edit),
    ("awk", Records.processRecords),
    ("mawk", Records.processRecords),
    ("nawk", Records.processRecords),
    ("timeout", Utility.runInTime)]

/-- The programs that run others in their place, or are commands of the script's language. -/
def ownPrograms : List String :=
  ["dash", "bash", "env", "nohup", "nice", "printf", "test", "["]

/-- The names of all programs. -/
def programNames : List String :=
  ownPrograms ++ delegates.map (·.1) ++ Utility.catalog.map (·.1)

/-- Runs what starts with a file. Programs that start others do so in turn. -/
def runImage (evaluate : Evaluator) : Nat → Image → Act Unit
  | 0, _ => throw .exhausted
  | depth + 1, image => do
      let title := image.arguments.headD image.program
      let operands := image.arguments.drop 1
      let start := fun (refusal : FileFault → String) (words : List String) =>
        startBy (runImage evaluate depth) (refuseStart refusal) (words.headD "") words
      let replaceAs := fun (quoted : String → String) (words : List String) =>
        start (Utility.refusalOf title quoted words) words
      let refused := fun (quoted : String) => "failed to run command " ++ quoted
      match image.program with
      | "sh" | "dash" => runShell evaluate false title operands
      | "bash" => runShell evaluate true title operands
      | "env" => runInEnvironment (replaceAs inCurlyQuotes) title operands
      | "nohup" =>
          runPersistently (replaceAs fun name => refused (Utility.inQuotes name)) title operands
      | "nice" => runAdjusted (replaceAs inCurlyQuotes) title operands
      | "printf" => printAsProgram title operands
      | "test" => runOwn title 2 (testCondition false) operands
      | "[" => runOwn title 2 (testCondition true) operands
      | program =>
          let session ← get
          let launch : Utility.Launcher := fun refusal arrange words =>
            Course.forkAs arrange session.copy (toItsEnd evaluate (start refusal words))
              stoppedEnding
          match Utility.catalog.lookup program, delegates.lookup program with
          | some work, _ => runUtility (work operands) title
          | none, some work => runUtility (work launch operands) title
          | none, none => setStatus 127

end HingeField.Shell
