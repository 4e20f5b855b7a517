import HingeField.Shell.Control
import HingeField.Shell.Host.Setup
import HingeField.Shell.Lookup
import HingeField.Shell.Utility.Catalog

/-!
Programs: where a name leads, what the file there starts, and how a command of
the system does its work for a script.
-/

namespace HingeField.Shell

/-- What starts with a file: the name of a program, and its arguments, of which the first is what it
is called. -/
structure Image where
  program : String
  arguments : List String

/-- The interpreter named at the start of a script, with the argument behind it. -/
def interpreter? (octets : String) : Option (List String) :=
  match octets.toList with
  | '#' :: '!' :: rest =>
      let isBlank := fun c : Char => c == ' ' || c == '\t'
      let text := (rest.takeWhile (· != '\n')).dropWhile isBlank
      let text := (text.reverse.dropWhile isBlank).reverse
      let name := text.takeWhile fun c => !isBlank c
      let argument := (text.drop name.length).dropWhile isBlank
      if name.isEmpty then none
      else if argument.isEmpty then some [String.ofList name]
      else some [String.ofList name, String.ofList argument]
  | _ => none

/-- How many interpreters may be scripts themselves. -/
def deepestInterpreter : Nat := 5

/-- What starts with the file at a path, called with arguments. -/
def imageAt (machine : Machine) : Nat → String → List String → Except FileFault Image
  | 0, _, _ => throw .tooManyLinks
  | depth + 1, path, arguments => do
      let octets := contentOctets (← executable machine path)
      match programName? octets, interpreter? octets with
      | some program, _ => return { program, arguments }
      | none, some (interpreter :: rest) =>
          imageAt machine depth interpreter
            (interpreter :: rest ++ [path] ++ arguments.drop 1)
      | none, _ => throw .unknownFormat

/-- Whether a refusal says that there is no file. -/
def isAbsence : FileFault → Bool
  | .notFound | .notDirectory => true
  | _ => false

/-- What starts with the first of several paths that can be started; a script that does not say what
interprets it is one of this language. Without such a path, there is the last refusal of a file that
is there, or else the last one. -/
def firstImage (machine : Machine) (arguments : List String) :
    List String → FileFault → Except FileFault Image
  | [], fault => .error fault
  | path :: rest, fault =>
      match imageAt machine deepestInterpreter path arguments with
      | .ok image => .ok image
      | .error .unknownFormat =>
          .ok { program := "sh", arguments := "sh" :: path :: arguments.drop 1 }
      | .error next =>
          firstImage machine arguments rest
            (if isAbsence next && !isAbsence fault then fault else next)

/-- Has a command of the catalog do its work. -/
def runUtility (work : Utility.Work Unit) (title : String) : Act Unit := do
  let desk : Utility.Desk := { command := title, environment := (← get).environment }
  match ← Course.within desk (Utility.finish work) with
  | (.ok status, _) => setStatus status
  | (.error (), desk) => setStatus desk.status

/-- What the system says when a program cannot be started, and the status that tells of it. -/
def startRefusal (isWordy : Bool) (fault : FileFault) : String × Nat :=
  match fault with
  | .notFound | .notDirectory =>
      if isWordy then (faultText fault, 127) else ("not found", 127)
  | .nameTooLong => (faultText fault, 127)
  | fault => (faultText fault, 126)

/-- The variables that a script sets for itself. -/
def ownVariables (session : Session) (machine : Machine) : List (String × String) :=
  [("IFS", standardSeparators), ("OPTIND", "1"), ("PATH", session.searchedDirectories),
    ("PPID", toString machine.own.parent), ("PS1", "# "), ("PS2", "> "), ("PS4", "+ "),
    ("PWD", machine.herePath)]

/-- The state of a new script in the place of the program at hand: it is given the variables that
are exported. -/
def Session.fresh (session : Session) (machine : Machine) (name : String)
    (arguments : List String) : Session :=
  let own := (ownVariables session machine).map fun (name, value) =>
    let isExported := (session.binding? name).any Variable.isExported
    (name, ({ value := some value, isExported } : Variable))
  let given := session.bindings.filter fun entry =>
    entry.2.isExported && entry.2.value.isSome && (own.lookup entry.1).isNone
  { bindings := own ++ given
    ignored := machine.own.ignored
    script := machine.current
    place := machine.herePath
    name, arguments }

/-- The text of a file. -/
def fileText (name : String) : Act (Except FileFault String) := do
  match ← Course.openPath .forReading name with
  | .error fault => return .error fault
  | .ok channel =>
      let number ← keepChannel channel
      match ← Course.read number 0 with
      | .error fault =>
          Course.close number
          return .error fault
      | .ok _ =>
          let content ← readToEnd number endlessSteps .empty
          Course.close number
          return .ok (contentOctets content)

section

variable (evaluate : Evaluator)

/-- Fails before the first line of a new script. -/
def failAtStart {α : Type} (text : String) : Act α := do
  atLine 0
  fail text

/-- Carries out a new script: a text among the operands, a file, or the input. -/
def runShell (isWordy : Bool) (title : String) (operands : List String) : Act Unit := do
  let session ← get
  set (← Course.ask fun machine => { session.fresh machine title [] with isWordy })
  let options := operands.takeWhile fun operand =>
    (operand.startsWith "-" || operand.startsWith "+") && 1 < operand.length && operand != "--"
  let rest := operands.drop options.length
  let rest := if rest.head? == some "--" then rest.drop 1 else rest
  let letters := options.flatMap fun option => option.toList.drop 1
  for option in options do
    for letter in option.toList.drop 1 do
      unless letter == 'c' do
        if letter == 'o' || !isSettingLetter letter then
          failAtStart ("Illegal option -" ++ String.singleton letter)
        switchSetting (option.startsWith "-") letter
  if letters.contains 'c' then
    match rest with
    | [] => failAtStart "-c requires an argument"
    | text :: rest =>
        modify fun session =>
          { session with name := rest.headD title, arguments := rest.drop 1 }
        runLastText evaluate text
  else if letters.contains 's' || rest.isEmpty then
    modify fun session => { session with arguments := rest }
    runFileText evaluate (contentOctets (← readToEnd 0 endlessSteps .empty))
  else
    let name := rest.headD ""
    match ← fileText name with
    | .error fault =>
        failAtStart ("cannot open " ++ name ++ ": " ++ refusalText "No such file" fault)
    | .ok text =>
        modify fun session => { session with name, arguments := rest.drop 1 }
        runFileText evaluate text

/-- Starts the program at the first path of several where there is one, and says in a given way why
none of them can be started. -/
def startFirst (run : Image → Act Unit) (refuse : FileFault → Act Unit) (paths : List String)
    (arguments : List String) : Act Unit := do
  let image : Except FileFault Image ← Course.ask fun machine =>
    firstImage machine arguments paths .notFound
  match image with
  | .ok image => do
      Course.startAnew
      run image
  | .error fault => refuse fault

/-- Starts a program by its name or path. -/
def startBy (run : Image → Act Unit) (refuse : FileFault → Act Unit) (name : String)
    (arguments : List String) : Act Unit := do
  startFirst run refuse (pathsOf (← get).searchedDirectories name) arguments

end

end HingeField.Shell
