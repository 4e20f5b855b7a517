import HingeField.Shell.Records.Evaluation

/-!
The command that carries out a program for records: its options, the arguments
that the program sees, and how it ends.
-/

namespace HingeField.Shell.Records

open Utility (Work Launcher)

/-- What the options of the command ask for. -/
structure Request where
  /-- The files the program is in. -/
  files : List String := []
  /-- The settings of variables, in their order. -/
  settings : List (String × String) := []
  operands : List String := []

/-- Why the options cannot be followed, or what is asked for in place of a program. -/
inductive RequestStop where
  | defect (text : String)
  | usage
  | version

/-- The words behind the letter for options of this command alone. -/
def specialWords : List String :=
  ["version", "dump", "help", "interactive", "exec", "posix", "random", "sprintf", "traditional",
    "usage"]

/-- The word that a beginning of it stands for. -/
def specialWord? (text : String) : Option String :=
  let name := (text.splitOn "=").headD ""
  if name.isEmpty then none else specialWords.find? fun word => word.startsWith name

/-- Reads options up to the first operand; warns of what is no option of this command. -/
def readRequest : Nat → Request → List String → Except RequestStop Request × List String
  | 0, request, operands => (.ok { request with operands }, [])
  | _ + 1, request, [] => (.ok request, [])
  | fuel + 1, request, operand :: rest =>
      let defect := fun text : String =>
        (Except.error (RequestStop.defect text), ([] : List String))
      let special := fun (text : String) (rest : List String) =>
        match specialWord? text with
        | some "version" => (Except.error .version, [])
        | some "help" | some "usage" => (Except.error .usage, [])
        | some "exec" =>
            match rest with
            | [] => defect "option -W lacks argument"
            | file :: rest =>
                (.ok { request with files := request.files ++ [file], operands := rest }, [])
        | some _ => readRequest fuel request rest
        | none =>
            let (outcome, warnings) := readRequest fuel request rest
            (outcome, ("vacuous option: -W \x22" ++ text ++ "\x22") :: warnings)
      let take := fun (letter : Char) (argument : String) (rest : List String) =>
        match letter with
        | 'f' => readRequest fuel { request with files := request.files ++ [argument] } rest
        | 'F' =>
            readRequest fuel { request with settings := request.settings ++ [("FS", argument)] }
              rest
        | 'v' =>
            match setting? argument with
            | some setting =>
                readRequest fuel { request with settings := request.settings ++ [setting] } rest
            | none => defect ("improper assignment: -v " ++ argument)
        | _ => special argument rest
      match operand.toList with
      | ['-', '-'] => (.ok { request with operands := rest }, [])
      | '-' :: '-' :: name =>
          if (specialWord? (String.ofList name)).isSome then special (String.ofList name) rest
          else defect ("not an option: " ++ operand)
      | '-' :: letter :: attached =>
          if "fFvW".toList.contains letter then
            if attached.isEmpty then
              match rest with
              | [] => defect ("option -" ++ String.singleton letter ++ " lacks argument")
              | argument :: rest => take letter argument rest
            else take letter (String.ofList attached) rest
          else defect ("not an option: " ++ operand)
      | _ => (.ok { request with operands := operand :: rest }, [])

/-- How the command is used. -/
def usageText : String :=
  String.intercalate "\n" [
    "Usage: mawk [Options] [Program] [file ...]",
    "",
    "Program:",
    "    The -f option value is the name of a file containing program text.",
    "    If no -f option is given, a \x22--\x22 ends option processing; the following",
    "    parameters are the program text.",
    "",
    "Options:",
    "    -f program-file  Program  text is read from file instead of from the",
    "                     command-line.  Multiple -f options are accepted.",
    "    -F value         sets the field separator, FS, to value.",
    "    -v var=value     assigns value to program variable var.",
    "    --               unambiguous end of options.",
    "",
    "    Implementation-specific options are prefixed with \x22-W\x22.  They can be",
    "    abbreviated:",
    "",
    "    -W version       show version information and exit.",
    "    -W compat        pre-POSIX 2001.",
    "    -W dump          show assembler-like listing of program and exit.",
    "    -W help          show this message and exit.",
    "    -W interactive   set unbuffered output, line-buffered input.",
    "    -W exec file     use file as program as well as last option.",
    "    -W posix         stricter POSIX checking.",
    "    -W random=number set initial random seed.",
    "    -W sprintf=number adjust size of sprintf buffer.",
    "    -W usage         show this message and exit.",
    ""]

/-- A table under names. -/
def tableOfNames (entries : List (String × String)) : Table :=
  entries.foldl (fun table (name, value) => table.put { text := name } (.input value)) {}

/-- The state a program starts in. -/
def startOf (desk : Utility.Desk) (command : String) (program : Program) (arguments : List String) :
    Store :=
  let known : List (String × Slot) :=
    [("NR", .datum (.number 0.0)), ("FNR", .datum (.number 0.0)), ("FS", .datum (.text " ")),
      ("RS", .datum (.text "\n")), ("OFS", .datum (.text " ")), ("ORS", .datum (.text "\n")),
      ("SUBSEP", .datum (.text "\x1c")), ("CONVFMT", .datum (.text "%.6g")),
      ("OFMT", .datum (.text "%.6g")), ("RSTART", .datum (.number 0.0)),
      ("RLENGTH", .datum (.number (-1.0))), ("ENVIRON", .table 0),
      ("ARGC", .datum (Datum.ofNat arguments.length)), ("ARGV", .table 1)]
  let numbered := arguments.zipIdx.foldl
    (fun (table : Table) (argument, number) =>
      table.put { text := toString number, isWhole := true } (.input argument)) {}
  { desk, command, functions := program.functions, names := program.names
    shared := program.names.map fun name => (known.lookup name).getD .unset
    tables := #[tableOfNames desk.environment, numbered] }

/-- Checks the separator of fields that an option has set. -/
def checkSeparator : Running Unit := do
  let separator ← sharedText "FS"
  if 1 < separator.length then
    match readExpression separator with
    | .ok _ => pure ()
    | .error defect =>
        abandon ("line 0: regular expression compile failed (" ++ defect.message ++ ")\n" ++
          separator)

/-- Carries out a program with settings. -/
def carryOut (launch : Launcher) (settings : List (String × String)) (program : Program) :
    Running Unit := do
  let started ← Course.outcome do
    for (name, value) in settings do takeSetting name value
    checkSeparator
  match started with
  | .ok () => runProgram launch program
  | .error _ => pure ()
  let _ ← Course.outcome closeAll

/-- Writes to the error output, behind nothing. -/
def putFault (octets : String) : Work Unit := do
  let _ ← (Course.write 2 (octetsContent octets) : Work _)

/-- The texts of files that hold a program. -/
def programTexts (command : String) : List String → Work (List (Option String × String))
  | [] => return []
  | file :: rest => do
      match ← (Utility.readOperand file : Work (Except FileFault String)) with
      | .ok octets => return (some file, octets) :: (← programTexts command rest)
      | .error fault =>
          putFault (command ++ ": cannot open \x22" ++ file ++ "\x22 (" ++ faultText fault ++ ")\n")
          Utility.setStatus 2
          Utility.leave

/-- Carries out a program for records on the files and settings among the operands. -/
def processRecords (launch : Launcher) (operands : List String) : Work Unit := do
  let desk ← get
  let command := (desk.command.splitOn "/").getLastD desk.command
  let (outcome, warnings) := readRequest (operands.length + 1) {} operands
  for warning in warnings do putFault (command ++ ": " ++ warning ++ "\n")
  match outcome with
  | .error (.defect text) =>
      putFault (command ++ ": " ++ text ++ "\n")
      Utility.setStatus 2
  | .error .usage => putFault usageText
  | .error .version => Utility.put "mawk 1.3.4 20240123\n"
  | .ok request =>
      if request.files.isEmpty && request.operands.isEmpty then
        if operands.isEmpty then putFault usageText
      else
        let parts ← (do
          if request.files.isEmpty then return [(none, request.operands.headD "")]
          let texts ← programTexts command request.files
          return texts)
        let arguments := if request.files.isEmpty then request.operands.drop 1 else request.operands
        match readProgram command parts with
        | .error messages =>
            for message in messages do putFault (message ++ "\n")
            Utility.setStatus 2
        | .ok program =>
            let store := startOf (← get) command program (command :: arguments)
            let (_, store) ← Course.within store (carryOut launch request.settings program)
            set { store.desk with status := store.status }

end HingeField.Shell.Records
