import HingeField.Shell.Delegation
import HingeField.Shell.Permission
import HingeField.Shell.Signal

/-!
The commands that are part of the script's own language, by their names.
-/

namespace HingeField.Shell

/-! ### Leaving -/

/-- Ends the script with a status, the last one unless another is given. -/
def leaveScript (operands : List String) : Act Nat := do
  let session ← get
  let status ←
    match operands with
    | operand :: _ => countOf operand
    | [] => pure (session.savedStatus.getD session.status)
  setStatus status
  throw .finish

/-- Returns from a function with a status, the last one unless another is given. -/
def leaveFunction (operands : List String) : Act Nat := do
  match operands with
  | operand :: _ => setStatus (← countOf operand)
  | [] => pure ()
  throw .back

/-- Leaves or goes on with a loop, the innermost one unless a number is given; without a loop
around, nothing happens. -/
def leaveLoop (stop : Nat → Stop) (operands : List String) : Act Nat := do
  let count ←
    match operands with
    | operand :: _ =>
        let count ← countOf operand
        if count = 0 then fail ("Illegal number: " ++ operand)
        pure count
    | [] => pure 1
  let depth := (← get).loopDepth
  setStatus 0
  if 0 < depth then throw (stop (min count depth - 1))
  return 0

/-! ### Descriptions -/

/-- A line that shows an alias. -/
def aliasLine (entry : String × String) : String :=
  entry.1 ++ "=" ++ singleQuoted entry.2 ++ "\n"

/-- What a name stands for as a command, in short or in full. Whether it was found before is told
only where it is searched as usual. -/
def describe (isFull isUsual : Bool) (name : String) : Act Nat := do
  let session ← get
  let tell := fun (short full : String) =>
    say ((if isFull then name ++ " " ++ full else short) ++ "\n")
  if keywords.contains name then tell name "is a shell keyword"
  else if let some text := session.aliases.lookup name then
    if isFull then tell "" ("is an alias for " ++ text)
    else say ("alias " ++ aliasLine (name, text))
  else if specialNames.contains name then tell name "is a special shell builtin"
  else if (session.functions.lookup name).isSome then tell name "is a shell function"
  else if regularNames.contains name then tell name "is a shell builtin"
  else if name.contains '/' then
    if ← Course.ask fun machine => (machine.status? name).isSome then tell name ("is " ++ name)
    else missing
  else if !isUsual then
    let paths := pathsOf standardDirectories name
    let found : Except FileFault Nat ← Course.ask fun machine =>
      searchFrom machine none 0 paths .notFound
    match found with
    | .ok place =>
        let path := paths.getD place name
        tell path ("is " ++ path)
    | .error _ => missing
  else
    let isKnown := (session.findings.lookup name).isSome
    match ← if isKnown then pure (.ok ((session.findings.lookup name).elim 0 Finding.place))
        else findCommand name with
    | .ok place =>
        let path := session.pathAt name place
        tell path (if isKnown then "is a tracked alias for " ++ path else "is " ++ path)
    | .error _ => missing
where
  missing : Act Nat := do
    if isFull then
      let _ ← say (name ++ ": not found\n")
    return 127

def describeAll (isFull isUsual : Bool) : List String → Nat → Act Nat
  | [], status => return status
  | name :: rest, status => do
      let own ← describe isFull isUsual name
      describeAll isFull isUsual rest (max status own)

/-- Describes commands on request; otherwise there is nothing to do. -/
def describeCommand (operands : List String) : Act Nat := do
  let options ← optionsOf "pvV" operands
  let isUsual := !options.has 'p'
  if options.has 'V' then describeAll true isUsual (options.operands.take 1) 0
  else if options.has 'v' then describeAll false isUsual (options.operands.take 1) 0
  else return 0

/-! ### The rest -/

/-- A mask in octal digits. -/
def maskText (mask : Nat) : String :=
  let digits := Nat.toDigits 8 mask
  String.ofList (List.replicate (4 - digits.length) '0' ++ digits)

/-- The permissions that a mask leaves, by letters. -/
def maskLetters (mask : Nat) : String :=
  let letters := fun (shift : Nat) =>
    let kept := 7 - mask / Nat.pow 8 shift % 8
    (if 4 ≤ kept then "r" else "") ++ (if kept % 4 / 2 = 1 then "w" else "") ++
      (if kept % 2 = 1 then "x" else "")
  "u=" ++ letters 2 ++ ",g=" ++ letters 1 ++ ",o=" ++ letters 0

def setMask (operands : List String) : Act Nat := do
  let options ← optionsOf "S" operands
  match options.operands with
  | [] =>
      let mask ← Course.ask fun machine => machine.own.mask
      say ((if options.has 'S' then maskLetters mask else maskText mask) ++ "\n")
  | operand :: _ =>
      let mask ← Course.ask fun machine => machine.own.mask
      let putMask := fun mask : Nat => Course.onMachine fun machine =>
        machine.modifyOwn fun process => { process with mask }
      match readDigits 8 operand.toList with
      | some (mask, []) =>
          if 512 ≤ mask then fail ("Illegal number: " ++ operand)
          putMask mask
          return 0
      | _ =>
          match Permission.changes? operand with
          | some changes =>
              putMask (0o777 - (Permission.apply changes 0 false (0o777 - mask) &&& 0o777))
              return 0
          | none =>
              let isNumber := operand.toList.head?.any Char.isDigit
              fail ((if isNumber then "Illegal number: " else "Illegal mode: ") ++ operand)

/-- Complains that there is no alias with a name. -/
def missAlias (command name : String) : Act Nat := do
  let _ ← emit 2 (command ++ ": " ++ name ++ " not found\n")
  return 1

/-- Sets aliases, or shows those named, or all. -/
def setAliases (operands : List String) : Act Nat := do
  if operands.isEmpty then
    say (String.join ((scattered 39 (← get).aliases).map aliasLine))
  else
    let mut status := 0
    for operand in operands do
      match splitSetting operand, (← get).aliases.find? fun entry => entry.1 == operand with
      | (name, some text), _ =>
          modify fun session =>
            let others := session.aliases.filter fun entry => entry.1 != name
            { session with aliases := others ++ [(name, text)] }
      | (_, none), some entry => status := max status (← say (aliasLine entry))
      | (_, none), none => status := max status (← missAlias "alias" operand)
    return status

def unsetAliases (operands : List String) : Act Nat := do
  let options ← optionsOf "a" operands
  if options.has 'a' then modify fun session => { session with aliases := [] }
  let mut status := 0
  for name in options.operands do
    if (← get).aliases.any fun entry => entry.1 == name then
      modify fun session =>
        { session with aliases := session.aliases.filter fun entry => entry.1 != name }
    else status := max status (← missAlias "unalias" name)
  return status

/-- Shows where commands were found. -/
def showFindings : Act Nat := do
  let session ← get
  say (String.join ((scattered 31 session.findings).map fun (name, finding) =>
    session.pathAt name finding.place ++ (if finding.isStale then "*\n" else "\n")))

/-- Looks for commands, to find them faster later; shows them, or forgets them, on request. -/
def rememberCommands (operands : List String) : Act Nat := do
  let options ← optionsOf "r" operands
  if options.has 'r' then
    forgetFindings
    return 0
  if options.operands.isEmpty then return ← showFindings
  let mut status := 0
  for name in options.operands do
    modify fun session => session.forget name
    let session ← get
    unless (specialNames ++ regularNames).contains name ||
        (session.functions.lookup name).isSome || name.contains '/' do
      match ← findCommand name with
      | .ok _ => pure ()
      | .error fault =>
          complain (name ++ ": " ++ if isAbsence fault then "not found" else faultText fault)
          status := 1
  return status

def showTimes : Act Nat := do
  let row := "0m0.000000s 0m0.000000s\n"
  say (row ++ row)

section

variable (evaluate : Evaluator)

/-- Carries out operands as commands. -/
def runOperands (operands : List String) : Act Nat := do
  runText evaluate (String.intercalate " " operands)
  return (← get).status

/-- The file that a name leads to, directly or in the directories that are searched. -/
def sourcePath (name : String) : Act String := do
  if name.contains '/' then return name
  let session ← get
  let path? ← Course.ask fun machine => (session.pathsOf name).find? fun path =>
    (machine.status? path).any fun status => status.kind == .regular
  match path? with
  | some path => return path
  | none => fail (name ++ ": not found")

/-- Carries out the commands of a file. -/
def runSourceFile (operands : List String) : Act Nat := do
  match operands with
  | [] => return 0
  | name :: _ =>
      let path ← sourcePath name
      match ← fileText path with
      | .error .isDirectory => return 0
      | .error fault => refuseOpening .read path fault
      | .ok text =>
          restoring (fun before after => { after with commandName := before.commandName }) do
            modify fun session => { session with commandName := some path }
            match ← outcomeOf (runFileText evaluate text) with
            | .ok () => pure ()
            | .error .back => pure ()
            | .error stop => throw stop
            return (← get).status

/-- Carries out a command of the script's own language; returns its status. -/
def perform (name : String) (operands : List String) : Act Nat := do
  match name with
  | ":" => return 0
  | "true" => return 0
  | "false" => return 1
  | "." => do
      let options ← optionsOf "" operands
      runSourceFile evaluate options.operands
  | "eval" => runOperands evaluate operands
  | "exec" => return 0
  | "exit" => leaveScript operands
  | "return" => leaveFunction operands
  | "break" => leaveLoop .leave operands
  | "continue" => leaveLoop .again operands
  | "export" => exportVariables operands
  | "readonly" => protectVariables operands
  | "local" => makeLocal operands
  | "set" => setParameters operands
  | "shift" => shiftArguments operands
  | "unset" => unsetAll operands
  | "trap" => trapSignals operands
  | "times" => showTimes
  | "[" => testCondition true operands
  | "test" => testCondition false operands
  | "cd" => changeDirectory operands
  | "chdir" => changeDirectory operands
  | "pwd" => showPlace operands
  | "echo" => echo operands
  | "printf" => do
      match operands with
      | option :: _ =>
          if option.startsWith "-" && option != "--" && 1 < option.length then
            fail ("Illegal option " ++ (option.take 2).toString)
          else printFormat operands
      | [] => printFormat operands
  | "read" => readInput operands
  | "getopts" => nextOption operands
  | "kill" => sendSignal operands
  | "command" => describeCommand operands
  | "type" => describeAll true true operands 0
  | "umask" => setMask operands
  | "alias" => setAliases operands
  | "unalias" => unsetAliases operands
  | "hash" => rememberCommands operands
  | "wait" => do
      let options ← optionsOf "" operands
      awaitCommands options.operands
  | "jobs" => showJobs operands
  | "ulimit" => do
      let _ ← optionsOf "HSatfdscmlpnvwr" operands
      say "unlimited\n"
  | "fg" | "bg" => resumeJob operands
  | _ => return 0

end

end HingeField.Shell
