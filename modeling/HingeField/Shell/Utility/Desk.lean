import HingeField.Shell.Options
import HingeField.Shell.Redirect

/-!
What commands on files and texts work with: what they have read and not used yet,
and what they have still to write. Options may stand anywhere among operands.
-/

namespace HingeField.Shell.Utility

/-- What has been read from a descriptor and not been used yet: lines with their ends, and the
start of the next one. -/
structure Input where
  descriptor : Nat
  /-- The byte that ends a line. -/
  lineEnd : UInt8 := 10
  lines : List String := []
  start : String := ""
  isAtEnd : Bool := false

/-- What is still to be written to a descriptor. -/
structure Outlet where
  descriptor : Nat
  held : String := ""

structure Desk where
  command : String
  environment : List (String × String) := []
  status : Nat := 0
  /-- What is still to be written to the output. -/
  held : String := ""
  inputs : List Input := []
  outlets : List Outlet := []
  /-- Why the output could not be written. -/
  fault? : Option FileFault := none

/-- The work of a command, which may end before its last step. -/
abbrev Work := Course Unit Desk

/-- How much is held before it is written. -/
def heldSize : Nat := 4096

/-- Writes what is held for the output. -/
def flush : Work Unit := do
  let held ← modifyGet fun desk => (desk.held, { desk with held := "" })
  unless held.isEmpty do
    match ← Course.write 1 (octetsContent held) with
    | .ok () => pure ()
    | .error fault =>
        modify fun desk => { desk with fault? := some fault }
        throw ()

def put (octets : String) : Work Unit := do
  let size ← modifyGet fun desk =>
    let held := desk.held ++ octets
    (held.utf8ByteSize, { desk with held })
  if heldSize ≤ size then flush

def setStatus (status : Nat) : Work Unit :=
  modify fun desk => { desk with status }

/-- Gives the status unless a greater one is there. -/
def raiseStatus (status : Nat) : Work Unit :=
  modify fun desk => { desk with status := max desk.status status }

/-- Ends the work. -/
def leave {α : Type} : Work α :=
  throw ()

/-- Writes to the error output as it is, behind what is held for the output. -/
def putError (octets : String) : Work Unit := do
  flush
  let _ ← (Course.write 2 (octetsContent octets) : Work _)

/-- Says something on the error output, in the name of the command. -/
def remark (text : String) : Work Unit := do
  putError ((← get).command ++ ": " ++ text ++ "\n")

/-- Reports a failure, which gives the status unless a greater one is there. -/
def warn (status : Nat) (text : String) : Work Unit := do
  remark text
  raiseStatus status

/-- Reports a failure and ends the work. -/
def refuse {α : Type} (status : Nat) (text : String) : Work α := do
  warn status text
  leave

def hintText (command : String) : String :=
  "Try '" ++ command ++ " --help' for more information.\n"

/-- Reports a wrong use of the command. -/
def misuse (status : Nat) (text : String) : Work Unit := do
  warn status text
  putError (hintText (← get).command)

/-- Reports an argument of an option that is flawed, as it is none of those that are allowed or may
be several of them. They are given with those that stand for the same in a line of their own. -/
def misuseFlawedWord (flaw : String) (status : Nat) (word option : String)
    (allowed : List (List String)) : Work Unit := do
  let line := fun words : List String =>
    "  - " ++ String.intercalate ", " (words.map inCurlyQuotes) ++ "\n"
  warn status (flaw ++ " argument " ++ inCurlyQuotes word ++ " for " ++ inCurlyQuotes option)
  putError ("Valid arguments are:\n" ++ String.join (allowed.map line) ++
    hintText (← get).command)

/-- Reports an argument of an option that is none of those that are allowed. -/
def misuseWord : Nat → String → String → List (List String) → Work Unit :=
  misuseFlawedWord "invalid"

/-- What a word that is the argument of an option stands for. The beginning of a word stands for the
whole one if it is the beginning of no other. -/
def chooseWord {α : Type} (status : Nat) (option word : String) (allowed : List (String × α)) :
    Work α := do
  let fitting :=
    match allowed.find? fun entry => entry.1 == word with
    | some entry => [entry]
    | none => allowed.filter fun entry => entry.1.startsWith word
  match fitting with
  | [entry] => return entry.2
  | _ =>
      misuseFlawedWord (if fitting.isEmpty then "invalid" else "ambiguous") status word option
        (allowed.map fun entry => [entry.1])
      leave

/-- Reports a wrong use of a command that puts its name in front of the hint too. -/
def misuseNamed (text : String) : Work Unit := do
  warn 2 text
  remark ("Try '" ++ (← get).command ++ " --help' for more information.")

/-! ### Names in messages -/

/-- Whether a name must be quoted in a message. -/
def needsQuotes (isStrict : Bool) (name : String) : Bool :=
  name.isEmpty ||
    name.toList.any (fun c =>
      c < ' ' || c == '\x7f' || " !\x22$&'()*;<=>?[\\^\x60|".toList.contains c ||
        (isStrict && c == ':')) ||
    "#~".toList.any (fun c => name.toList.head? == some c)

/-- A name in straight quotes. -/
def inQuotes (name : String) : String :=
  if name.contains '\x27' && !name.toList.any (fun c => "\x22$\\\x60".toList.contains c) then
    "\x22" ++ name ++ "\x22"
  else "'" ++ String.intercalate "'\\''" (name.splitOn "'") ++ "'"

/-- A name as messages show it: in quotes only where it needs them. -/
def shownName (name : String) : String :=
  if needsQuotes true name then inQuotes name else name

/-! ### Options -/

/-- The long names of options with their letters. -/
abbrev LongNames := List (String × Char)

/-- Why operands cannot be read as options. -/
inductive MisuseOf where
  | unknownLetter (letter : Char)
  | unknownName (operand : String)
  | missingFor (letter : Char)
  | missingForName (name : String)
  | unexpectedFor (name : String)

def MisuseOf.message : MisuseOf → String
  | .unknownLetter letter => "invalid option -- '" ++ String.singleton letter ++ "'"
  | .unknownName operand => "unrecognized option '" ++ operand ++ "'"
  | .missingFor letter => "option requires an argument -- '" ++ String.singleton letter ++ "'"
  | .missingForName name => "option '--" ++ name ++ "' requires an argument"
  | .unexpectedFor name => "option '--" ++ name ++ "' doesn't allow an argument"

/-- The long option that a name or its beginning stands for. -/
def longOption? (names : LongNames) (name : String) : Option (String × Char) :=
  match names.find? fun entry => entry.1 == name with
  | some entry => some entry
  | none =>
      match names.filter fun entry => entry.1.startsWith name with
      | [entry] => some entry
      | _ => none

/-- The options among operands, which end at two dashes, or at the first operand that is none if
`isLeading`. Letters behind a blank stand for options that have long names only. -/
def findOptions (allowed : List Char) (names : LongNames) (isLeading : Bool) :
    List String → Except MisuseOf Options
  | [] => return {}
  | operand :: rest =>
      match operand.toList with
      | ['-', '-'] => return { operands := rest }
      | '-' :: '-' :: text => do
          let name := text.takeWhile (· != '=')
          let given? :=
            match text.drop name.length with
            | _ :: value => some (String.ofList value)
            | [] => none
          match longOption? names (String.ofList name) with
          | none => throw (.unknownName ("--" ++ String.ofList name))
          | some (name, letter) =>
              match argumentNeed? allowed letter, given?, rest with
              | some .always, some argument, rest | some .attached, some argument, rest =>
                  return (← findOptions allowed names isLeading rest).behind letter argument
              | some .always, none, argument :: rest =>
                  return (← findOptions allowed names isLeading rest).behind letter argument
              | some .always, none, [] => throw (.missingForName name)
              | _, some _, _ => throw (.unexpectedFor name)
              | _, none, rest =>
                  return (← findOptions allowed names isLeading rest).behind letter ""
      | '-' :: letter :: letters =>
          match letterOptions (allowed.takeWhile (· != ' ')) (letter :: letters) with
          | .error (.unknown letter) => throw (.unknownLetter letter)
          | .error (.withoutArgument letter) => throw (.missingFor letter)
          | .ok read => do
              let complete := read.filterMap fun (letter, argument?) =>
                argument?.map fun argument => (letter, argument)
              match read.find? fun option => option.2.isNone, rest with
              | none, rest =>
                  let later ← findOptions allowed names isLeading rest
                  return { later with letters := complete ++ later.letters }
              | some (letter, _), argument :: rest =>
                  let later ← findOptions allowed names isLeading rest
                  return { later with letters := complete ++ (letter, argument) :: later.letters }
              | some (letter, _), [] => throw (.missingFor letter)
      | _ =>
          if isLeading then return { operands := operand :: rest }
          else do
            let later ← findOptions allowed names isLeading rest
            return { later with operands := operand :: later.operands }

/-- Works with the options and operands of a command, unless it is used in a wrong way. -/
def withOptions (allowed : String) (names : LongNames) (status : Nat) (operands : List String)
    (work : Options → Work Unit) : Work Unit := do
  match findOptions allowed.toList names false operands with
  | .ok options => work options
  | .error defect => misuse status defect.message

/-! ### Files -/

/-- How many bytes are read at once. -/
def chunkSize : Nat := 4096

/-- Opens an operand; a dash stands for the input. Returns the descriptor. -/
def openOperand (name : String) : Work (Except FileFault Nat) :=
  if name = "-" then return .ok 0 else Course.openFrom 3 .forReading name

def closeOperand (descriptor : Nat) : Work Unit := do
  if descriptor ≠ 0 then Course.close descriptor
  modify fun desk =>
    { desk with
      inputs := desk.inputs.filter fun input =>
        input.descriptor != descriptor || descriptor == 0 }

def inputOf (descriptor : Nat) : Work Input := do
  let desk ← get
  return (desk.inputs.find? fun input => input.descriptor == descriptor).getD { descriptor }

def putInput (input : Input) : Work Unit :=
  modify fun desk =>
    { desk with
      inputs := input :: desk.inputs.filter fun other => other.descriptor != input.descriptor }

/-- Lines with their ends, last one first, and the start of the next one. -/
def splitContent (lineEnd : UInt8) (start : String) (content : ByteArray) :
    List String × String :=
  content.foldl
    (fun (lines, current) byte =>
      let current := current.push (Char.ofNat byte.toNat)
      if byte == lineEnd then (current :: lines, "") else (lines, current))
    ([], start)

/-- The next line of a descriptor, with its end unless it is the last one and has none. -/
def nextLine (descriptor : Nat) : Nat → Work (Except FileFault (Option String))
  | 0 => return .ok none
  | fuel + 1 => do
      let input ← inputOf descriptor
      match input.lines with
      | line :: lines => do
          putInput { input with lines }
          Course.spend 1
          return .ok (some line)
      | [] =>
          if input.isAtEnd then
            putInput { input with start := "" }
            return .ok (if input.start.isEmpty then none else some input.start)
          else
            match ← Course.read descriptor chunkSize with
            | .error fault => return .error fault
            | .ok content =>
                if content.isEmpty then putInput { input with isAtEnd := true }
                else
                  let (lines, start) := splitContent input.lineEnd input.start content
                  putInput { input with lines := lines.reverse, start }
                nextLine descriptor fuel

/-- Has lines of a descriptor end with another byte. -/
def setLineEnd (descriptor : Nat) (lineEnd : UInt8) : Work Unit := do
  putInput { ← inputOf descriptor with lineEnd }

/-- Does something with each line of a descriptor while it asks for more. -/
def forEachLine (descriptor : Nat) (work : String → Work Bool) : Nat → Work (Except FileFault Unit)
  | 0 => return .ok ()
  | fuel + 1 => do
      match ← nextLine descriptor endlessSteps with
      | .error fault => return .error fault
      | .ok none => return .ok ()
      | .ok (some line) =>
          if ← work line then forEachLine descriptor work fuel else return .ok ()

/-- All bytes up to the end of a descriptor, behind those that have been read. -/
def readRest (descriptor : Nat) : Nat → ByteArray → Work (Except FileFault ByteArray)
  | 0, read => return .ok read
  | fuel + 1, read => do
      match ← Course.read descriptor wholeSize with
      | .error fault => return .error fault
      | .ok content =>
          if content.isEmpty then return .ok read
          else readRest descriptor fuel (if read.isEmpty then content else read ++ content)
where
  /-- How many bytes are read at once. -/
  wholeSize : Nat := 65536

/-- Up to so many bytes of a descriptor, behind those that have been read. -/
def readUpTo (descriptor : Nat) : Nat → Nat → ByteArray → Work (Except FileFault ByteArray)
  | 0, _, read => return .ok read
  | fuel + 1, count, read => do
      if count = 0 then return .ok read
      match ← Course.read descriptor (min count chunkSize) with
      | .error fault => return .error fault
      | .ok content =>
          if content.isEmpty then return .ok read
          else readUpTo descriptor fuel (count - content.size) (read ++ content)

/-- The bytes of an operand; a dash stands for the input. -/
def readOperand (name : String) : Work (Except FileFault String) := do
  match ← openOperand name with
  | .error fault => return .error fault
  | .ok descriptor =>
      let content ← readRest descriptor endlessSteps .empty
      closeOperand descriptor
      return content.map contentOctets

/-- The bytes that a name leads to. -/
def readNamed (name : String) : Work (Except FileFault String) :=
  readOperand (if name = "-" then "./-" else name)

/-- Replaces the content of a file, or adds to it. -/
def writeNamed (appends : Bool) (name octets : String) : Work (Option FileFault) := do
  match ← Course.openFrom 3 (if appends then .forAdding else .forWriting) name with
  | .error fault => return some fault
  | .ok descriptor =>
      let written ← Course.write descriptor (octetsContent octets)
      Course.close descriptor
      match written with
      | .ok () => return none
      | .error fault => return some fault

/-- Does something with the bytes of each operand, or with the input if there is none. Files that
cannot be read are reported. -/
def forEachInput (status : Nat) (phrase : String → String) (operands : List String)
    (work : String → String → Work Unit) : Work Unit :=
  (if operands.isEmpty then ["-"] else operands).forM fun name => do
    match ← readOperand name with
    | .ok octets => work name octets
    | .error fault => warn status (phrase name ++ ": " ++ faultText fault)

/-- Does something with each line of the operands, or of the input if there is none; a byte is given
that ends lines. Files that cannot be read are reported. -/
def forEachInputLineBy (lineEnd : UInt8) (status : Nat) (phrase : String → String)
    (operands : List String) (work : String → Work Unit) : Work Unit :=
  (if operands.isEmpty then ["-"] else operands).forM fun name => do
    match ← openOperand name with
    | .error fault => warn status (phrase name ++ ": " ++ faultText fault)
    | .ok descriptor => do
        setLineEnd descriptor lineEnd
        let step := fun line : String => do
          work line
          return true
        match ← forEachLine descriptor step endlessSteps with
        | .ok () => closeOperand descriptor
        | .error fault =>
            closeOperand descriptor
            warn status (phrase name ++ ": " ++ faultText fault)

/-- Does something with each line of the operands, or of the input if there is none. -/
def forEachInputLine : Nat → (String → String) → List String → (String → Work Unit) → Work Unit :=
  forEachInputLineBy 10

/-- The bytes of all operands together, or of the input if there is none. -/
def allInput (status : Nat) (phrase : String → String) (operands : List String) : Work String := do
  let mut octets := ""
  for name in (if operands.isEmpty then ["-"] else operands) do
    match ← readOperand name with
    | .ok read => octets := octets ++ read
    | .error fault => warn status (phrase name ++ ": " ++ faultText fault)
  return octets

/-! ### Further outputs -/

/-- Writes what is held for a descriptor. -/
def flushOutlet (descriptor : Nat) : Work Unit := do
  if descriptor = 1 then flush
  else
    let desk ← get
    match desk.outlets.find? fun outlet => outlet.descriptor == descriptor with
    | none => pure ()
    | some outlet =>
        set { desk with
          outlets := { descriptor } ::
            desk.outlets.filter fun other => other.descriptor != descriptor }
        unless outlet.held.isEmpty do
          let _ ← (Course.write descriptor (octetsContent outlet.held) : Work _)

/-- Writes to a descriptor, some time. -/
def putTo (descriptor : Nat) (octets : String) : Work Unit := do
  if descriptor = 1 then put octets
  else
    let size ← modifyGet fun desk =>
      let (own, others) :=
        desk.outlets.partition fun outlet => outlet.descriptor == descriptor
      let held := ((own.head?.map Outlet.held).getD "") ++ octets
      (held.utf8ByteSize, { desk with outlets := { descriptor, held } :: others })
    if heldSize ≤ size then flushOutlet descriptor

/-- Writes all that is held. -/
def flushAll : Work Unit := do
  for outlet in (← get).outlets do flushOutlet outlet.descriptor
  flush

/-! ### The end -/

/-- Asks a question on the error output; a line that starts with a `y` answers it with yes. -/
def isGranted (question : String) : Work Bool := do
  putError ((← get).command ++ ": " ++ question ++ "? ")
  match ← nextLine 0 endlessSteps with
  | .ok (some line) => return line.startsWith "y" || line.startsWith "Y"
  | _ => return false

/-- Counts what has been read from a file and not been used as not read. -/
def giveBack (input : Input) : Work Unit := do
  let unused := input.start.length + (input.lines.map String.length).foldl (· + ·) 0
  if unused ≠ 0 then
    Course.onMachine fun machine =>
      match machine.own.descriptor? input.descriptor with
      | none => machine
      | some found =>
          { machine with
            channels := machine.channels.modify found.channel fun channel =>
              match channel.medium with
              | .node _ => { channel with offset := channel.offset - unused }
              | _ => channel }

/-- Ends the work of a command: what is held is written, and what was not used given back. Returns
the status. -/
def finish (work : Work Unit) : Work Nat := do
  let _ ← Course.outcome work
  let _ ← Course.outcome flushAll
  for input in (← get).inputs do giveBack input
  match (← get).fault? with
  | none => return (← get).status
  | some fault =>
      let text := (← get).command ++ ": write error: " ++ faultText fault ++ "\n"
      let _ ← (Course.write 2 (octetsContent text) : Work _)
      return max 1 (← get).status

/-! ### Lines -/

/-- The lines of some bytes, each without the line feed that ends it. -/
def linesOf (octets : String) : List String :=
  let pieces := octets.splitOn "\n"
  if pieces.getLast? = some "" then pieces.dropLast else pieces

/-- The lines of some bytes, each with the line feed that ends it. -/
def endedLines (octets : String) : List String :=
  match octets.splitOn "\n" with
  | [] => []
  | pieces =>
      let ended := pieces.dropLast.map fun piece => piece ++ "\n"
      let last := pieces.getLastD ""
      if last.isEmpty then ended else ended ++ [last]

def line (text : String) : String :=
  text ++ "\n"

end HingeField.Shell.Utility
