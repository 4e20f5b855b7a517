import HingeField.Shell.Utility.EditText
import HingeField.Shell.Utility.Expression

/-!
Scripts of edits: addresses that select lines, and commands for them. A script
is a row of instructions; the braces around a block and the labels of jumps are
places in that row. It may be given in several parts.
-/

namespace HingeField.Shell.Utility

/-- An expression an edit refers to; `none` is the one that was used last. -/
structure Wanted where
  regex : Option Regex
  ignoresCase : Bool := false
  isManyLined : Bool := false

inductive Address where
  | line (number : Nat)
  | last
  | pattern (wanted : Wanted)
  | every (first step : Nat)

/-- Where a range of lines ends. -/
inductive RangeEnd where
  | at (address : Address)
  | count (lines : Nat)
  | multiple (number : Nat)

/-- The lines that an instruction is for. -/
inductive Selector where
  | all
  | one (address : Address)
  | range (first : Address) (last : RangeEnd)

inductive ReplacementPart where
  | text (sign : Char)
  | group (number : Nat)
  | caseFrom (sign : Char)

structure Substitution where
  wanted : Wanted
  replacement : List ReplacementPart
  isGlobal : Bool := false
  isPrinted : Bool := false
  /-- Whether the result is carried out as a command. -/
  isExecuted : Bool := false
  /-- Whether the result is printed before it is carried out. -/
  isPrintedFirst : Bool := false
  number? : Option Nat := none
  file? : Option String := none

inductive Edit where
  | opening (closing : Nat)
  | closing
  | substitute (substitution : Substitution)
  | transliterate (pairs : List (Char × Char))
  | appendText (octets : String)
  | insertText (octets : String)
  | changeText (octets : String)
  | readNamed (name : String)
  | readLineOf (name : String)
  | writeNamed (name : String)
  | writeFirstTo (name : String)
  | execute (command? : Option String)
  | jump (sign : Char) (target : Option Nat)
  | label
  | quit (isSilent : Bool) (status : Nat)
  | display (width? : Option Nat)
  | simple (letter : Char)

structure Instruction where
  selector : Selector
  isNegated : Bool
  edit : Edit

/-- A part of a script: its text, and the name of its file if it is from one. -/
structure ScriptPart where
  octets : String
  file? : Option String := none

/-- Why a script is none, with the status that tells of it. -/
structure EditDefect where
  status : Nat := 1
  message : String

structure EditSource where
  /-- What is left of the part at hand. -/
  text : List Char
  /-- All of the part at hand. -/
  whole : List Char
  file? : Option String := none
  /-- How many parts that are no files have been started. -/
  expressions : Nat := 0
  isExtended : Bool
  /-- The instructions read so far, last one first, with the labels of jumps not yet resolved. -/
  instructions : List (Instruction × Option String) := []
  labels : List (String × Nat) := []
  /-- The places of the braces that are open, innermost first. -/
  opened : List Nat := []
  /-- Whether the text of the last command goes on in the next part. -/
  isTextOpen : Bool := false

abbrev EditReading := StateT EditSource (Except EditDefect)

namespace EditReading

/-- Reports a defect of the script in front of what is left. -/
def refuse {α : Type} (text : String) : EditReading α := do
  let source ← get
  let read := source.whole.take (source.whole.length - source.text.length)
  let place :=
    match source.file? with
    | some name =>
        let lines := (read.filter (· == '\n')).length + 1
        "file " ++ name ++ " line " ++ toString lines
    | none =>
        "-e expression #" ++ toString source.expressions ++ ", char " ++ toString read.length
  throw { message := place ++ ": " ++ text }

def peek : EditReading (Option Char) := do
  return (← get).text.head?

def goTo (rest : List Char) : EditReading Unit :=
  modify fun source => { source with text := rest }

def skip (count : Nat) : EditReading Unit := do
  goTo ((← get).text.drop count)

def takeWhile (fits : Char → Bool) : EditReading (List Char) := do
  let source ← get
  let taken := source.text.takeWhile fits
  goTo (source.text.drop taken.length)
  return taken

def takes (c : Char) : EditReading Bool := do
  if (← peek) == some c then
    skip 1
    return true
  else return false

def isBlank (c : Char) : Bool :=
  c == ' ' || c == '\t'

def skipBlanks : EditReading Unit := do
  let _ ← takeWhile isBlank

def readNumber : EditReading Nat := do
  let digits ← takeWhile Char.isDigit
  return (String.ofList digits).toNat?.getD 0

/-- The text up to a delimiter. -/
def readUpTo (delimiter : Char) (isRegex : Bool) (message : String) : EditReading (List Char) := do
  let text := (← get).text
  match upToDelimiter delimiter isRegex .outside ' ' text with
  | some (found, rest) =>
      goTo rest
      return found
  | none =>
      goTo (text.drop (lineLength text))
      refuse message
where
  /-- The length of a line; behind a backslash it goes on. -/
  lineLength : List Char → Nat
    | [] => 0
    | '\n' :: _ => 0
    | '\\' :: _ :: rest => lineLength rest + 2
    | _ :: rest => lineLength rest + 1

/-- Reads an expression; an empty one is that used last, for which no modifiers are allowed. -/
def compile (text : List Char) (wanted : Wanted) : EditReading Wanted := do
  if text.isEmpty then
    if wanted.ignoresCase || wanted.isManyLined then
      refuse "cannot specify modifiers on empty regexp"
    return wanted
  let octets := String.ofList (withEscapes false text.length text)
  match Dialect.parse { isExtended := (← get).isExtended, isStrict := true } (signsOf octets) with
  | .ok (regex, _) => return { wanted with regex := some regex }
  | .error text =>
      if text.startsWith "character class syntax" then throw { status := 4, message := text }
      else refuse text

/-- The modifiers of an expression. -/
def readModifiers : Nat → Wanted → EditReading Wanted
  | 0, wanted => return wanted
  | fuel + 1, wanted => do
      skipBlanks
      if ← takes 'I' then readModifiers fuel { wanted with ignoresCase := true }
      else if ← takes 'M' then readModifiers fuel { wanted with isManyLined := true }
      else return wanted

def readAddress? : EditReading (Option Address) := do
  match ← peek with
  | some '$' =>
      skip 1
      return some .last
  | some c =>
      if c.isDigit then
        let first ← readNumber
        skipBlanks
        if ← takes '~' then
          skipBlanks
          let step ← readNumber
          return some (if step = 0 then .line first else .every first step)
        else return some (.line first)
      else if c == '/' || c == '\\' then
        skip 1
        let delimiter ← if c == '/' then pure '/' else do
          let delimiter := (← peek).getD '\n'
          skip 1
          pure delimiter
        let text ← readUpTo delimiter true "unterminated address regex"
        let wanted ← readModifiers (← get).text.length { regex := none }
        return some (.pattern (← compile text wanted))
      else return none
  | none => return none

def isLineZero : Address → Bool
  | .line 0 => true
  | _ => false

def readSelector : EditReading Selector := do
  match ← peek with
  | some '+' | some '~' =>
      skip 1
      skipBlanks
      let _ ← readNumber
      refuse "invalid usage of +N or ~N as first address"
  | _ => pure ()
  match ← readAddress? with
  | none => return .all
  | some first =>
      skipBlanks
      let selector ← (do
        if ← takes ',' then
          skipBlanks
          if ← takes '+' then
            skipBlanks
            return Selector.range first (.count (← readNumber))
          else if ← takes '~' then
            skipBlanks
            return .range first (.multiple (← readNumber))
          else match ← readAddress? with
            | some final => return .range first (.at final)
            | none =>
                skip 1
                refuse "unexpected \x60,'"
        else return .one first)
      if isLineZero first then
        match selector with
        | .range _ (.at (.pattern _)) => pure ()
        | _ =>
            skip 1
            refuse "invalid usage of line address 0"
      return selector

/-- The parts of a replacement. -/
def replacementParts : List Char → List ReplacementPart
  | [] => []
  | '&' :: rest => .group 0 :: replacementParts rest
  | '\\' :: c :: rest =>
      let part : ReplacementPart :=
        if c.isDigit then .group (c.toNat - '0'.toNat)
        else if "LUluE".toList.contains c then .caseFrom c
        else .text c
      part :: replacementParts rest
  | c :: rest => .text c :: replacementParts rest

/-- The name of a file up to the end of the line. -/
def readName : EditReading String := do
  skipBlanks
  let name ← takeWhile (· != '\n')
  if name.isEmpty then refuse "missing filename in r/R/w/W commands"
  skip 1
  return String.ofList name

/-- The flags of a substitution, with what ends them. -/
def readFlags : Nat → Substitution → EditReading Substitution
  | 0, substitution => return substitution
  | fuel + 1, substitution => do
      let letter? ← peek
      match letter? with
      | some '\x7d' | some '#' | none => return substitution
      | some c =>
          if c.isDigit then
            let number ← readNumber
            if substitution.number?.isSome then refuse "multiple number options to \x60s' command"
            if number = 0 then refuse "number option to \x60s' command may not be zero"
            return ← readFlags fuel { substitution with number? := some number }
          skip 1
          match c with
          | '\n' | ';' => return substitution
          | ' ' | '\t' => readFlags fuel substitution
          | 'g' =>
              if substitution.isGlobal then refuse "multiple \x60g' options to \x60s' command"
              readFlags fuel { substitution with isGlobal := true }
          | 'p' =>
              if substitution.isPrinted || substitution.isPrintedFirst then
                refuse "multiple \x60p' options to \x60s' command"
              readFlags fuel
                (if substitution.isExecuted then { substitution with isPrinted := true }
                else { substitution with isPrintedFirst := true })
          | 'i' | 'I' =>
              readFlags fuel
                { substitution with wanted := { substitution.wanted with ignoresCase := true } }
          | 'm' | 'M' =>
              readFlags fuel
                { substitution with wanted := { substitution.wanted with isManyLined := true } }
          | 'e' => readFlags fuel { substitution with isExecuted := true }
          | 'w' => return { substitution with file? := some (← readName) }
          | _ => refuse "unknown option to \x60s'"

def readSubstitution : EditReading Edit := do
  let delimiter := (← peek).getD '\n'
  skip 1
  let unterminated := "unterminated \x60s' command"
  let pattern ← readUpTo delimiter true unterminated
  let text ← readUpTo delimiter false unterminated
  let signs := signsOf (String.ofList (withEscapes true text.length text))
  let replacement := replacementParts signs
  let read ← readFlags ((← get).text.length + 1) { wanted := { regex := none }, replacement }
  let read :=
    if read.isExecuted then read
    else { read with isPrinted := read.isPrinted || read.isPrintedFirst, isPrintedFirst := false }
  let wanted ← compile pattern read.wanted
  let highest := (replacement.map fun part : ReplacementPart =>
    match part with
    | .group number => number
    | _ => 0).max?.getD 0
  match wanted.regex with
  | some regex =>
      if regex.groupCount < highest then
        refuse ("invalid reference \\" ++ toString highest ++ " on \x60s' command's RHS")
  | none => pure ()
  return .substitute { read with wanted }

def readTransliteration : EditReading Edit := do
  let delimiter := (← peek).getD '\n'
  skip 1
  let unterminated := "unterminated \x60y' command"
  let source ← readUpTo delimiter false unterminated
  let target ← readUpTo delimiter false unterminated
  let signs := fun text : List Char => signsOf (String.ofList (plainText text.length text))
  let first := signs source
  let second := signs target
  if first.length ≠ second.length then
    refuse "strings for \x60y' command are different lengths"
  return .transliterate (first.zip second)

/-- The rest of the text of a command. -/
def readOpenText : EditReading String := do
  let source ← get
  let (text, rest, isTextOpen) := readTextLines source.text
  set { source with text := rest, isTextOpen }
  return String.ofList (plainText text.length text ++ ['\n'])

/-- The text of a command, on its own line or the next ones. -/
def readText : EditReading String := do
  skipBlanks
  match (← get).text with
  | [] => refuse "expected \\ after \x60a', \x60c' or \x60i'"
  | ['\\'] =>
      skip 1
      modify fun source => { source with isTextOpen := true }
      return ""
  | '\\' :: '\n' :: rest =>
      goTo rest
      readOpenText
  | '\\' :: c :: rest =>
      if isBlank c || c == '\\' then
        goTo (c :: rest)
        readOpenText
      else
        goTo rest
        return String.singleton c ++ (← readOpenText)
  | _ => readOpenText

/-- The name of a label. -/
def readLabel : EditReading String := do
  skipBlanks
  let name ← takeWhile fun c => !isBlank c && c != '\n' && c != ';' && c != '\x7d'
  return String.ofList name

def add (selector : Selector) (isNegated : Bool) (edit : Edit) (target : Option String) :
    EditReading Unit :=
  modify fun source =>
    { source with
      instructions := ({ selector, isNegated, edit }, target) :: source.instructions }

/-- What may stand behind a command. -/
def endCommand : EditReading Unit := do
  skipBlanks
  match ← peek with
  | none => return
  | some c =>
      if c == ';' || c == '\n' then skip 1
      else if c == '\x7d' || c == '#' then return
      else
        skip 1
        refuse "extra characters after command"

/-- A number behind a command, if there is one. -/
def readNumber? : EditReading (Option Nat) := do
  skipBlanks
  if (← peek).any Char.isDigit then return some (← readNumber) else return none

/-- Closes the innermost block. -/
def closeBlock (selector : Selector) : EditReading Unit := do
  let place := (← get).instructions.length
  match (← get).opened, selector with
  | [], _ => refuse "unexpected \x60\x7d'"
  | innermost :: outer, .all =>
      modify fun source =>
        { source with
          opened := outer
          instructions := source.instructions.mapIdx fun index entry =>
            if source.instructions.length - 1 - index = innermost then
              ({ entry.1 with edit := .opening place }, none)
            else entry }
      add .all false .closing none
      endCommand
  | _, _ => refuse "\x60\x7d' doesn't want any addresses"

/-- Whether a text names a version that is not yet there. -/
def isNewer (version : String) : Bool :=
  let numbers := (version.splitOn ".").map String.toNat?
  match numbers with
  | [] | [some 0] => false
  | some major :: some minor :: _ => 4 < major || (major = 4 && 9 < minor)
  | [some major] => 4 < major
  | _ => !version.isEmpty

def readCommand (selector : Selector) (isNegated : Bool) : EditReading Unit := do
  let hasAddress :=
    match selector with
    | .all => false
    | _ => true
  match ← peek with
  | none => refuse "missing command"
  | some c =>
      skip 1
      let add := add selector isNegated
      match c with
      | '#' =>
          if hasAddress then refuse "comments don't accept any addresses"
          let _ ← takeWhile (· != '\n')
      | '\x7b' =>
          modify fun source =>
            { source with opened := source.instructions.length :: source.opened }
          add (.opening 0) none
      | '\x7d' => closeBlock selector
      | ':' =>
          if hasAddress then refuse ": doesn't want any addresses"
          let name ← readLabel
          if name.isEmpty then refuse "\":\" lacks a label"
          modify fun source =>
            { source with labels := (name, source.instructions.length) :: source.labels }
          add .label none
      | 's' => add (← readSubstitution) none
      | 'y' =>
          add (← readTransliteration) none
          endCommand
      | 'a' => add (.appendText (← readText)) none
      | 'i' => add (.insertText (← readText)) none
      | 'c' => add (.changeText (← readText)) none
      | 'e' =>
          skipBlanks
          let command ← takeWhile (· != '\n')
          skip 1
          add (.execute (if command.isEmpty then none else some (String.ofList command))) none
      | 'r' => add (.readNamed (← readName)) none
      | 'R' => add (.readLineOf (← readName)) none
      | 'w' => add (.writeNamed (← readName)) none
      | 'W' => add (.writeFirstTo (← readName)) none
      | 'b' | 't' | 'T' =>
          let name ← readLabel
          add (.jump c none) (if name.isEmpty then none else some name)
          endCommand
      | 'q' | 'Q' =>
          match selector with
          | .range _ _ => refuse "command only uses one address"
          | _ => pure ()
          let status := (← readNumber?).getD 0
          add (.quit (c == 'Q') status) none
          endCommand
      | 'l' =>
          add (.display (← readNumber?)) none
          endCommand
      | 'v' =>
          let version ← readLabel
          if isNewer version then refuse "expected newer version of sed"
          endCommand
      | c =>
          if "dDpPnNgGhHx=zF".toList.contains c then
            add (.simple c) none
            endCommand
          else refuse ("unknown command: \x60" ++ String.singleton c ++ "'")

/-- Reads commands up to the end of a part. -/
def readCommands : Nat → EditReading Unit
  | 0 => return
  | fuel + 1 => do
      let _ ← takeWhile fun c => c == ';' || c == '\n' || isBlank c
      match ← peek with
      | none => return
      | some _ =>
          let selector ← readSelector
          skipBlanks
          let isNegated ← takes '!'
          if isNegated then
            skipBlanks
            if ← takes '!' then refuse "multiple \x60!'s"
          readCommand selector isNegated
          readCommands fuel

/-- Adds octets to the text of a command. -/
def withMoreText (more : String) : Edit → Edit
  | .appendText octets => .appendText (octets ++ more)
  | .insertText octets => .insertText (octets ++ more)
  | .changeText octets => .changeText (octets ++ more)
  | edit => edit

/-- Reads a part of a script; the text of a command may go on in it. -/
def readScriptPart (part : ScriptPart) : EditReading Unit := do
  let text := part.octets.toList
  modify fun source =>
    { source with
      text, whole := text, file? := part.file?
      expressions := if part.file?.isSome then source.expressions else source.expressions + 1 }
  if (← get).isTextOpen then
    let more ← readOpenText
    modify fun source =>
      match source.instructions with
      | (instruction, label?) :: rest =>
          { source with
            instructions :=
              ({ instruction with edit := withMoreText more instruction.edit }, label?) :: rest }
      | [] => source
  readCommands (text.length + 1)

end EditReading

/-- Whether a script asks for quiet in its first line. -/
def asksForQuiet : List ScriptPart → Bool
  | [] => false
  | part :: _ =>
      match part.file?, part.octets.toList with
      | some _, '#' :: 'n' :: rest => rest.isEmpty || rest.head? == some '\n'
      | none, '#' :: 'n' :: _ => true
      | _, _ => false

/-- Reads a script of edits. -/
def readEdits (isExtended : Bool) (parts : List ScriptPart) :
    Except EditDefect (Array Instruction) := do
  let reading := parts.forM EditReading.readScriptPart
  let (_, source) ← reading.run { text := [], whole := [], isExtended }
  if !source.opened.isEmpty then
    throw { message := "-e expression #1, char 0: unmatched \x60\x7b'" }
  let resolved ← source.instructions.reverse.mapM fun (instruction, label?) =>
    match instruction.edit, label? with
    | .jump sign _, some label =>
        match source.labels.lookup label with
        | some place => .ok { instruction with edit := .jump sign (some place) }
        | none =>
            .error
              { status := 4, message := "can't find label for jump to \x60" ++ label ++ "'" }
    | _, _ => .ok instruction
  return resolved.toArray

end HingeField.Shell.Utility
