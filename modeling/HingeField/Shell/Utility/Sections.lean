import HingeField.Shell.Conversion
import HingeField.Shell.Utility.Expression
import HingeField.Shell.Utility.Splitting

/-!
The command that cuts a text into files where its operands say: in front of the
lines with some numbers, or of those that expressions fit. What the files hold is
found first; then they are written.
-/

namespace HingeField.Shell.Utility

/-! ### Cuts -/

/-- Where a text is cut. -/
inductive CutPlace where
  | line (number : Nat)
  /-- At a line that is so far behind one that an expression fits; what is before is left out if it
  is skipped. -/
  | fitting (expression : Regex) (offset : Int) (isSkipped : Bool)

/-- A cut, as an operand gives it, and how often it is repeated; without a count for ever. -/
structure SectionCut where
  operand : String
  place : CutPlace
  again? : Option Nat := some 0

/-- A number without a sign that a whole text stands for. -/
def wholeNumber? (text : String) : Option Nat :=
  let start := text.toList.dropWhile isSpace
  let digits := if start.head? == some '+' then start.drop 1 else start
  if digits.all Char.isDigit then (String.ofList digits).toNat? else none

namespace SectionCut

/-- Reads a cut at a line that an expression fits. -/
def ofExpression (operand : String) (delimiter : Char) : Except String SectionCut := do
  let shown := inCurlyQuotes operand
  let behind := (operand.toList.reverse.takeWhile (· != delimiter)).reverse
  let inside := (operand.toList.drop 1).take (operand.length - behind.length - 2)
  if operand.length < behind.length + 2 then
    throw (operand ++ ": closing delimiter '" ++ String.singleton delimiter ++ "' missing")
  let expression ←
    match Regex.parse false (decode (String.ofList inside)) with
    | .ok expression => pure expression
    | .error text => throw (shown ++ ": invalid regular expression: " ++ text)
  let isNegative := (behind.dropWhile isSpace).head? == some '-'
  let digits := if isNegative then (behind.dropWhile isSpace).drop 1 else behind
  let offset ←
    match behind, wholeNumber? (String.ofList digits) with
    | [], _ => pure (0 : Int)
    | _, some number => pure (if isNegative then -(number : Int) else number)
    | _, none => throw (shown ++ ": integer expected after delimiter")
  return { operand, place := .fitting expression offset (delimiter == '%') }

/-- Reads how often a cut is repeated. -/
def repeated (cut : SectionCut) (count : String) : Except String SectionCut := do
  unless count.endsWith "\x7d" do
    throw (inCurlyQuotes count ++ ": '\x7d' is required in repeat count")
  let text := String.ofList ((count.toList.drop 1).dropLast)
  if text = "*" then return { cut with again? := none }
  else
    match wholeNumber? text with
    | some number => return { cut with again? := some number }
    | none =>
        throw (inCurlyQuotes (count.dropEnd 1).toString ++
          "\x7d: integer required between '\x7b' and '\x7d'")

end SectionCut

/-- Reads the cuts that operands stand for. Says which of them are the same line as the one before,
and why the rest cannot be read, if that is so. -/
def readCuts : Nat → Nat → List String → List SectionCut × List String × Option String
  | 0, _, _ | _, _, [] => ([], [], none)
  | fuel + 1, last, operand :: rest =>
      let shown := inCurlyQuotes operand
      let read : Except String (SectionCut × Nat × List String) :=
        match operand.toList.head? with
        | some '/' => (SectionCut.ofExpression operand '/').map fun cut => (cut, last, [])
        | some '%' => (SectionCut.ofExpression operand '%').map fun cut => (cut, last, [])
        | _ =>
            match wholeNumber? operand with
            | none => .error (shown ++ ": invalid pattern")
            | some 0 => .error (operand ++ ": line number must be greater than zero")
            | some number =>
                if number < last then
                  .error ("line number " ++ shown ++
                    " is smaller than preceding line number, " ++ toString last)
                else
                  .ok ({ operand, place := .line number }, number,
                    if number = last then
                      ["warning: line number " ++ shown ++ " is the same as preceding line number"]
                    else [])
      match read with
      | .error text => ([], [], some text)
      | .ok (cut, last, warnings) =>
          let isCount := rest.head?.any fun next => next.startsWith "\x7b"
          match (if isCount then cut.repeated (rest.headD "") else .ok cut) with
          | .error text => ([], warnings, some text)
          | .ok cut =>
              let (cuts, others, defect?) :=
                readCuts fuel last (if isCount then rest.drop 1 else rest)
              (cut :: cuts, warnings ++ others, defect?)

/-! ### Files -/

/-- Why there are no more files. -/
inductive SectionEnd where
  /-- The rest of the text has been used. -/
  | complete
  /-- A cut cannot be made; whether that is said behind what is held for the output. -/
  | failed (text : String) (isBehind : Bool)
  | vanished

/-- How far a text has been cut. -/
structure Sections where
  /-- The lines that have not been used. -/
  lines : List String
  /-- The number of the first of them. -/
  first : Nat := 1
  /-- The number of the line that has been looked at last. -/
  current : Nat := 0
  isSuppressing : Bool := false
  skipsEmpty : Bool := false
  /-- What the files hold, the last one first. -/
  files : List String := []
  /-- What the file at hand holds, the last piece first. -/
  opened? : Option (List String) := none

/-- Work on the sections of a text, which may end before its last step. -/
abbrev Sectioning := ExceptT SectionEnd (StateM Sections)

namespace Sectioning

/-- The line with a number that has not been used. -/
def findLine (number : Nat) : Sectioning (Option String) := do
  let sections ← get
  return if number < sections.first then none else sections.lines[number - sections.first]?

/-- Uses the next line. -/
def takeLine : Sectioning (Option String) :=
  modifyGet fun sections =>
    match sections.lines with
    | [] => (none, sections)
    | text :: lines =>
        (some text, { sections with
          lines, first := sections.first + 1, current := max sections.current sections.first })

def openFile : Sectioning Unit :=
  modify fun sections => { sections with opened? := some [] }

def save (text : String) : Sectioning Unit :=
  modify fun sections => { sections with opened? := sections.opened?.map (text :: ·) }

/-- Ends the file at hand, which is none if it is empty and such files are left out. -/
def closeFile : Sectioning Unit :=
  modify fun sections =>
    match sections.opened? with
    | none => sections
    | some pieces =>
        let text := String.join pieces.reverse
        let isKept := !text.isEmpty || !sections.skipsEmpty
        { sections with
          opened? := none, files := if isKept then text :: sections.files else sections.files }

/-- Uses all lines that are left. -/
def saveRest : Sectioning Unit :=
  modify fun sections =>
    { sections with
      lines := []
      first := sections.first + sections.lines.length
      opened? := sections.opened?.map (sections.lines.reverse ++ ·) }

/-- What a failure says about the repetition it is at. -/
def repetitionText (repetition : Nat) : String :=
  if repetition = 0 then "" else " on repetition " ++ toString repetition

/-- Fails as there is no line with a number. -/
def failAtLine {α : Type} (number repetition : Nat) : Sectioning α := do
  throw (.failed
    (inCurlyQuotes (toString number) ++ ": line number out of range" ++ repetitionText repetition)
    false)

/-- Uses lines up to a number. -/
def saveLines (isSkipped : Bool) (fail : Sectioning Unit) : Nat → Sectioning Unit
  | 0 => pure ()
  | count + 1 => do
      match ← takeLine with
      | none => fail
      | some text =>
          unless isSkipped do save text
          saveLines isSkipped fail count

/-- Whether no line is behind the one that has been looked at last. -/
def isAtEnd : Sectioning Bool := do
  return (← findLine ((← get).current + 1)).isNone

/-- Cuts in front of the line with a number. -/
def cutAtLine (number repetition : Nat) : Sectioning Unit := do
  openFile
  let isSuppressing := (← get).isSuppressing
  if isSuppressing then
    if ← isAtEnd then failAtLine number repetition
  let sections ← get
  if sections.lines.isEmpty then throw .vanished
  saveLines false (failAtLine number repetition) (number * (repetition + 1) - sections.first)
  closeFile
  if isSuppressing then
    let _ ← takeLine
  else if ← isAtEnd then failAtLine number repetition

/-- Looks for the next line that an expression fits; those before it are used if they are not to be
kept for a cut before it. -/
def searchLine (expression : Regex) (keeps isSkipped : Bool) (missing : Sectioning Unit) :
    Nat → Sectioning Unit
  | 0 => pure ()
  | fuel + 1 => do
      let number := (← get).current + 1
      modify fun sections => { sections with current := number }
      match ← findLine number with
      | none => missing
      | some text =>
          let text := if text.endsWith "\n" then (text.dropEnd 1).toString else text
          unless expression.isIn (decode text) do
            unless keeps do
              if let some text ← takeLine then
                unless isSkipped do save text
            searchLine expression keeps isSkipped missing fuel

/-- Cuts at a line that an expression fits. -/
def cutAtFit (cut : SectionCut) (expression : Regex) (offset : Int) (isSkipped : Bool)
    (repetition : Nat) : Sectioning Unit := do
  unless isSkipped do openFile
  let missing : Sectioning Unit := do
    unless isSkipped do
      saveRest
      closeFile
    if cut.again?.isNone then throw .complete
    else
      throw (.failed
        (inCurlyQuotes cut.operand ++ ": match not found" ++ repetitionText repetition) false)
  searchLine expression (offset < 0) isSkipped missing ((← get).lines.length + 2)
  let goal := ((← get).current : Int) + offset
  let outOfRange : Sectioning Unit :=
    throw (.failed (inCurlyQuotes cut.operand ++ ": line number out of range") true)
  let first := (← get).first
  if goal < first then outOfRange
  saveLines isSkipped outOfRange (goal - first).toNat
  unless isSkipped do closeFile
  if 0 < offset then modify fun sections => { sections with current := goal.toNat }
  if (← get).isSuppressing then
    let _ ← takeLine

/-- Makes a cut as often as it is repeated. -/
def makeCut (cut : SectionCut) : Nat → Nat → Sectioning Unit
  | 0, _ => pure ()
  | fuel + 1, repetition => do
      if cut.again?.all fun again => repetition ≤ again then
        match cut.place with
        | .line number => cutAtLine number repetition
        | .fitting expression offset isSkipped =>
            cutAtFit cut expression offset isSkipped repetition
        makeCut cut fuel (repetition + 1)

/-- Makes all cuts; what is left is the last file. -/
def makeCuts (cuts : List SectionCut) : Sectioning Unit := do
  for cut in cuts do
    let endless := (← get).lines.length + 2
    makeCut cut (cut.again?.elim endless (· + 1)) 0
  openFile
  saveRest
  closeFile

end Sectioning

/-! ### The command -/

/-- The form of the names of files: what they start with, and how their numbers are shown. -/
structure SectionNames where
  stem : String := "xx"
  lead : String := ""
  conversion : Conversion := { flags := ['0'], width := 2 }
  letter : Char := 'd'
  ending : String := ""

namespace SectionNames

/-- The form that a format with one conversion gives. -/
def withFormat (names : SectionNames) (format : String) : Except String SectionNames := do
  let (lead, behind) := upToConversion format.toList
  match behind with
  | none => throw "missing % conversion specification in suffix"
  | some text =>
      let flags := text.takeWhile fun c => "-0\x27#".toList.contains c
      let width := (text.drop flags.length).takeWhile Char.isDigit
      let rest := text.drop (flags.length + width.length)
      let places := (rest.drop 1).takeWhile Char.isDigit
      let hasPoint := rest.head? == some '.'
      let rest := if hasPoint then rest.drop (1 + places.length) else rest
      match rest with
      | [] => throw "missing conversion specifier in suffix"
      | letter :: rest =>
          unless "diuoxX".toList.contains letter do
            throw ("invalid conversion specifier in suffix: " ++ String.singleton letter)
          let misfit := if "oxX".toList.contains letter then '\x27' else '#'
          if flags.contains misfit || flags.contains '\x27' && misfit == '\x27' then
            throw ("invalid flags in conversion specification: %" ++ String.singleton misfit ++
              String.singleton letter)
          let (ending, other) := upToConversion rest
          if other.isSome then throw "too many % conversion specifications in suffix"
          let number := fun digits : List Char => ((String.ofList digits).toNat?).getD 0
          let precision := if hasPoint then some (number places) else none
          return { names with
            lead := String.ofList lead, letter, ending := String.ofList ending
            conversion := { flags, width := number width, precision } }
where
  /-- The text up to a conversion, with pairs of signs as one, and what is behind its sign. -/
  upToConversion : List Char → List Char × Option (List Char)
    | [] => ([], none)
    | '%' :: '%' :: rest =>
        let (lead, behind) := upToConversion rest
        ('%' :: lead, behind)
    | '%' :: rest => ([], some rest)
    | c :: rest =>
        let (lead, behind) := upToConversion rest
        (c :: lead, behind)

/-- The name of the file with a number. -/
def name (names : SectionNames) (number : Nat) : String :=
  let shown :=
    if "oxX".toList.contains names.letter then names.conversion.unsigned names.letter number
    else names.conversion.integer number
  names.stem ++ names.lead ++ shown ++ names.ending

end SectionNames

/-- Deletes files, whether they are there or not. -/
def removeAll (paths : List String) : Work Unit := do
  for path in paths do
    let _ ← (Course.onDisk fun disk here time => disk.unlink here path time : Work _)

/-- Writes what the files hold, and shows how long they are; returns their names. If one of them
cannot be written, those before it are deleted unless they are kept. -/
def writeSections (names : SectionNames) (isQuiet keeps : Bool) :
    List String → List String → Work (List String)
  | [], written => return written
  | text :: rest, written => do
      let name := names.name written.length
      match ← writeNamed false name text with
      | none => do
          unless isQuiet do put (toString text.length ++ "\n")
          writeSections names isQuiet keeps rest (written ++ [name])
      | some fault => do
          warn 1 (shownName name ++ ": " ++ faultText fault)
          unless keeps do removeAll written
          leave

/-- The names that options ask for. -/
def sectionNamesOf (options : Options) : Work SectionNames := do
  let mut names : SectionNames := {}
  for (letter, text) in options.letters do
    match letter with
    | 'f' => names := { names with stem := text }
    | 'n' =>
        match wholeNumber? text with
        | none => refuse 1 ("invalid number: " ++ inCurlyQuotes text)
        | some digits =>
            names := { names with conversion := { names.conversion with width := digits } }
    | _ => pure ()
  match options.argument? 'b' with
  | none => return names
  | some format =>
      match names.withFormat format with
      | .ok formed => return formed
      | .error text => refuse 1 text

/-- Cuts a text into files where operands say. -/
def cutSections (operands : List String) : Work Unit :=
  withOptions "b:f:kn:qszx"
    [("prefix", 'f'), ("suffix-format", 'b'), ("digits", 'n'), ("quiet", 'q'), ("silent", 's'),
      ("keep-files", 'k'), ("elide-empty-files", 'z'), ("suppress-matched", 'x')] 1 operands
    fun options => do
    let names ← sectionNamesOf options
    let isQuiet := options.has 'q' || options.has 's'
    let keeps := options.has 'k'
    match options.operands with
    | [] => misuse 1 "missing operand"
    | [operand] => misuse 1 ("missing operand after " ++ inCurlyQuotes operand)
    | source :: operands => do
        match ← openOperand source with
        | .error fault =>
            refuse 1 ("cannot open " ++ inQuotes source ++ " for reading: " ++ faultText fault)
        | .ok descriptor => do
            let (cuts, warnings, defect?) := readCuts (operands.length + 1) 0 operands
            for text in warnings do remark text
            if let some text := defect? then refuse 1 text
            match ← readRest descriptor endlessSteps .empty with
            | .error fault => do
                warn 1 ("read error: " ++ faultText fault)
                let isSkipped := cuts.head?.any fun cut => cut.operand.startsWith "%"
                unless isSkipped do
                  let written ← writeSections names isQuiet keeps [""] []
                  unless keeps do removeAll written
            | .ok content =>
                let start : Sections :=
                  { lines := linesEnded '\n' (contentOctets content)
                    isSuppressing := options.has 'x', skipsEmpty := options.has 'z' }
                let (outcome, sections) := (Sectioning.makeCuts cuts).run.run start
                let files := (Sectioning.closeFile.run.run sections).2.files.reverse
                match outcome with
                | .error (.failed text isBehind) => do
                    let early := if isBehind then sections.files.length else files.length
                    let written ← writeSections names isQuiet keeps (files.take early) []
                    if isBehind then remark text
                    let written ←
                      writeSections names isQuiet keeps (files.drop early) written
                    unless isBehind do
                      let line := (← get).command ++ ": " ++ text ++ "\n"
                      let _ ← (Course.write 2 (octetsContent line) : Work _)
                    raiseStatus 1
                    unless keeps do removeAll written
                | .error .vanished => do
                    let _ ← writeSections names true keeps files []
                    refuse 1 "input disappeared"
                | _ => do
                    let _ ← writeSections names isQuiet keeps files []

end HingeField.Shell.Utility
