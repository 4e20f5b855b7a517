import HingeField.Shell.Utility.Order

/-!
The commands that put lines of several files side by side: those of two ordered
files in columns, or joined where a field is the same, and those of any files in
rows.
-/

namespace HingeField.Shell.Utility

/-! ### Columns of two ordered files -/

/-- A file of lines that are taken one by one: the line taken last, those not yet taken, and whether
a line out of order was met. -/
structure Reel where
  before? : Option String := none
  lines : List String
  isDisordered : Bool := false

/-- Takes the first line. Where order is looked at, the next line may not stand before it; at the
end the line itself may not stand before the one taken last. -/
def Reel.advance (isChecked : Bool) (reel : Reel) : Reel :=
  let isFirst := fun (next earlier : String) => isChecked && decide (next < earlier)
  match reel.lines with
  | [] => reel
  | current :: rest =>
      let found :=
        match rest.head? with
        | some next => isFirst next current
        | none => reel.before?.any (isFirst current)
      { before? := some current, lines := rest, isDisordered := reel.isDisordered || found }

/-- The lines of two ordered files, each with the column it belongs to, and with the files in which
disorder was met for the first time behind it. Order is looked at from the first line that only one
file has. -/
def mergeColumns : Nat → Bool → Reel → Reel → List (Nat × String × List Nat)
  | 0, _, _, _ => []
  | fuel + 1, isChecked, first, second =>
      let choice? : Option (Nat × String) :=
        match first.lines, second.lines with
        | [], [] => none
        | [], text :: _ => some (2, text)
        | text :: _, [] => some (1, text)
        | left :: _, right :: _ =>
            some <|
              if left = right then (3, left)
              else if left < right then (1, left)
              else (2, right)
      match choice? with
      | none => []
      | some (column, text) =>
          let isChecked := isChecked || column ≠ 3
          let nextFirst := if column = 2 then first else first.advance isChecked
          let nextSecond := if column = 1 then second else second.advance isChecked
          let found :=
            (if nextFirst.isDisordered && !first.isDisordered then [1] else []) ++
              (if nextSecond.isDisordered && !second.isDisordered then [2] else [])
          (column, text, found) :: mergeColumns fuel isChecked nextFirst nextSecond

/-- The bytes of two files, of which at most one may be the input. -/
def bothInputs (first second : String) : Work (String × String) := do
  match ← readOperand first, ← readOperand second with
  | .ok left, .ok right => return (left, right)
  | .error fault, _ =>
      warn 1 (shownName first ++ ": " ++ faultText fault)
      leave
  | _, .error fault =>
      warn 1 (shownName second ++ ": " ++ faultText fault)
      leave

def columnNames : LongNames :=
  [("nocheck-order", 'n'), ("check-order", 'k'), ("output-delimiter", 'd'), ("total", 't'),
    ("zero-terminated", 'z')]

def compareColumns (operands : List String) : Work Unit :=
  withOptions "123z d:nkt" columnNames 1 operands fun options => do
    match options.operands with
    | [first, second] =>
        let (left, right) ← bothInputs first second
        let lineEnd := if options.has 'z' then '\x00' else '\n'
        let left := linesBy lineEnd left
        let right := linesBy lineEnd right
        let rows := mergeColumns (left.length + right.length + 1) (options.has 'k')
          { lines := left } { lines := right }
        let isShown := fun number : Nat => !options.has (Char.ofNat ('0'.toNat + number))
        let glue := (options.argument? 'd').getD "\t"
        for (column, text, found) in rows do
          if isShown column then
            let before := [1, 2, 3].filter fun number => number < column && isShown number
            put ((String.join (before.map fun _ => glue) ++ text).push lineEnd)
          for number in found do
            unless options.has 'n' do
              warn 1 ("file " ++ toString number ++ " is not in sorted order")
              if options.has 'k' then leave
        if options.has 't' then
          let count := fun column : Nat =>
            toString (rows.filter fun row => row.1 = column).length
          put ((String.intercalate glue [count 1, count 2, count 3, "total"]).push lineEnd)
        if rows.any (fun row => !row.2.2.isEmpty) && !options.has 'n' then
          warn 1 "input is not in sorted order"
    | [] => misuse 1 "missing operand"
    | [first] => misuse 1 ("missing operand after " ++ inCurlyQuotes first)
    | _ :: _ :: extra :: _ => misuse 1 ("extra operand " ++ inCurlyQuotes extra)

/-! ### Joined lines of two ordered files -/

/-- A line with its fields. -/
structure FieldLine where
  text : String
  fields : Array String

/-- What stands in a row of the output: the field that is joined by, or one of a file. -/
inductive JoinPart where
  | shared
  | field (file place : Nat)

/-- How two files are joined. -/
structure JoinPlan where
  separator? : Option Char
  ignoresCase : Bool
  /-- The field of each file that is joined by, counted from zero. -/
  first : Nat
  second : Nat
  filler : Option String
  parts? : Option (List JoinPart)
  showsPairs : Bool
  /-- The files whose lines are shown that go with none of the other. -/
  lone : List Nat
  lineEnd : Char

/-- A file that is joined: the lines that are left, their numbers, and the last line taken. -/
structure JoinReel where
  name : String
  lines : List FieldLine
  number : Nat := 0
  before? : Option FieldLine := none
  isReported : Bool := false

namespace JoinPlan

/-- The fields of a line. -/
def fieldsOf (plan : JoinPlan) (text : String) : FieldLine :=
  let fields :=
    match plan.separator? with
    | some '\n' => [text]
    | some c => text.splitOn (String.singleton c)
    | none =>
        ((text.splitToList fun c => isFieldBlank c || c == '\n').filter fun field =>
          !field.isEmpty)
  { text, fields := fields.toArray }

def keyOf (plan : JoinPlan) (file : Nat) (line : FieldLine) : String :=
  (line.fields[if file = 1 then plan.first else plan.second]?).getD ""

/-- The order of two lines by the fields that are joined by. -/
def compare (plan : JoinPlan) (first second : String) : Ordering :=
  let cased := fun text : String =>
    if plan.ignoresCase then text.toList.map Char.toUpper else text.toList
  compareChars (cased first) (cased second)

def separator (plan : JoinPlan) : String :=
  String.singleton (plan.separator?.getD ' ')

/-- The text of a field, or what stands in for an empty one. -/
def fieldText (plan : JoinPlan) (line? : Option FieldLine) (place : Nat) : String :=
  let text := (line?.bind fun line => line.fields[place]?).getD ""
  if text.isEmpty then plan.filler.getD "" else text

/-- The row for a pair of lines, or for one that has no partner. -/
def row (plan : JoinPlan) (left? right? : Option FieldLine) : String :=
  let shared :=
    match left? with
    | some _ => plan.fieldText left? plan.first
    | none => plan.fieldText right? plan.second
  let texts :=
    match plan.parts? with
    | some parts =>
        parts.map fun part =>
          match part with
          | .shared => shared
          | .field 1 place => plan.fieldText left? place
          | .field _ place => plan.fieldText right? place
    | none =>
        let others := fun (line? : Option FieldLine) (key : Nat) =>
          match line? with
          | none => []
          | some line =>
              ((List.range line.fields.size).filter (· ≠ key)).map fun place =>
                plan.fieldText line? place
        shared :: others left? plan.first ++ others right? plan.second
  (String.intercalate plan.separator texts).push plan.lineEnd

/-- Reports a line that stands behind one it should stand before. -/
def check (plan : JoinPlan) (isChecked isFatal : Bool) (file : Nat) (reel : JoinReel)
    (line : FieldLine) : Work JoinReel := do
  let isWrong :=
    isChecked && !reel.isReported &&
      reel.before?.any fun before =>
        plan.compare (plan.keyOf file before) (plan.keyOf file line) == .gt
  if isWrong then
    remark (reel.name ++ ":" ++ toString reel.number ++ ": is not sorted: " ++ line.text)
    if isFatal then
      raiseStatus 1
      leave
    return { reel with isReported := true }
  return reel

/-- Takes the next line of a file. -/
def next (plan : JoinPlan) (isChecked isFatal : Bool) (file : Nat) (reel : JoinReel) :
    Work (Option FieldLine × JoinReel) := do
  match reel.lines with
  | [] => return (none, reel)
  | line :: lines =>
      let reel := { reel with lines, number := reel.number + 1 }
      let reel ← plan.check isChecked isFatal file reel line
      return (some line, { reel with before? := some line })

/-- Takes the lines of a file that have the same key as the first one; returns them with the line
that follows. -/
def takeSame (plan : JoinPlan) (isChecked isFatal : Bool) (file : Nat) (key : String) :
    Nat → JoinReel → Work (List FieldLine × Option FieldLine × JoinReel)
  | 0, reel => return ([], none, reel)
  | fuel + 1, reel => do
      match ← plan.next isChecked isFatal file reel with
      | (none, reel) => return ([], none, reel)
      | (some line, reel) =>
          if plan.compare (plan.keyOf file line) key == .eq then
            let (lines, after?, reel) ←
              plan.takeSame isChecked isFatal file key fuel reel
            return (line :: lines, after?, reel)
          else return ([], some line, reel)

/-- When lines out of order are reported: never, once a line has no partner, or always. -/
inductive Checking where
  | never
  | later
  | always
deriving DecidableEq

/-- Shows what is left of a file that has no partners any more. -/
def showRest (plan : JoinPlan) (isChecked isFatal : Bool) (file : Nat) :
    Nat → Option FieldLine → JoinReel → Work JoinReel
  | 0, _, reel => return reel
  | _, none, reel => return reel
  | fuel + 1, some line, reel => do
      if plan.lone.contains file then
        put (if file = 1 then plan.row (some line) none else plan.row none (some line))
      let (next?, reel) ← plan.next isChecked isFatal file reel
      plan.showRest isChecked isFatal file fuel next? reel

/-- Joins two files line by line, from a line of each on. -/
def run (plan : JoinPlan) (checking : Checking) :
    Nat → Bool → Option FieldLine → Option FieldLine → JoinReel → JoinReel → Work Unit
  | 0, _, _, _, _, _ => pure ()
  | fuel + 1, hasLone, left?, right?, first, second => do
      let isFatal := checking == .always
      let isChecked := fun hasLone : Bool =>
        isFatal || (checking == .later && hasLone)
      match left?, right? with
      | some left, some right =>
          match plan.compare (plan.keyOf 1 left) (plan.keyOf 2 right) with
          | .lt =>
              if plan.lone.contains 1 then put (plan.row (some left) none)
              let (next?, first) ← plan.next (isChecked hasLone) isFatal 1 first
              plan.run checking fuel true next? right? first second
          | .gt =>
              if plan.lone.contains 2 then put (plan.row none (some right))
              let (next?, second) ← plan.next (isChecked hasLone) isFatal 2 second
              plan.run checking fuel true left? next? first second
          | .eq =>
              let (lefts, nextLeft?, first) ←
                plan.takeSame (isChecked hasLone) isFatal 1 (plan.keyOf 2 right) endlessSteps first
              let (rights, nextRight?, second) ←
                plan.takeSame (isChecked hasLone) isFatal 2 (plan.keyOf 1 left) endlessSteps second
              if plan.showsPairs then
                for own in left :: lefts do
                  for other in right :: rights do put (plan.row (some own) (some other))
              plan.run checking fuel hasLone nextLeft? nextRight? first second
      | left?, right? =>
          let hasLone := hasLone || left?.isSome || right?.isSome
          let first ← plan.showRest (isChecked hasLone) isFatal 1 endlessSteps left? first
          let second ← plan.showRest (isChecked hasLone) isFatal 2 endlessSteps right? second
          if first.isReported || second.isReported then
            warn 1 "input is not in sorted order"

end JoinPlan

/-- The parts of rows that a text asks for. -/
def joinParts (text : String) : Except String (List JoinPart) :=
  let words := (text.splitToList fun c => c == ',' || c == ' ' || c == '\t').filter fun word =>
    !word.isEmpty
  words.mapM fun word =>
    match word.splitOn "." with
    | ["0"] => .ok .shared
    | [file, place] =>
        if file != "1" && file != "2" then
          .error ("invalid file number in field spec: " ++ inCurlyQuotes word)
        else
          match place.toNat? with
          | some (place + 1) => .ok (.field (if file = "1" then 1 else 2) place)
          | _ => .error ("invalid field number: " ++ inCurlyQuotes place)
    | _ =>
        if word.startsWith "0" || word.startsWith "1" || word.startsWith "2" then
          .error ("invalid field specifier: " ++ inCurlyQuotes word)
        else .error ("invalid file number in field spec: " ++ inCurlyQuotes word)

def joinNames : LongNames :=
  [("ignore-case", 'i'), ("check-order", 'k'), ("nocheck-order", 'n'), ("header", 'h'),
    ("zero-terminated", 'z')]

/-- The plan that options ask for. -/
def joinPlanOf (options : Options) : Work JoinPlan := do
  let fieldNumber := fun (letter : Char) => do
    match (options.letters.filter fun option => option.1 == letter || option.1 == 'j').getLast? with
    | none => return 0
    | some (_, text) =>
        match text.toNat? with
        | some (number + 1) => return number
        | _ => refuse 1 ("invalid field number: " ++ inCurlyQuotes text)
  let fileNumbers := fun (letter : Char) =>
    (options.letters.filter fun option => option.1 == letter).mapM fun (_, text) => do
      match text with
      | "1" => return 1
      | "2" => return 2
      | text => refuse 1 ("invalid field number: " ++ inCurlyQuotes text)
  let separator? ←
    match options.argument? 't' with
    | none => pure none
    | some "" => pure (some '\n')
    | some "\\0" => pure (some '\x00')
    | some text =>
        if text.length = 1 then pure text.toList.head?
        else refuse 1 ("multi-character tab " ++ inCurlyQuotes text)
  let added ← fileNumbers 'a'
  let alone ← fileNumbers 'v'
  let parts? ←
    match (options.letters.filter fun option => option.1 == 'o').map (·.2) with
    | [] | ["auto"] => pure none
    | texts =>
        match joinParts (String.intercalate "," texts) with
        | .ok parts => pure (some parts)
        | .error text => refuse 1 text
  return {
    separator?, ignoresCase := options.has 'i'
    first := ← fieldNumber '1', second := ← fieldNumber '2'
    filler := options.argument? 'e'
    parts?, showsPairs := alone.isEmpty, lone := added ++ alone
    lineEnd := if options.has 'z' then '\x00' else '\n' }

/-- The parts of rows that have all fields of the first lines of both files. -/
def wholeParts (plan : JoinPlan) (left right : List FieldLine) : List JoinPart :=
  let size := fun lines : List FieldLine => (lines.head?.map fun line => line.fields.size).getD 0
  let others := fun (file count key : Nat) =>
    ((List.range count).filter (· ≠ key)).map fun place => JoinPart.field file place
  .shared :: others 1 (size left) plan.first ++ others 2 (size right) plan.second

def joinLines (operands : List String) : Work Unit :=
  withOptions "a:e:ij:o:t:v:1:2:z knh" joinNames 1 operands fun options => do
    let plan ← joinPlanOf options
    match options.operands with
    | [first, second] =>
        if first = "-" && second = "-" then
          warn 1 ("both files cannot be standard input: " ++ faultText .notFound)
          leave
        let (left, right) ← bothInputs first second
        let left := (linesBy plan.lineEnd left).map plan.fieldsOf
        let right := (linesBy plan.lineEnd right).map plan.fieldsOf
        let plan :=
          if options.argument? 'o' == some "auto" then
            { plan with parts? := some (wholeParts plan left right) }
          else plan
        let checking : JoinPlan.Checking :=
          if options.has 'n' then .never else if options.has 'k' then .always else .later
        let headed := options.has 'h'
        if headed && (left.head?.isSome || right.head?.isSome) then
          put (plan.row left.head? right.head?)
        let reel := fun (name : String) (lines : List FieldLine) =>
          ({ name, lines := lines.drop (if headed then 1 else 0)
             number := if headed then 1 else 0 } : JoinReel)
        let (left?, leftReel) ← plan.next false false 1 (reel first left)
        let (right?, rightReel) ← plan.next false false 2 (reel second right)
        plan.run checking (left.length + right.length + 2) false left? right? leftReel rightReel
    | [] => misuse 1 "missing operand"
    | [first] => misuse 1 ("missing operand after " ++ inCurlyQuotes first)
    | _ :: _ :: extra :: _ => misuse 1 ("extra operand " ++ inQuotes extra)

/-! ### Rows of any files -/

/-- The separators of a list, of which some are empty. -/
def separatorsOf : List Char → List String
  | '\\' :: '0' :: rest => "" :: separatorsOf rest
  | '\\' :: 'n' :: rest => "\n" :: separatorsOf rest
  | '\\' :: 't' :: rest => "\t" :: separatorsOf rest
  | '\\' :: 'b' :: rest => "\x08" :: separatorsOf rest
  | '\\' :: 'f' :: rest => "\x0c" :: separatorsOf rest
  | '\\' :: 'r' :: rest => "\r" :: separatorsOf rest
  | '\\' :: 'v' :: rest => "\x0b" :: separatorsOf rest
  | '\\' :: c :: rest => String.singleton c :: separatorsOf rest
  | c :: rest => String.singleton c :: separatorsOf rest
  | [] => []

/-- A file of which each row takes a line, until its end. -/
structure PasteColumn where
  name : String
  descriptor? : Option Nat

/-- The separator at a place, where they are taken in turn. -/
def separatorAt (separators : List String) (place : Nat) : String :=
  separators.getD (place % max separators.length 1) ""

/-- The next line of a column without its end, which may be missing. -/
def PasteColumn.next (column : PasteColumn) (lineEnd : Char) :
    Work (Except FileFault (Option String)) := do
  match column.descriptor? with
  | none => return .ok none
  | some descriptor =>
      return (← nextLine descriptor endlessSteps).map fun line? => line?.map fun line =>
        if line.toList.getLast? == some lineEnd then (line.dropEnd 1).toString else line

def PasteColumn.report (column : PasteColumn) (fault : FileFault) : Work Unit :=
  warn 1 (shownName column.name ++ ": " ++ faultText fault)

/-- Puts one line of each column, from a place on, with the separators that stand for columns which
are at their end. Returns the columns that are left, and whether there was a line. -/
def pasteRow (separators : List String) (lineEnd : Char) :
    Nat → List PasteColumn → String → Bool → Work (List PasteColumn × Bool)
  | _, [], _, isFilled => return ([], isFilled)
  | place, column :: rest, saved, isFilled => do
      let separator := separatorAt separators place
      let line? ← column.next lineEnd
      if let .error fault := line? then column.report fault
      match line?.toOption.join with
      | some text =>
          put (saved ++ text ++ if rest.isEmpty then String.singleton lineEnd else separator)
          let (columns, isFilled) ← pasteRow separators lineEnd (place + 1) rest "" true
          return (column :: columns, isFilled)
      | none =>
          if rest.isEmpty && isFilled then put (saved.push lineEnd)
          let (columns, isFilled) ←
            pasteRow separators lineEnd (place + 1) rest (saved ++ separator) isFilled
          return ({ column with descriptor? := none } :: columns, isFilled)

/-- Puts a row of one line of each column, again and again, until all are at their end. -/
def pasteRows (separators : List String) (lineEnd : Char) (columns : List PasteColumn) :
    Nat → Work Unit
  | 0 => pure ()
  | fuel + 1 => do
      let (columns, isFilled) ← pasteRow separators lineEnd 0 columns "" false
      if isFilled then pasteRows separators lineEnd columns fuel

/-- Puts the lines of a column in a row. -/
def pasteWhole (separators : List String) (lineEnd : Char) (column : PasteColumn) :
    Nat → Nat → Work Unit
  | 0, _ => pure ()
  | fuel + 1, place => do
      match ← column.next lineEnd with
      | .error fault => do
          put (String.singleton lineEnd)
          column.report fault
      | .ok none => put (String.singleton lineEnd)
      | .ok (some text) =>
          if 0 < place then put (separatorAt separators (place - 1))
          put text
          pasteWhole separators lineEnd column fuel (place + 1)

def pasteLines (operands : List String) : Work Unit :=
  withOptions "d:sz" [("delimiters", 'd'), ("serial", 's'), ("zero-terminated", 'z')] 1 operands
    fun options => do
    let list := (options.argument? 'd').getD "\t"
    let slashes := (list.toList.reverse.takeWhile (· == '\\')).length
    if slashes % 2 = 1 then
      refuse 1 ("delimiter list ends with an unescaped backslash: " ++
        if list.contains '\x27' then inQuotes list else list)
    let separators := separatorsOf list.toList
    let lineEnd := if options.has 'z' then '\x00' else '\n'
    let names := if options.operands.isEmpty then ["-"] else options.operands
    if options.has 's' then
      for name in names do
        match ← openOperand name with
        | .error fault => warn 1 (shownName name ++ ": " ++ faultText fault)
        | .ok descriptor =>
            setLineEnd descriptor lineEnd.toNat.toUInt8
            let column := { name, descriptor? := some descriptor }
            pasteWhole separators lineEnd column endlessSteps 0
            closeOperand descriptor
    else
      let columns ← names.mapM fun name => do
        match ← openOperand name with
        | .ok descriptor =>
            setLineEnd descriptor lineEnd.toNat.toUInt8
            return { name, descriptor? := some descriptor : PasteColumn }
        | .error fault =>
            warn 1 (shownName name ++ ": " ++ faultText fault)
            leave
      pasteRows separators lineEnd columns endlessSteps

end HingeField.Shell.Utility
