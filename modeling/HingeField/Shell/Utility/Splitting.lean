import HingeField.Shell.Utility.Parts

/-!
The command that cuts a text into files: where it is cut, and how the files are
called. Their names go on in letters or digits, which grow in number when they
run out unless their number is given.
-/

namespace HingeField.Shell.Utility

/-! ### Cutting -/

/-- Where a text is cut: behind so many lines or bytes, behind whole lines of at most so many bytes,
or into so many pieces, which are even, of whole lines, or dealt out in turn. -/
inductive CutKind where
  | lines
  | bytes
  | lineBytes
  | pieces
  | linePieces
  | dealt
deriving DecidableEq

/-- A way to cut a text, and the one piece that is shown in the place of files. -/
structure Cut where
  kind : CutKind
  count : Nat
  chosen? : Option Nat := none

namespace Cut

/-- Reads how many pieces there are, and which one is shown. -/
def ofPieces (text : String) : Except String Cut := do
  let (kind, rest) :=
    if text.startsWith "l/" then (CutKind.linePieces, (text.drop 2).toString)
    else if text.startsWith "r/" then (.dealt, (text.drop 2).toString)
    else (.pieces, text)
  let flawed := fun text : String => "invalid number of chunks: " ++ inCurlyQuotes text
  match rest.splitOn "/" with
  | [count] =>
      match count.toNat?.filter (0 < ·) with
      | some count => return { kind, count }
      | none => throw (flawed rest)
  | [chosen, count] =>
      match chosen.toNat?, count.toNat?.filter (0 < ·) with
      | none, _ => throw (flawed rest)
      | _, none => throw (flawed count)
      | some number, some count =>
          if 0 < number && number ≤ count then return { kind, count, chosen? := some number }
          else throw ("invalid chunk number: " ++ inCurlyQuotes chosen)
  | _ => throw (flawed rest)

/-- Reads a way to cut a text by its letter. -/
def ofOption? (letter : Char) (text : String) : Option (Except String Cut) :=
  let counted := fun (kind : CutKind) (phrase : String) =>
    match count? text with
    | some (count + 1) => .ok { kind, count := count + 1 }
    | _ => .error ("invalid number of " ++ phrase ++ ": " ++ inCurlyQuotes text)
  match letter with
  | 'l' => some (counted .lines "lines")
  | 'b' => some (counted .bytes "bytes")
  | 'C' => some (counted .lineBytes "lines")
  | 'n' => some (ofPieces text)
  | _ => none

end Cut

/-- Lines with their ends, of which the last one may have none. -/
def linesEnded (lineEnd : Char) (octets : String) : List String :=
  let pieces := octets.splitOn (String.singleton lineEnd)
  let ended := pieces.dropLast.map fun piece => piece.push lineEnd
  if pieces.getLast?.all String.isEmpty then ended else ended ++ [pieces.getLastD ""]

/-- Pieces of so many lines. -/
def lineGroups (count : Nat) : Nat → List String → List String
  | 0, _ => []
  | fuel + 1, lines =>
      if lines.isEmpty then []
      else String.join (lines.take count) :: lineGroups count fuel (lines.drop count)

/-- Pieces of so many bytes. -/
def byteGroups (count : Nat) : Nat → List Char → List String
  | 0, _ => []
  | fuel + 1, octets =>
      if octets.isEmpty then []
      else String.ofList (octets.take count) :: byteGroups count fuel (octets.drop count)

/-- Pieces of whole lines up to so many bytes; a longer line is cut. -/
def boundedGroups (count : Nat) : Nat → String → List String → List String
  | 0, _, _ => []
  | _ + 1, current, [] => if current.isEmpty then [] else [current]
  | fuel + 1, current, text :: rest =>
      if current.length + text.length ≤ count then
        boundedGroups count fuel (current ++ text) rest
      else if current.isEmpty then
        (text.take count).toString ::
          boundedGroups count fuel "" ((text.drop count).toString :: rest)
      else current :: boundedGroups count fuel "" (text :: rest)

/-- Where each of so many pieces of nearly the same size ends; the first ones are longer. -/
def evenEnds (count size : Nat) : List Nat :=
  (List.range' 1 count).map fun number => number * (size / count) + min number (size % count)

/-- Pieces of a text, so many of them and of nearly the same size. -/
def evenPieces (count : Nat) (octets : String) : List String :=
  let chars := octets.toList
  let ends := evenEnds count chars.length
  (ends.zip (0 :: ends)).map fun (stop, start) =>
    String.ofList ((chars.drop start).take (stop - start))

/-- Pieces of whole lines, so many of them; a line belongs to the piece of nearly the same size in
which it starts. -/
def evenLinePieces (count : Nat) (lineEnd : Char) (octets : String) : List String :=
  let ends := evenEnds count octets.length
  let placeOf := fun offset : Nat => (ends.findIdx? fun stop => offset < stop).getD (count - 1)
  let (_, placed) := (linesEnded lineEnd octets).foldl
    (fun (offset, placed) text => (offset + text.length, (placeOf offset, text) :: placed))
    (0, ([] : List (Nat × String)))
  (List.range count).map fun number =>
    String.join ((placed.reverse.filter fun entry => entry.1 == number).map (·.2))

/-- Lines dealt out in turn. -/
def dealtPieces (count : Nat) (lineEnd : Char) (octets : String) : List String :=
  let lines := (linesEnded lineEnd octets).zipIdx
  (List.range count).map fun number =>
    String.join ((lines.filter fun entry => entry.2 % count == number).map (·.1))

/-- The pieces of a text. -/
def Cut.pieces (cut : Cut) (lineEnd : Char) (octets : String) : List String :=
  let fuel := 2 * octets.length + 4
  match cut.kind with
  | .lines => lineGroups cut.count fuel (linesEnded lineEnd octets)
  | .bytes => byteGroups cut.count fuel octets.toList
  | .lineBytes => boundedGroups cut.count fuel "" (linesEnded lineEnd octets)
  | .pieces => evenPieces cut.count octets
  | .linePieces => evenLinePieces cut.count lineEnd octets
  | .dealt => dealtPieces cut.count lineEnd octets

/-! ### Names -/

/-- The suffix of the file for a piece, in letters or digits. -/
def pieceSuffix (isNumeric : Bool) (base : Nat) (length number : Nat) : String :=
  let digits := (List.range length).reverse.map fun place => number / Nat.pow base place % base
  String.ofList <| digits.map fun digit =>
    if isNumeric then (Nat.toDigits 16 digit).headD '0' else Char.ofNat ('a'.toNat + digit)

/-- What the files of a text have in common. Their suffixes grow when they run out unless their
length is fixed or they start behind the first one. -/
structure Splitting where
  cut : Cut := { kind := .lines, count := 1000 }
  lineEnd : Char := '\n'
  stem : String := "x"
  ending : String := ""
  /-- The length of the suffixes, if it is given. -/
  length? : Option Nat := none
  isNumeric : Bool := false
  base : Nat := 26
  start? : Option Nat := none
  isReported : Bool := false
  skipsEmpty : Bool := false

namespace Splitting

/-- The length that the suffixes of so many pieces need. -/
def neededLength (splitting : Splitting) (count : Nat) : Nat :=
  ((List.range 20).find? fun length => count ≤ Nat.pow splitting.base length).getD 20

def isCounted (splitting : Splitting) : Bool :=
  splitting.cut.kind == .pieces || splitting.cut.kind == .linePieces ||
    splitting.cut.kind == .dealt

/-- How many pieces the suffixes have to do for at least, if that is known. -/
def knownCount (splitting : Splitting) : Nat :=
  if splitting.isCounted then splitting.cut.count + splitting.start?.getD 0 else 0

/-- The suffix of a piece. -/
def suffix (splitting : Splitting) (number : Nat) : Option String :=
  let number := number + splitting.start?.getD 0
  let width := splitting.length?.getD (max 2 (splitting.neededLength splitting.knownCount))
  let isFixed := splitting.length?.isSome || splitting.isCounted
  if isFixed || splitting.start?.isSome then
    if number < Nat.pow splitting.base width then
      some (pieceSuffix splitting.isNumeric splitting.base width number)
    else none
  else grow 20 width number ""
where
  grow : Nat → Nat → Nat → String → Option String
    | 0, _, _, _ => none
    | fuel + 1, width, number, lead =>
        let plain := Nat.pow splitting.base width - Nat.pow splitting.base (width - 1)
        if number < plain then
          some (lead ++ pieceSuffix splitting.isNumeric splitting.base width number)
        else
          let last :=
            if splitting.isNumeric then if splitting.base = 10 then "9" else "f" else "z"
          grow fuel (width + 1) (number - plain) (lead ++ last)

/-- Writes a piece to its file, which must not be the input. -/
def write (splitting : Splitting) (input number : Nat) (piece : String) : Work Unit := do
  match splitting.suffix number with
  | none => refuse 1 "output file suffixes exhausted"
  | some suffix =>
      let name := splitting.stem ++ suffix ++ splitting.ending
      if splitting.isReported then put ("creating file " ++ inQuotes name ++ "\n")
      let isInput ← Course.ask fun machine =>
        (machine.status? name).any fun status => status.number == input
      if isInput then refuse 1 (inQuotes name ++ " would overwrite input; aborting")
      match ← writeNamed false name piece with
      | none => pure ()
      | some fault => refuse 1 (name ++ ": " ++ faultText fault)

/-- Takes in an option. -/
def withOption (splitting : Splitting) (isCut : Bool) (letter : Char) (text : String) :
    Work Splitting := do
  match Cut.ofOption? letter text with
  | some cut =>
      if isCut then
        misuse 1 "cannot split in more than one way"
        leave
      match cut with
      | .ok cut => return { splitting with cut }
      | .error text => refuse 1 text
  | none =>
      match letter with
      | 'a' =>
          match text.toNat? with
          | some 0 => return { splitting with length? := none }
          | some length => return { splitting with length? := some length }
          | none => refuse 1 ("invalid suffix length: " ++ inCurlyQuotes text)
      | 'd' | 'D' | 'x' | 'X' =>
          let base := if letter == 'd' || letter == 'D' then 10 else 16
          let isDigit := fun c : Char => c.isDigit || base = 16 && ('a' ≤ c && c ≤ 'f')
          if text.isEmpty then return { splitting with isNumeric := true, base }
          else if text.all isDigit then
            let start := text.toList.foldl
              (fun value c =>
                value * base + if c.isDigit then c.toNat - '0'.toNat else c.toNat - 87) 0
            return { splitting with isNumeric := true, base, start? := some start }
          else
            misuse 1 (inCurlyQuotes text ++ ": invalid start value for " ++
              (if base = 10 then "numerical" else "hexadecimal") ++ " suffix")
            leave
      | 't' =>
          if text.isEmpty then refuse 1 "empty record separator"
          else if text = "\\0" then return { splitting with lineEnd := '\x00' }
          else if text.length = 1 then
            return { splitting with lineEnd := text.toList.headD '\n' }
          else refuse 1 ("multi-character separator " ++ inCurlyQuotes text)
      | 'A' =>
          if text.contains '/' then
            misuse 1 ("invalid suffix " ++ inCurlyQuotes text ++ ", contains directory separator")
            leave
          return { splitting with ending := text }
      | 'V' => return { splitting with isReported := true }
      | 'e' => return { splitting with skipsEmpty := true }
      | _ => return splitting

/-- The files that options ask for. -/
def ofOptions : List (Char × String) → Bool → Splitting → Work Splitting
  | [], _, splitting => return splitting
  | (letter, text) :: rest, isCut, splitting => do
      let splitting ← splitting.withOption isCut letter text
      ofOptions rest (isCut || (Cut.ofOption? letter text).isSome) splitting

/-- Writes the pieces of a text to files, or shows the one that is chosen. -/
def run (splitting : Splitting) (input : Nat) (octets : String) : Work Unit := do
  let pieces := splitting.cut.pieces splitting.lineEnd octets
  match splitting.cut.chosen? with
  | some number => put (pieces.getD (number - 1) "")
  | none =>
      let pieces := if splitting.skipsEmpty then pieces.filter (· != "") else pieces
      for (piece, number) in pieces.zipIdx do splitting.write input number piece

end Splitting

/-- Operands in which a number right behind a dash is given as a count of lines. -/
def withLineOption (operands : List String) : List String :=
  operands.map fun operand =>
    match operand.toList with
    | '-' :: c :: _ => if c.isDigit then "-l" ++ (operand.drop 1).toString else operand
    | _ => operand

/-- Cuts a text into files. -/
def splitFile (operands : List String) : Work Unit :=
  withOptions "l:b:C:n:a:dxeut: A:VD?X?"
    [("lines", 'l'), ("bytes", 'b'), ("line-bytes", 'C'), ("number", 'n'), ("suffix-length", 'a'),
      ("numeric-suffixes", 'D'), ("hex-suffixes", 'X'), ("additional-suffix", 'A'),
      ("verbose", 'V'), ("elide-empty-files", 'e'), ("unbuffered", 'u'), ("separator", 't')] 1
    (withLineOption operands) fun options => do
    let splitting ← Splitting.ofOptions options.letters false {}
    let splitting := { splitting with stem := options.operands.getD 1 splitting.stem }
    match options.operands.drop 2 with
    | operand :: _ =>
        misuse 1 ("extra operand " ++ inCurlyQuotes operand)
        leave
    | [] => pure ()
    if let some length := splitting.length? then
      let needed := splitting.neededLength splitting.knownCount
      if length < needed then
        refuse 1 ("the suffix length needs to be at least " ++ toString needed)
    let input := options.operands.headD "-"
    match ← readOperand input with
    | .error .isDirectory => warn 1 (shownName input ++ ": " ++ faultText .isDirectory)
    | .error fault =>
        warn 1 ("cannot open " ++ inQuotes input ++ " for reading: " ++ faultText fault)
    | .ok octets =>
        let number ← Course.ask fun machine =>
          ((if input = "-" then machine.descriptorStatus? 0 else machine.status? input).map
            FileStatus.number).getD 0
        splitting.run number octets

end HingeField.Shell.Utility
