import HingeField.Shell.Real
import HingeField.Shell.Utility.Desk
import HingeField.Shell.Utility.Version

/-!
The command that puts lines in order, by keys or as a whole.
-/

namespace HingeField.Shell.Utility

/-- How a key of a line compares. -/
structure Comparison where
  isNumeric : Bool := false
  isScaled : Bool := false
  isReal : Bool := false
  isVersion : Bool := false
  isMonth : Bool := false
  ignoresCase : Bool := false
  isDictionary : Bool := false
  isPrintable : Bool := false
  dropsBlanks : Bool := false
  isReversed : Bool := false

/-- A place in a line: a field, and a character in it. -/
structure FieldPlace where
  field : Nat
  char : Nat
  dropsBlanks : Bool := false

structure SortKey where
  first : FieldPlace
  last : Option FieldPlace
  comparison : Comparison
  isPlain : Bool

def Comparison.withLetter (comparison : Comparison) (letter : Char) : Comparison :=
  match letter with
  | 'n' => { comparison with isNumeric := true }
  | 'g' => { comparison with isReal := true }
  | 'h' => { comparison with isScaled := true }
  | 'V' => { comparison with isVersion := true }
  | 'M' => { comparison with isMonth := true }
  | 'i' => { comparison with isPrintable := true }
  | 'f' => { comparison with ignoresCase := true }
  | 'd' => { comparison with isDictionary := true }
  | 'b' => { comparison with dropsBlanks := true }
  | 'r' => { comparison with isReversed := true }
  | _ => comparison

def isFieldBlank (c : Char) : Bool :=
  c == ' ' || c == '\t'

/-- Where the fields of a line start and stop. A field between blanks starts with them. -/
def fieldBounds (separator : Option Char) (text : List Char) : List (Nat × Nat) :=
  match separator with
  | some c =>
      let pieces := (String.ofList text).split (· == c) |>.toList.map fun piece =>
        piece.toString.length
      (pieces.foldl
        (fun (bounds, start) size => (bounds ++ [(start, start + size)], start + size + 1))
        (([] : List (Nat × Nat)), 0)).1
  | none => go text.length 0 text
where
  go : Nat → Nat → List Char → List (Nat × Nat)
    | 0, _, _ => []
    | _ + 1, _, [] => []
    | fuel + 1, start, text =>
        let blanks := text.takeWhile isFieldBlank
        let body := (text.drop blanks.length).takeWhile fun c => !isFieldBlank c
        let size := blanks.length + body.length
        (start, start + size) :: go fuel (start + size) (text.drop size)

/-- The offset of a place where a key starts. -/
def startOffset (text : List Char) (bounds : List (Nat × Nat)) (place : FieldPlace)
    (dropsBlanks : Bool) : Nat :=
  match bounds[place.field - 1]? with
  | none => text.length
  | some (start, _) =>
      let blanks := if dropsBlanks then ((text.drop start).takeWhile isFieldBlank).length else 0
      min text.length (start + blanks + (place.char - 1))

/-- The offset of a place where a key stops. -/
def stopOffset (text : List Char) (bounds : List (Nat × Nat)) (place : FieldPlace) : Nat :=
  match bounds[place.field - 1]? with
  | none => text.length
  | some (start, stop) =>
      if place.char = 0 then stop
      else
        let blanks :=
          if place.dropsBlanks then ((text.drop start).takeWhile isFieldBlank).length else 0
        min text.length (start + blanks + place.char)

def keyText (separator : Option Char) (key : SortKey) (text : List Char) : List Char :=
  let bounds := fieldBounds separator text
  let start := startOffset text bounds key.first
    (key.first.dropsBlanks || key.comparison.dropsBlanks)
  let stop := (key.last.map (stopOffset text bounds)).getD text.length
  (text.drop start).take (stop - start)

/-- The decimal number at the start of a text, as a whole number of units so small that so many
places fit. -/
def decimalUnits (places : Nat) (text : List Char) : Int :=
  let start := text.dropWhile isFieldBlank
  let (isNegative, start) :=
    match start with
    | '-' :: rest => (true, rest)
    | rest => (false, rest)
  let whole := start.takeWhile Char.isDigit
  let fraction :=
    match start.drop whole.length with
    | '.' :: rest => (rest.takeWhile Char.isDigit).take places
    | _ => []
  let padded := fraction ++ List.replicate (places - fraction.length) '0'
  let size := ((String.ofList (whole ++ padded)).toNat?).getD 0
  if isNegative then -size else size

/-- The letters that may stand behind a number for a thousand, a million and so on. -/
def scaleLetters : List Char := ['K', 'M', 'G', 'T', 'P', 'E', 'Z', 'Y', 'R', 'Q']

/-- The rank of a number by the letter behind it; it is negative for a number below zero. -/
def scaleRank (text : List Char) : Int :=
  let start := text.dropWhile isFieldBlank
  let (isNegative, start) :=
    match start with
    | '-' :: rest => (true, rest)
    | rest => (false, rest)
  let behind := start.dropWhile fun c => c.isDigit || c == '.'
  let isZero := (start.takeWhile fun c => c.isDigit || c == '.').all fun c => c == '0' || c == '.'
  let rank :=
    match behind with
    | 'k' :: _ => 1
    | c :: _ => ((scaleLetters.idxOf? c).map (· + 1)).getD 0
    | [] => 0
  if isZero then 0 else if isNegative then -(Int.ofNat rank) else rank

/-- How many places behind the point are compared. -/
def comparedPlaces : Nat := 40

def compareChars : List Char → List Char → Ordering
  | [], [] => .eq
  | [], _ => .lt
  | _, [] => .gt
  | first :: rest, second :: others =>
      if first == second then compareChars rest others
      else if first < second then .lt else .gt

/-- The number of the month that a text starts with; zero if it starts with none. -/
def monthNumber (text : List Char) : Nat :=
  let name := ((text.dropWhile isFieldBlank).take 3).map Char.toUpper
  let names := ["JAN", "FEB", "MAR", "APR", "MAY", "JUN", "JUL", "AUG", "SEP", "OCT", "NOV", "DEC"]
  ((names.idxOf? (String.ofList name)).map (· + 1)).getD 0

/-- Compares the reals at the start of texts; a text without one comes first, and behind it one that
is no number. -/
def compareReals (first second : List Char) : Ordering :=
  let value := fun text => (readReal? .extended text).map RealReading.value
  let rank : Option Real → Nat
    | none => 0
    | some (.notANumber _) => 1
    | some _ => 2
  match value first, value second with
  | some x, some y => (compare (rank (some x)) (rank (some y))).then (x.compare y)
  | x?, y? => compare (rank x?) (rank y?)

def Comparison.compare (comparison : Comparison) (first second : List Char) : Ordering :=
  let prepare := fun text : List Char =>
    let text := if comparison.dropsBlanks then text.dropWhile isFieldBlank else text
    let text :=
      if comparison.isDictionary then text.filter fun c => c.isAlphanum || isFieldBlank c
      else if comparison.isPrintable then text.filter fun c => ' ' ≤ c && c ≤ '~'
      else text
    if comparison.ignoresCase then text.map Char.toUpper else text
  let found :=
    if comparison.isScaled then
      (Ord.compare (scaleRank first) (scaleRank second)).then
        (Ord.compare (decimalUnits comparedPlaces first) (decimalUnits comparedPlaces second))
    else if comparison.isNumeric then
      Ord.compare (decimalUnits comparedPlaces first) (decimalUnits comparedPlaces second)
    else if comparison.isReal then compareReals first second
    else if comparison.isMonth then Ord.compare (monthNumber first) (monthNumber second)
    else if comparison.isVersion then Version.compareNames first second
    else compareChars (prepare first) (prepare second)
  if comparison.isReversed then found.swap else found

/-- The letters of what cannot be compared at once, or nothing if it can. -/
def Comparison.conflict (comparison : Comparison) : String :=
  let kinds :=
    [comparison.isNumeric, comparison.isReal, comparison.isScaled, comparison.isMonth,
      comparison.isVersion || comparison.isDictionary || comparison.isPrintable]
  if (kinds.filter id).length < 2 then ""
  else
    let letters :=
      [('d', comparison.isDictionary), ('f', comparison.ignoresCase), ('g', comparison.isReal),
        ('h', comparison.isScaled), ('i', comparison.isPrintable), ('M', comparison.isMonth),
        ('n', comparison.isNumeric), ('V', comparison.isVersion)]
    String.ofList ((letters.filter (·.2)).map (·.1))

/-- What a sort compares. -/
structure Sorting where
  keys : List SortKey
  separator : Option Char
  comparison : Comparison
  isUnique : Bool
  isStable : Bool

/-- A line with the texts of its keys. -/
structure KeyedLine where
  text : List Char
  keys : List (List Char)

namespace Sorting

/-- How a key compares: as all do, unless it says so itself. -/
def comparisonOf (sorting : Sorting) (key : SortKey) : Comparison :=
  if key.isPlain then sorting.comparison else key.comparison

def keyed (sorting : Sorting) (text : List Char) : KeyedLine :=
  { text
    keys := sorting.keys.map fun key =>
      keyText sorting.separator { key with comparison := sorting.comparisonOf key } text }

/-- Compares two lines by the keys, or as a whole if there are none. -/
def compareKeys (sorting : Sorting) (first second : KeyedLine) : Ordering :=
  if sorting.keys.isEmpty then sorting.comparison.compare first.text second.text
  else
    (sorting.keys.zip (first.keys.zip second.keys)).foldl
      (fun found (key, left, right) =>
        if found != .eq then found else (sorting.comparisonOf key).compare left right)
      .eq

/-- Compares two lines; those with equal keys by all their bytes. -/
def compare (sorting : Sorting) (first second : KeyedLine) : Ordering :=
  match sorting.compareKeys first second with
  | .eq =>
      if sorting.isUnique || sorting.isStable then .eq
      else
        let found := compareChars first.text second.text
        if sorting.comparison.isReversed then found.swap else found
  | different => different

end Sorting

/-- The first of each run of lines that are the same under a comparison. -/
def withoutRepeats {α : Type} (same : α → α → Bool) : List α → List α
  | [] => []
  | first :: rest =>
      first :: withoutRepeats same (rest.dropWhile (same first))
termination_by lines => lines.length
decreasing_by
  simp only [List.length_cons]
  have := (List.dropWhile_suffix (same first) (l := rest)).length_le
  omega

/-- A number at the start of a text, and what is behind it. -/
def readPlaceNumber (phrase : String) (text : List Char) : Except String (Nat × List Char) :=
  let digits := text.takeWhile Char.isDigit
  match (String.ofList digits).toNat? with
  | some number => .ok (number, text.drop digits.length)
  | none =>
      .error ("invalid number " ++ phrase ++ ": invalid count at start of " ++
        inCurlyQuotes (String.ofList text))

/-- A place written as a field, and perhaps a point and a character. -/
def readPlace (phrase : String) (refusal : String → String) (mayBeWhole : Bool)
    (text : List Char) : Except String (FieldPlace × List Char) := do
  let (field, rest) ← readPlaceNumber phrase text
  if field = 0 then throw (refusal "field number is zero")
  match rest with
  | '.' :: rest =>
      let (char, rest) ← readPlaceNumber "after '.'" rest
      if char = 0 && !mayBeWhole then throw (refusal "character offset is zero")
      return ({ field, char }, rest)
  | rest => return ({ field, char := 0 }, rest)

/-- The letters that may stand behind a place. -/
def isKeyLetter (c : Char) : Bool :=
  "bdfgiMnhRrV".toList.contains c

/-- A key: a place where it starts, and perhaps one where it ends. -/
def readKey (text : String) : Except String SortKey := do
  let refusal := fun reason : String =>
    reason ++ ": invalid field specification " ++ inCurlyQuotes text
  let stray := refusal "stray character in field spec"
  let (first, rest) ← readPlace "at field start" refusal false text.toList
  let letters := rest.takeWhile isKeyLetter
  let comparison := letters.foldl Comparison.withLetter {}
  let first := { first with char := max first.char 1, dropsBlanks := letters.contains 'b' }
  match rest.drop letters.length with
  | [] => return { first, last := none, comparison, isPlain := letters.isEmpty }
  | ',' :: rest =>
      let (last, rest) ← readPlace "after ','" refusal true rest
      unless rest.all isKeyLetter do throw stray
      let comparison := rest.foldl Comparison.withLetter comparison
      return {
        first, last := some { last with dropsBlanks := rest.contains 'b' }, comparison,
        isPlain := letters.isEmpty && rest.isEmpty }
  | _ => throw stray

def sortNames : LongNames :=
  [("numeric-sort", 'n'), ("reverse", 'r'), ("unique", 'u'), ("key", 'k'), ("field-separator", 't'),
    ("ignore-case", 'f'), ("ignore-leading-blanks", 'b'), ("output", 'o'), ("check", 'c'),
    ("merge", 'm'), ("stable", 's'), ("version-sort", 'V'), ("general-numeric-sort", 'g'),
    ("dictionary-order", 'd'), ("human-numeric-sort", 'h'), ("month-sort", 'M'),
    ("ignore-nonprinting", 'i'), ("zero-terminated", 'z'), ("buffer-size", 'S'),
    ("temporary-directory", 'T'), ("parallel", 'P')]

/-- Long options that name an order or a check, by the letters for them. -/
def withOrderLetters (operands : List String) : List String :=
  operands.map fun operand =>
    match operand with
    | "--check=quiet" | "--check=silent" => "-C"
    | "--check=diagnose-first" => "-c"
    | "--sort=numeric" => "-n"
    | "--sort=general-numeric" => "-g"
    | "--sort=human-numeric" => "-h"
    | "--sort=month" => "-M"
    | "--sort=version" => "-V"
    | operand => operand

/-- The first line that is out of order, with its number. -/
def firstDisorder (sorting : Sorting) : Nat → List KeyedLine → Option (Nat × List Char)
  | number, first :: second :: rest =>
      let found := sorting.compare first second
      if found == .gt || (sorting.isUnique && found == .eq) then some (number + 1, second.text)
      else firstDisorder sorting (number + 1) (second :: rest)
  | _, _ => none

/-- What a sort compares, as its options tell; or what is wrong with them. -/
def sortingOf (options : Options) : Except String Sorting := do
  let comparison := options.letters.foldl (fun found option => found.withLetter option.1)
    ({} : Comparison)
  let keys ← (options.letters.filter fun option => option.1 == 'k').mapM fun option =>
    readKey option.2
  let separator? ←
    match options.argument? 't' with
    | none => .ok none
    | some "\\0" => .ok (some '\x00')
    | some "" => .error "empty tab"
    | some text =>
        if text.length = 1 then .ok text.toList.head?
        else .error ("multi-character tab " ++ inCurlyQuotes text)
  let sorting : Sorting :=
    { keys, separator := separator?, comparison, isUnique := options.has 'u'
      isStable := options.has 's' }
  let conflicts := (comparison :: keys.map sorting.comparisonOf).map Comparison.conflict
  match conflicts.find? fun conflict => !conflict.isEmpty with
  | some conflict => .error ("options '-" ++ conflict ++ "' are incompatible")
  | none => return sorting

/-- Lines behind the byte that ends them. -/
def linesBy (lineEnd : Char) (octets : String) : List String :=
  let pieces := octets.splitOn (String.singleton lineEnd)
  if pieces.getLast? = some "" then pieces.dropLast else pieces

/-- The lines of each operand; files that cannot be read end the work. -/
def sortedInput (lineEnd : Char) (isCheck : Bool) (names : List String) :
    Work (List (List String)) := do
  for name in names do
    unless name = "-" do
      match ← Course.ask fun machine => machine.status true name with
      | .error fault =>
          refuse 2 ((if isCheck then "open failed: " else "cannot read: ") ++ shownName name ++
            ": " ++ faultText fault)
      | .ok _ => pure ()
  names.mapM fun name => do
    match ← readOperand name with
    | .ok octets => return linesBy lineEnd octets
    | .error fault =>
        warn 2 ("read failed: " ++ shownName name ++ ": " ++ faultText fault)
        leave

def sortLines (operands : List String) : Work Unit :=
  withOptions "nrufbgdhVsmcCk:t:o:iMzS:T: P:" sortNames 2 (withOrderLetters operands)
    fun options => do
    match sortingOf options with
    | .error text => warn 2 text
    | .ok sorting =>
        let names := if options.operands.isEmpty then ["-"] else options.operands
        let lineEnd := if options.has 'z' then '\x00' else '\n'
        let isCheck := options.has 'c' || options.has 'C'
        let letter := if options.has 'C' then "C" else "c"
        match isCheck, names.drop 1, options.argument? 'o' with
        | true, extra :: _, _ =>
            refuse 2 ("extra operand " ++ inQuotes extra ++ " not allowed with -" ++ letter)
        | true, [], some _ => refuse 2 ("options '-" ++ letter ++ "o' are incompatible")
        | _, _, _ => pure ()
        let files ← sortedInput lineEnd isCheck names
        let keyed := files.map fun lines => lines.map fun text => sorting.keyed text.toList
        if isCheck then
          match firstDisorder sorting 1 keyed.flatten with
          | some (number, text) =>
              if options.has 'C' then setStatus 1
              else
                warn 1 (names.headD "-" ++ ":" ++ toString number ++ ": disorder: " ++
                  String.ofList text)
          | none => pure ()
        else
          let isBefore := fun first second => sorting.compare first second != .gt
          let sorted :=
            if options.has 'm' then
              keyed.foldl (fun merged file => merged.merge file isBefore) []
            else keyed.flatten.mergeSort isBefore
          let kept :=
            if sorting.isUnique then
              withoutRepeats (fun first second => sorting.compare first second == .eq) sorted
            else sorted
          let octets := fun line : KeyedLine => (String.ofList line.text).push lineEnd
          match options.argument? 'o' with
          | some name =>
              match ← writeNamed false name (String.join (kept.map octets)) with
              | some fault =>
                  warn 2 ("open failed: " ++ shownName name ++ ": " ++ faultText fault)
              | none => pure ()
          | none => for line in kept do put (octets line)

end HingeField.Shell.Utility
