import HingeField.Shell.Conversion
import HingeField.Shell.Utility.Parts

/-!
The command that shows bytes as numbers and characters. Each row of bytes may be
shown in several forms, one under the other, whose columns are as wide as the
widest of them needs.
-/

namespace HingeField.Shell.Utility

/-- How bytes are shown: as characters, as names of characters, or as numbers of so many bytes. -/
inductive DumpForm where
  | chars
  | names
  | whole (size base : Nat) (isSigned : Bool)
  | real (size : Nat)

namespace DumpForm

/-- How many bytes a field shows. -/
def size : DumpForm → Nat
  | .chars | .names => 1
  | .whole size _ _ | .real size => size

/-- How wide a field is at least. -/
def width : DumpForm → Nat
  | .chars | .names => 3
  | .whole size 16 _ => 2 * size
  | .whole size 8 _ => (8 * size + 2) / 3
  | .whole size _ isSigned =>
      let width := if size = 1 then 3 else if size = 2 then 5 else if size = 4 then 10 else 20
      if isSigned && size ≠ 8 then width + 1 else width
  | .real size => if size = 4 then 15 else 24

end DumpForm

/-- A form, and whether the characters are shown behind its rows. -/
structure DumpStyle where
  form : DumpForm
  showsChars : Bool := false

/-- The sizes that letters behind the letter of a form stand for. -/
def sizeOfLetter? (letter : Char) : Option Nat :=
  match letter with
  | 'C' => some 1
  | 'S' => some 2
  | 'I' => some 4
  | 'L' => some 8
  | _ => none

/-- The styles that a text of letters and sizes asks for. -/
def readStyles (text : String) : Nat → List Char → Except String (List DumpStyle)
  | 0, _ => .ok []
  | _ + 1, [] => .ok []
  | fuel + 1, letter :: rest => do
      let isReal := letter == 'f'
      let digits := rest.takeWhile Char.isDigit
      let usual := if isReal then 8 else 4
      let (size, behind) ←
        if letter == 'c' || letter == 'a' then .ok (1, rest)
        else
          match rest.head?.bind sizeOfLetter?, digits with
          | some size, _ =>
              if isReal then .ok (if rest.head? == some 'L' then 8 else usual, rest.drop 1)
              else .ok (size, rest.drop 1)
          | none, [] =>
              if isReal && rest.head? == some 'F' then .ok (4, rest.drop 1)
              else if isReal && rest.head? == some 'D' then .ok (8, rest.drop 1)
              else .ok (usual, rest)
          | none, digits =>
              let size := ((String.ofList digits).toNat?).getD 0
              let allowed := if isReal then [4, 8] else [1, 2, 4, 8]
              if allowed.contains size then .ok (size, rest.drop digits.length)
              else
                .error ("invalid type string " ++ inCurlyQuotes text ++
                  ";\nthis system doesn't provide a " ++ toString size ++
                  (if isReal then "-byte floating point type" else "-byte integral type"))
      let form : DumpForm ←
        match letter with
        | 'c' => .ok .chars
        | 'a' => .ok .names
        | 'x' => .ok (.whole size 16 false)
        | 'o' => .ok (.whole size 8 false)
        | 'u' => .ok (.whole size 10 false)
        | 'd' => .ok (.whole size 10 true)
        | 'f' => .ok (.real size)
        | letter =>
            .error ("invalid character '" ++ String.singleton letter ++ "' in type string " ++
              inCurlyQuotes text)
      let showsChars := behind.head? == some 'z'
      return { form, showsChars } :: (← readStyles text fuel (behind.dropWhile (· == 'z')))

def padLeft (width : Nat) (text : String) : String :=
  String.ofList (List.replicate (width - text.length) ' ') ++ text

def octalByte (byte : UInt8) : String :=
  let digits := Nat.toDigits 8 byte.toNat
  String.ofList (List.replicate (3 - digits.length) '0' ++ digits)

def isShown (byte : UInt8) : Bool :=
  32 ≤ byte && byte ≤ 126

def shownByte (byte : UInt8) : String :=
  match byte with
  | 0 => "\\0"
  | 7 => "\\a"
  | 8 => "\\b"
  | 9 => "\\t"
  | 10 => "\\n"
  | 11 => "\\v"
  | 12 => "\\f"
  | 13 => "\\r"
  | byte => if isShown byte then String.singleton (Char.ofNat byte.toNat) else octalByte byte

def controlNames : List String :=
  ["nul", "soh", "stx", "etx", "eot", "enq", "ack", "bel", "bs", "ht", "nl", "vt", "ff", "cr", "so",
    "si", "dle", "dc1", "dc2", "dc3", "dc4", "nak", "syn", "etb", "can", "em", "sub", "esc", "fs",
    "gs", "rs", "us", "sp"]

/-! ### Reals -/

/-- How the reals of a size are stored: the bits of the fraction and those of the exponent. -/
structure RealFormat where
  fractionBits : Nat
  exponentBits : Nat

def RealFormat.ofSize (size : Nat) : RealFormat :=
  if size = 4 then { fractionBits := 23, exponentBits := 8 }
  else { fractionBits := 52, exponentBits := 11 }

/-- The text with the fewest digits, but so many at least, that reads back as a real. -/
def RealFormat.text (format : RealFormat) (bits : Nat) : String :=
  let fraction := bits % Nat.pow 2 format.fractionBits
  let biased := bits / Nat.pow 2 format.fractionBits % Nat.pow 2 format.exponentBits
  let isNegative := bits / Nat.pow 2 (format.fractionBits + format.exponentBits) % 2 = 1
  let sign := if isNegative then "-" else ""
  if biased + 1 = Nat.pow 2 format.exponentBits then sign ++ (if fraction = 0 then "inf" else "nan")
  else
    let isNormal := biased ≠ 0
    let significand := if isNormal then Nat.pow 2 format.fractionBits + fraction else fraction
    let exponent : Int :=
      (max biased 1 : Nat) -
        ((Nat.pow 2 (format.exponentBits - 1) - 1 + format.fractionBits : Nat) : Int)
    let value := quotientOf isNegative significand exponent
    let isNarrow := fraction = 0 && 1 < biased
    let readsBack := fun precision : Nat =>
      let (digits, leading) := scientific (precision - 1) value
      let number := ((String.ofList digits).toNat?).getD 0
      let scale : Int := leading - (precision - 1 : Nat)
      let (top, bottom) :=
        if 0 ≤ scale then (number * Nat.pow 10 scale.toNat, 1)
        else (number, Nat.pow 10 scale.natAbs)
      let read := 4 * top * value.denominator
      let exact := 4 * value.numerator * bottom
      let unit := quotientOf false 1 exponent
      let half := 2 * unit.numerator * bottom * (value.denominator / unit.denominator)
      let isEven := significand % 2 = 0
      if exact ≤ read then read - exact < half || (isEven && read - exact = half)
      else
        let below := if isNarrow then half / 2 else half
        exact - read < below || (isEven && exact - read = below)
    let fewest := if !isNormal then 1 else if format.fractionBits = 23 then 6 else 15
    let most := if format.fractionBits = 23 then 9 else 17
    let precision :=
      ((List.range (most - fewest)).map (· + fewest)).find? readsBack
    sign ++ generalText false (precision.getD most) value

/-! ### Rows -/

/-- A field for some bytes. -/
def DumpForm.field (isReversed : Bool) (form : DumpForm) (bytes : List UInt8) : String :=
  let filled := bytes ++ List.replicate (form.size - bytes.length) 0
  let ordered := if isReversed then filled else filled.reverse
  let value := ordered.foldl (fun value byte => value * 256 + byte.toNat) 0
  match form with
  | .chars => shownByte (bytes.headD 0)
  | .names =>
      let low := (bytes.headD 0).toNat % 128
      if low = 127 then "del"
      else (controlNames[low]?).getD (String.singleton (Char.ofNat low))
  | .whole size base isSigned =>
      if isSigned && Nat.pow 2 (8 * size - 1) ≤ value then
        "-" ++ toString (Nat.pow 2 (8 * size) - value)
      else
        let digits := Nat.toDigits base value
        let fill := if base = 10 then 0 else form.width - digits.length
        String.ofList (List.replicate fill '0' ++ digits)
  | .real size => (RealFormat.ofSize size).text value

def groupsOf {α : Type} (size : Nat) : Nat → List α → List (List α)
  | 0, _ => []
  | _ + 1, [] => []
  | fuel + 1, items => items.take size :: groupsOf size fuel (items.drop size)

/-- How bytes are laid out in rows. -/
structure DumpLayout where
  styles : List DumpStyle
  /-- How many bytes a row has. -/
  bytes : Nat
  /-- The base of addresses, and the width they are shown with. -/
  address? : Option (Nat × Nat)
  showsRepeats : Bool
  isReversed : Bool

namespace DumpLayout

def address (layout : DumpLayout) (place : Nat) : String :=
  match layout.address? with
  | none => ""
  | some (base, width) =>
      let digits := Nat.toDigits base place
      String.ofList (List.replicate (width - digits.length) '0' ++ digits)

/-- How wide the fields of a row are together. -/
def rowWidth (layout : DumpLayout) : Nat :=
  (layout.styles.map fun style =>
    (style.form.width + 1) * (layout.bytes / style.form.size)).foldl max 0

/-- A row in one of its forms, without the address. -/
def row (layout : DumpLayout) (style : DumpStyle) (bytes : List UInt8) : String :=
  let form := style.form
  let fields := layout.bytes / form.size
  let padding := layout.rowWidth - form.width * fields
  let shown := (groupsOf form.size (bytes.length + 1) bytes).zipIdx.map fun (group, place) =>
    let left := fields - place
    let own := padding * left / fields - padding * (left - 1) / fields
    padLeft (own + form.width) (form.field layout.isReversed group)
  let blank := fields - shown.length
  let chars :=
    String.ofList (bytes.map fun byte => if isShown byte then Char.ofNat byte.toNat else '.')
  String.join shown ++
    if style.showsChars then
      String.ofList (List.replicate (blank * form.width + padding * blank / fields) ' ') ++
        "  >" ++ chars ++ "<"
    else ""

/-- The lines of a dump; rows that repeat the one before them are shown as a star. -/
def rows (layout : DumpLayout) : Nat → Option (List UInt8) → Bool → List (List UInt8) →
    List String
  | _, _, _, [] => []
  | place, before?, isStarred, bytes :: rest =>
      let next := place + bytes.length
      if !layout.showsRepeats && before? == some bytes then
        let later := layout.rows next before? true rest
        if isStarred then later else "*\n" :: later
      else
        let lead := layout.address place
        let own := layout.styles.zipIdx.map fun (style, number) =>
          (if number = 0 then lead else String.ofList (List.replicate lead.length ' ')) ++
            layout.row style bytes ++ "\n"
        own ++ layout.rows next (some bytes) false rest

end DumpLayout

/-! ### The command -/

/-- The styles that letters of options ask for. -/
def stylesOf (options : Options) : Except String (List DumpStyle) := do
  let asked ← options.letters.mapM fun (letter, argument) =>
    match letter with
    | 't' => readStyles argument (argument.length + 1) argument.toList
    | 'c' => .ok [{ form := .chars }]
    | 'a' => .ok [{ form := .names }]
    | 'x' | 'h' => .ok [{ form := .whole 2 16 false }]
    | 'b' => .ok [{ form := .whole 1 8 false }]
    | 'o' => .ok [{ form := .whole 2 8 false }]
    | 'd' => .ok [{ form := .whole 2 10 false }]
    | 's' => .ok [{ form := .whole 2 10 true }]
    | 'i' => .ok [{ form := .whole 4 10 true }]
    | 'l' => .ok [{ form := .whole 8 10 true }]
    | 'f' => .ok [{ form := .real 4 }]
    | _ => .ok []
  let styles := asked.flatten
  return if styles.isEmpty then [{ form := .whole 2 8 false }] else styles

/-- Some bytes of the operands together: those behind so many, and so many of them. -/
def bytesOfOperands (skipped : Nat) (most? : Option Nat) (operands : List String) :
    Work (List UInt8) := do
  let mut content := ByteArray.empty
  for name in (if operands.isEmpty then ["-"] else operands) do
    match ← openOperand name with
    | .error fault => warn 1 (shownName name ++ ": " ++ faultText fault)
    | .ok descriptor =>
        let read ←
          match most? with
          | some most =>
              readUpTo descriptor endlessSteps (skipped + most - content.size) .empty
          | none => readRest descriptor endlessSteps .empty
        closeOperand descriptor
        match read with
        | .ok read => content := content ++ read
        | .error fault => warn 1 (shownName name ++ ": read error: " ++ faultText fault)
  if content.size < skipped then
    warn 1 "cannot skip past end of combined input"
    leave
  return (content.extract skipped content.size).data.toList

/-- Rows of so many bytes that can be shown as characters, with their addresses. -/
def showTexts (layout : DumpLayout) (least : Nat) :
    Nat → List UInt8 → List UInt8 → Nat → Work Unit
  | 0, _, _, _ => pure ()
  | fuel + 1, held, bytes, place =>
      let report := do
        if least ≤ held.length && bytes.head? == some 0 then
          let start := place - held.length
          let text := String.ofList (held.reverse.map fun byte => Char.ofNat byte.toNat)
          let lead := layout.address start
          put (lead ++ (if lead.isEmpty then "" else " ") ++ text ++ "\n")
      match bytes with
      | [] => report
      | byte :: rest =>
          if isShown byte || (8 ≤ byte && byte ≤ 13) then
            showTexts layout least fuel (byte :: held) rest (place + 1)
          else do
            report
            showTexts layout least fuel [] rest (place + 1)

def dumpNames : LongNames :=
  [("address-radix", 'A'), ("format", 't'), ("read-bytes", 'N'), ("skip-bytes", 'j'),
    ("output-duplicates", 'v'), ("strings", 'S'), ("endian", 'E'), ("width", 'w')]

/-- Operands in which a width of rows that is not told is told. -/
def withRowWidth (operands : List String) : List String :=
  operands.map fun operand =>
    if operand = "-w" || operand = "--width" then "-w32" else operand

def dumpBytes (given : List String) : Work Unit :=
  withOptions "A:t:N:j:vcxbodaishlfw:S:E:" dumpNames 1 (withRowWidth given) fun options => do
    let number := fun (letter : Char) => do
      match options.argument? letter with
      | none => return none
      | some text =>
          match count? text with
          | some count => return some count
          | none =>
              warn 1 ("invalid -" ++ String.singleton letter ++ " argument '" ++ text ++ "'")
              leave
    let radix := (options.argument? 'A').getD "o"
    unless ["o", "d", "x", "n"].contains radix do
      warn 1 ("invalid output address radix '" ++ radix ++
        "'; it must be one character from [doxn]")
      leave
    let skipped := (← number 'j').getD 0
    let most? ← number 'N'
    let least? ← number 'S'
    match stylesOf options with
    | .error text => warn 1 text
    | .ok styles =>
        let unit := (styles.map fun style => style.form.size).foldl max 1
        let asked := (← number 'w').getD 16
        let bytes :=
          if asked % unit = 0 && 0 < asked then asked
          else unit
        if (← number 'w').any fun width => width % unit ≠ 0 || width = 0 then
          remark ("warning: invalid width " ++ toString asked ++ "; using " ++ toString bytes ++
            " instead")
        let octets ← bytesOfOperands skipped most? options.operands
        let layout : DumpLayout :=
          { styles, bytes, showsRepeats := options.has 'v'
            isReversed := options.argument? 'E' == some "big"
            address? :=
              match radix with
              | "n" => none
              | "d" => some (10, 7)
              | "x" => some (16, 6)
              | _ => some (8, 7) }
        match least? with
        | some least => showTexts layout least (octets.length + 1) [] octets skipped
        | none =>
            let rows := groupsOf bytes (octets.length + 1) octets
            for row in layout.rows skipped none false rows do put row
            let final := layout.address (skipped + octets.length)
            unless final.isEmpty do put (line final)

end HingeField.Shell.Utility
