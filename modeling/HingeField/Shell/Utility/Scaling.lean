import HingeField.Shell.Conversion
import HingeField.Shell.Utility.Columns

/-!
The command that reads and writes numbers with the suffixes of a scale. It reckons
with binary numbers of 64 digits, to which every step is rounded.
-/

namespace HingeField.Shell.Utility

/-! ### Numbers -/

/-- A number as a quotient, up to its sign. -/
def magnitudeOf (value : Rat) : Quotient :=
  { isNegative := value < 0, numerator := value.num.natAbs, denominator := value.den }

/-- The binary number of 64 digits next to a number. -/
def extended (value : Rat) : Rat :=
  match (RealPrecision.extended.round (magnitudeOf value)).1 with
  | .finite isNegative significand exponent =>
      let rounded := quotientOf isNegative significand exponent
      mkRat (if isNegative then -rounded.numerator else rounded.numerator) rounded.denominator
  | _ => value

def extendedProduct (first second : Rat) : Rat :=
  extended (first * second)

def extendedQuotient (first second : Rat) : Rat :=
  extended (first / second)

/-- A power of a whole number. -/
def extendedPower (base : Nat) : Nat → Rat
  | 0 => 1
  | exponent + 1 => extendedProduct (extendedPower base exponent) (base : Rat)

/-- How a number that is not whole becomes a whole one. -/
inductive Rounding where
  | up
  | down
  | fromZero
  | towardsZero
  | nearest

def Rounding.apply (rounding : Rounding) (value : Rat) : Int :=
  let towardsZero := fun value : Rat => if value < 0 then value.ceil else value.floor
  match rounding with
  | .up => value.ceil
  | .down => value.floor
  | .fromZero => if value < 0 then value.floor else value.ceil
  | .towardsZero => towardsZero value
  | .nearest => towardsZero (extended (if value < 0 then value - mkRat 1 2 else value + mkRat 1 2))

/-- A number rounded to so many places. -/
def Rounding.toPlaces (rounding : Rounding) (places : Nat) (value : Rat) : Rat :=
  let shift := extendedPower 10 places
  extendedQuotient (rounding.apply (extendedProduct value shift) : Rat) shift

/-! ### Scales -/

/-- What suffixes stand for: nothing, powers of 1000, powers of 1024 without or with an `i` behind
them, or the one or the other as the `i` says. -/
inductive Scale where
  | plain
  | auto
  | decimal
  | binary
  | marked
deriving DecidableEq

namespace Scale

def base : Scale → Nat
  | .binary | .marked => 1024
  | _ => 1000

/-- The suffixes of the powers from the first one on. -/
def suffixes : List Char :=
  "KMGTPEZYRQ".toList

end Scale

/-- Why a text is no number of a scale. -/
inductive ScaledDefect where
  | tooLarge
  | notANumber
  | unwantedSuffix
  | unknownSuffix
  | unmarkedSuffix
  | behindSuffix (rest : String)

def ScaledDefect.message (text : String) : ScaledDefect → String
  | .tooLarge => "value too large to be converted: " ++ inCurlyQuotes text
  | .notANumber => "invalid number: " ++ inCurlyQuotes text
  | .unwantedSuffix =>
      "rejecting suffix in input: " ++ inCurlyQuotes text ++ " (consider using --from)"
  | .unknownSuffix => "invalid suffix in input: " ++ inCurlyQuotes text
  | .unmarkedSuffix =>
      "missing 'i' suffix in input: " ++ inCurlyQuotes text ++ " (e.g Ki/Mi/Gi)"
  | .behindSuffix rest =>
      "invalid suffix in input " ++ inCurlyQuotes text ++ ": " ++ inCurlyQuotes rest

/-- How many digits a number may have that is read. -/
def mostReadDigits : Nat := 33

/-- How many digits a number may have that is written without a suffix, and is sure to be exact. -/
def mostPlainDigits : Nat := 18

/-- The digits of a number without the zeros in front. -/
def significantDigits (digits : List Char) : Nat :=
  (digits.dropWhile (· == '0')).length

/-- The value of digits, if they are not too many. -/
def digitsValue (digits : List Char) : Except ScaledDefect Rat :=
  if mostReadDigits < significantDigits digits then .error .tooLarge
  else
    .ok (digits.foldl
      (fun (value : Rat) c =>
        extended (extendedProduct value 10 + ((c.toNat - '0'.toNat : Nat) : Rat))) 0)

/-- A number as it is read, with the places behind its point, and whether it may have lost
digits. -/
structure ScaledReading where
  value : Rat
  places : Nat := 0
  mayBeInexact : Bool := false
  rest : List Char := []

/-- Reads a number without its suffix. -/
def readUnscaled (text : List Char) : Except ScaledDefect ScaledReading := do
  let isNegative := text.head? == some '-'
  let unsigned := if isNegative then text.drop 1 else text
  let whole := unsigned.takeWhile Char.isDigit
  let behind := unsigned.drop whole.length
  let hasPoint := behind.head? == some '.'
  if whole.isEmpty && !hasPoint then throw .notANumber
  let size ← digitsValue whole
  let isLong := decide (mostPlainDigits < significantDigits whole)
  if !hasPoint then
    return { value := if isNegative then -size else size, mayBeInexact := isLong, rest := behind }
  else
    let digits := (behind.drop 1).takeWhile Char.isDigit
    let rest := behind.drop (1 + digits.length)
    if digits.isEmpty && rest.head? != some '.' then throw .notANumber
    let fraction := extendedQuotient (← digitsValue digits) (extendedPower 10 digits.length)
    let value := extended (size + fraction)
    return { value := if isNegative then -value else value, places := digits.length
             mayBeInexact := isLong || decide (mostPlainDigits < significantDigits digits), rest }

/-- Reads a number with the suffix that it may have. -/
def Scale.read (scale : Scale) (text : List Char) : Except ScaledDefect ScaledReading := do
  let reading ← readUnscaled text
  match reading.rest, reading.rest.dropWhile fun c => c == ' ' || c == '\t' with
  | [], _ => if scale == .marked then throw .unmarkedSuffix else return reading
  | _, [] => throw (if scale == .plain then .unwantedSuffix else .unknownSuffix)
  | _, suffix :: rest =>
      if !Scale.suffixes.contains suffix then throw .unknownSuffix
      if scale == .plain then throw .unwantedSuffix
      let isMarked := rest.head? == some 'i'
      if scale == .marked && !isMarked then throw .unmarkedSuffix
      let takesMark := isMarked && (scale == .marked || scale == .auto)
      let base := if takesMark then 1024 else scale.base
      let power := Scale.suffixes.idxOf suffix + 1
      let rest := if takesMark then rest.drop 1 else rest
      unless rest.isEmpty do throw (.behindSuffix (String.ofList rest))
      return { reading with
        value := extendedProduct reading.value (extendedPower base power), places := 0, rest }

/-- A number divided by a base until it is less than that, and how often. -/
def scaledDown (base : Nat) : Nat → Rat → Nat → Rat × Nat
  | 0, value, power => (value, power)
  | fuel + 1, value, power =>
      if value.abs < (base : Rat) then (value, power)
      else scaledDown base fuel (extendedQuotient value (base : Rat)) (power + 1)

/-- How often numbers are divided at most. -/
def scaleSteps : Nat := 200

/-- The size of a number as a power of ten. -/
def tenfolds (value : Rat) : Nat :=
  (scaledDown 10 scaleSteps value 0).2

/-! ### Forms -/

/-- What is written around numbers, and to how many places they are. -/
structure NumberForm where
  lead : String := ""
  ending : String := ""
  places? : Option Nat := none
  /-- The width that zeros fill. -/
  zeroWidth : Nat := 0
  /-- The width that blanks fill, and whether they do so on the right. -/
  padding? : Option (Nat × Bool) := none

/-- The longest width that can be read. -/
def mostWidth : Nat := 0x7fffffffffffffff

/-- Signs and blanks between the start of a conversion and its width: what is behind them, and
whether a zero is among them. -/
def conversionFlags : List Char → Bool × List Char
  | ' ' :: rest | '\x27' :: rest => conversionFlags rest
  | '0' :: rest => (true, (conversionFlags rest).2)
  | rest => (false, rest)

/-- The text in front of the conversion of a format, and the rest of the format. -/
def formatLead : List Char → Option (List Char × List Char)
  | [] => none
  | '%' :: '%' :: rest => (formatLead rest).map fun (lead, rest) => ('%' :: '%' :: lead, rest)
  | '%' :: rest => some ([], rest)
  | c :: rest => (formatLead rest).map fun (lead, rest) => (c :: lead, rest)

/-- Reads a form from a format with one conversion. Of the text in front as many characters are kept
as it stands for. -/
def NumberForm.ofFormat (format : String) : Except String NumberForm := do
  let shown := inCurlyQuotes format
  match formatLead format.toList with
  | none => throw ("format " ++ shown ++ " has no % directive")
  | some (lead, rest) => do
      let (hasZero, rest) := conversionFlags rest
      let isLeft := rest.head? == some '-'
      let digits := (if isLeft then rest.drop 1 else rest).takeWhile Char.isDigit
      let width := ((String.ofList digits).toNat?).getD 0
      if mostWidth < width then throw ("invalid format " ++ shown ++ " (width overflow)")
      let rest := if digits.isEmpty then rest else rest.drop (digits.length + isLeft.toNat)
      if rest.isEmpty then throw ("format " ++ shown ++ " ends in %")
      let places := (rest.drop 1).takeWhile Char.isDigit
      let places? := if rest.head? == some '.' then some places else none
      let number := ((String.ofList places).toNat?).getD 0
      if places?.isSome then
        let next := rest[1]?
        if mostWidth < number || next.any fun c => c == ' ' || c == '\t' || c == '+' ||
            c == '-' && (rest[2]?.any Char.isDigit) then
          throw ("invalid precision in format " ++ shown)
      let rest := if places?.isSome then rest.drop (1 + places.length) else rest
      match rest with
      | 'f' :: ending =>
          if (formatLead ending).isSome then
            throw ("format " ++ shown ++ " has too many % directives")
          let steps := lead.length - (pairsIn lead)
          let lead := String.ofList (lead.take steps)
          let ending := String.ofList ending
          let places? := places?.map fun _ => number
          if width = 0 then return { lead, ending, places? }
          else if isLeft then return { lead, ending, places?, padding? := some (width, true) }
          else if hasZero then return { lead, ending, places?, zeroWidth := width }
          else return { lead, ending, places?, padding? := some (width, false) }
      | _ =>
          throw ("invalid format " ++ shown ++ ", directive must be %[0][\x27][-][N][.][N]f")
where
  /-- How many pairs of signs stand in the text in front. -/
  pairsIn (lead : List Char) : Nat :=
    lead.count '%' / 2

/-- A number as it is written, to so many places or, with a suffix, to as many as suit it. -/
def NumberForm.text (form : NumberForm) (rounding : Rounding) (scale : Scale) (places : Nat)
    (value : Rat) : String :=
  let written := fun (places : Nat) (value : Rat) =>
    ({ flags := ['0'], width := form.zeroWidth } : Conversion).place true
      (if value < 0 then "-" else "") (fixedText false places (magnitudeOf value))
  if scale == .plain then
    let places := form.places?.getD places
    written places (rounding.toPlaces places value)
  else
    let (value, power) := scaledDown scale.base scaleSteps value 0
    let kept :=
      match form.places? with
      | some places => min (power * 3) places
      | none => if value.abs < 10 then 1 else 0
    let value := rounding.toPlaces kept value
    let (value, power) :=
      if (scale.base : Rat) ≤ value.abs then (extendedQuotient value (scale.base : Rat), power + 1)
      else (value, power)
    let hasPoint := value ≠ 0 && value.abs < 10 && 0 < power
    let suffix :=
      if power = 0 then "" else String.ofList ((Scale.suffixes.drop (power - 1)).take 1)
    let mark := if scale == .marked && 0 < power then "i" else ""
    written (form.places?.getD hasPoint.toNat) value ++ suffix ++ mark

/-! ### The command -/

/-- What happens after a number that cannot be read: the end, a failure at the end, a message, or
nothing. -/
inductive Leniency where
  | aborting
  | failing
  | warning
  | ignoring
deriving DecidableEq

/-- How numbers are read and written. -/
structure Scaling where
  source : Scale := .plain
  target : Scale := .plain
  sourceUnit : Nat := 1
  targetUnit : Nat := 1
  rounding : Rounding := .fromZero
  leniency : Leniency := .aborting
  form : NumberForm := {}
  format? : Option String := none
  isGrouped : Bool := false
  isWatched : Bool := false
  delimiter? : Option Char := none
  /-- The fields that hold numbers. -/
  fields? : Option (List Span) := none
  suffix : String := ""
  headerLines : Nat := 0

namespace Scaling

/-- The size of a unit: a number, a suffix, or both. -/
def unit? (text : String) : Option Nat := do
  let start := (text.toList.dropWhile isSpace)
  let unsigned := if start.head? == some '+' then start.drop 1 else start
  let digits := unsigned.takeWhile Char.isDigit
  let number ← if digits.isEmpty then some 1 else (String.ofList digits).toNat?
  let factor ←
    match unsigned.drop digits.length with
    | [] => if digits.isEmpty then none else some 1
    | [suffix] => scaleFactor? 1000 suffix
    | [suffix, 'i'] => scaleFactor? 1024 suffix
    | _ => none
  let size := number * factor
  if 0 < size && size ≤ 0xffffffffffffffff then some size else none
where
  scaleFactor? (base : Nat) (suffix : Char) : Option Nat :=
    if Scale.suffixes.contains suffix then
      some (Nat.pow base (Scale.suffixes.idxOf suffix + 1))
    else none

def sourceScales : List (String × Scale) :=
  [("none", .plain), ("auto", .auto), ("si", .decimal), ("iec", .binary), ("iec-i", .marked)]

/-- Takes in an option. -/
def withOption (scaling : Scaling) (letter : Char) (text : String) : Work Scaling := do
  match letter with
  | 'f' => return { scaling with source := ← chooseWord 1 "--from" text sourceScales }
  | 't' =>
      let scales := sourceScales.filter fun entry => entry.1 != "auto"
      return { scaling with target := ← chooseWord 1 "--to" text scales }
  | 'u' | 'U' =>
      match unit? text with
      | none => refuse 1 ("invalid unit size: " ++ inCurlyQuotes text)
      | some size =>
          if letter == 'u' then return { scaling with sourceUnit := size }
          else return { scaling with targetUnit := size }
  | 'r' =>
      let rounding ← chooseWord 1 "--round" text
        [("up", Rounding.up), ("down", .down), ("from-zero", .fromZero),
          ("towards-zero", .towardsZero), ("nearest", .nearest)]
      return { scaling with rounding }
  | 'g' => return { scaling with isGrouped := true }
  | 'p' =>
      match integerOf? text.toList with
      | some width =>
          if width = 0 then refuse 1 ("invalid padding value " ++ inCurlyQuotes text)
          else
            let padding? := some (width.natAbs, decide (width < 0))
            return { scaling with form := { scaling.form with padding? } }
      | none => refuse 1 ("invalid padding value " ++ inCurlyQuotes text)
  | 'F' =>
      if scaling.fields?.isSome then refuse 1 "multiple field specifications"
      else if text = "-" then
        return { scaling with fields? := some [{ first := 1, last := none }] }
      else
        match readSpans "field" text with
        | .ok spans => return { scaling with fields? := some spans }
        | .error text =>
            misuse 1 text
            leave
  | 'd' =>
      if 1 < text.length then refuse 1 "the delimiter must be a single character"
      else return { scaling with delimiter? := some (text.toList.headD '\x00') }
  | 's' => return { scaling with suffix := text }
  | 'D' => return { scaling with isWatched := true }
  | 'H' =>
      if text.isEmpty then return { scaling with headerLines := 1 }
      else
        match text.toNat?.filter (0 < ·) with
        | some headerLines => return { scaling with headerLines }
        | none => refuse 1 ("invalid header value " ++ inCurlyQuotes text)
  | 'm' => return { scaling with format? := some text }
  | 'i' =>
      let leniency ← chooseWord 1 "--invalid" text
        [("abort", Leniency.aborting), ("fail", .failing), ("warn", .warning),
          ("ignore", .ignoring)]
      return { scaling with leniency }
  | _ => return scaling
where
  /-- The integer that a whole text stands for. -/
  integerOf? (text : List Char) : Option Int :=
    match text.dropWhile isSpace with
    | '-' :: digits => (numberOf? digits).map fun number : Nat => -(number : Int)
    | '+' :: digits => (numberOf? digits).map fun number : Nat => (number : Int)
    | digits => (numberOf? digits).map fun number : Nat => (number : Int)
  numberOf? (digits : List Char) : Option Nat :=
    if digits.all Char.isDigit then
      ((String.ofList digits).toNat?).filter fun number => number ≤ mostWidth
    else none

/-- Says why a number cannot be read or written, if that is to be said, and ends if it is to. -/
def complain (scaling : Scaling) (text : String) : Work Unit := do
  match scaling.leniency with
  | .aborting => refuse 2 text
  | .failing | .warning => remark text
  | .ignoring => pure ()

/-- Why a number cannot be written. -/
def excess? (scaling : Scaling) (places : Nat) (value : Rat) : Option String :=
  let places := scaling.form.places?.getD places
  let size := tenfolds value
  let shown :=
    (if value < 0 then "-" else "") ++ generalText false 6 (magnitudeOf value)
  if scaling.target == .plain && mostPlainDigits < size + places then
    some (if places = 0 then
        "value too large to be printed: '" ++ shown ++ "' (consider using --to)"
      else
        "value/precision too large to be printed: '" ++ shown ++ "/" ++ toString places ++
          "' (consider using --to)")
  else if mostReadDigits - 1 < size then
    some ("value too large to be printed: '" ++ shown ++ "' (cannot handle values > 999Q)")
  else none

/-- A field with its number written anew, or as it is if that cannot be done. -/
def field (scaling : Scaling) (number : Nat) (text : String) : Work String := do
  let text :=
    if !scaling.suffix.isEmpty && text.endsWith scaling.suffix &&
        scaling.suffix.length < text.length then
      (text.dropEnd scaling.suffix.length).toString
    else text
  let digits := text.toList.dropWhile fun c => c == ' ' || c == '\t'
  let own :=
    if digits.length < text.length || 1 < number then some (text.length, false) else none
  let padding? :=
    if scaling.form.padding?.isNone && scaling.delimiter?.isNone then own
    else scaling.form.padding?
  match scaling.source.read digits with
  | .error defect =>
      scaling.complain (defect.message (String.ofList digits))
      raiseStatus 2
      return text
  | .ok reading =>
      if scaling.isWatched && reading.mayBeInexact then
        remark ("large input value " ++ inCurlyQuotes (String.ofList digits) ++
          ": possible precision loss")
      let value :=
        if scaling.sourceUnit = 1 && scaling.targetUnit = 1 then reading.value
        else
          extendedQuotient (extendedProduct reading.value (scaling.sourceUnit : Rat))
            (scaling.targetUnit : Rat)
      match scaling.excess? reading.places value with
      | some message =>
          scaling.complain message
          raiseStatus 2
          return text
      | none =>
          let shown :=
            scaling.form.text scaling.rounding scaling.target reading.places value ++
              scaling.suffix
          let placed :=
            match padding? with
            | some (width, isLeft) =>
                ({ flags := if isLeft then ['-'] else [], width } : Conversion).text shown
            | none => shown
          return scaling.form.lead ++ placed ++ scaling.form.ending

/-- The fields of a line; each run of blanks but its first one belongs to the field behind it. -/
def fieldsOf (scaling : Scaling) (text : String) : List String :=
  match scaling.delimiter? with
  | some delimiter => text.splitOn (String.singleton delimiter)
  | none => blankFields (text.length + 1) text.toList
where
  blankFields : Nat → List Char → List String
    | 0, _ => []
    | fuel + 1, text =>
        let isBlank := fun c : Char => c == ' ' || c == '\t' || c == '\n'
        let lead := text.takeWhile isBlank
        let body := (text.drop lead.length).takeWhile fun c => !isBlank c
        let rest := text.drop (lead.length + body.length)
        String.ofList (lead ++ body) ::
          match rest with
          | [] => []
          | _ :: rest => blankFields fuel rest

/-- Shows the fields of a line. -/
def showFields (scaling : Scaling) : Nat → List String → Work Unit
  | _, [] => pure ()
  | number, text :: rest => do
      let isMeant :=
        match scaling.fields? with
        | some spans => spans.any fun span => span.contains number
        | none => number == 1
      if isMeant then put (← scaling.field number text)
      else put text
      unless rest.isEmpty do
        put (String.singleton (scaling.delimiter?.getD ' '))
      showFields scaling (number + 1) rest

def showLine (scaling : Scaling) (text : String) : Work Unit :=
  scaling.showFields 1 (scaling.fieldsOf text)

/-- The scaling with its format, if it makes sense. -/
def checked (scaling : Scaling) : Work Scaling := do
  if scaling.format?.isSome && scaling.isGrouped then
    refuse 1 "--grouping cannot be combined with --format"
  if scaling.isWatched && scaling.source == .plain && scaling.target == .plain &&
      !scaling.isGrouped && scaling.form.padding?.isNone && scaling.format?.isNone then
    remark "no conversion option specified"
  let form ←
    match scaling.format? with
    | none => pure scaling.form
    | some format =>
        match NumberForm.ofFormat format with
        | .error text => refuse 1 text
        | .ok form =>
            if scaling.isWatched && scaling.form.padding?.isSome && form.padding?.isSome then
              remark "--format padding overriding --padding"
            pure { form with padding? := form.padding?.or scaling.form.padding? }
  if scaling.isGrouped then
    if scaling.target != .plain then refuse 1 "grouping cannot be combined with --to"
    if scaling.isWatched then remark "grouping has no effect in this locale"
  return { scaling with form }

/-- The lines of the input, of which the first ones may be passed on as they are. -/
def showInput (scaling : Scaling) (lineEnd : Char) : Work Unit := do
  setLineEnd 0 (UInt8.ofNat lineEnd.toNat)
  for _ in List.range scaling.headerLines do
    if let .ok (some text) ← nextLine 0 endlessSteps then put text
  let step := fun text : String => do
    let hasEnd := text.endsWith (String.singleton lineEnd)
    scaling.showLine (if hasEnd then (text.dropEnd 1).toString else text)
    if hasEnd then put (String.singleton lineEnd)
    return true
  match ← forEachLine 0 step endlessSteps with
  | .ok () => pure ()
  | .error fault => warn 1 ("error reading input: " ++ faultText fault)

end Scaling

/-- Reads and writes numbers with the suffixes of scales. -/
def scaleNumbers (operands : List String) : Work Unit :=
  withOptions "d:z f:u:t:U:r:gp:F:s:DH?m:i:"
    [("from", 'f'), ("from-unit", 'u'), ("to", 't'), ("to-unit", 'U'), ("round", 'r'),
      ("grouping", 'g'), ("padding", 'p'), ("field", 'F'), ("delimiter", 'd'), ("suffix", 's'),
      ("debug", 'D'), ("header", 'H'), ("format", 'm'), ("invalid", 'i'),
      ("zero-terminated", 'z')] 1 operands fun options => do
    let mut scaling : Scaling := {}
    for (letter, text) in options.letters do scaling ← scaling.withOption letter text
    scaling ← scaling.checked
    let lineEnd := if options.has 'z' then '\x00' else '\n'
    if options.operands.isEmpty then scaling.showInput lineEnd
    else
      if scaling.isWatched && 0 < scaling.headerLines then
        remark "--header ignored with command-line input"
      for text in options.operands do
        scaling.showLine text
        put (String.singleton lineEnd)
    if scaling.isWatched && 0 < (← get).status then
      remark "failed to convert some of the input numbers"
    if scaling.leniency == .warning || scaling.leniency == .ignoring then setStatus 0

end HingeField.Shell.Utility
