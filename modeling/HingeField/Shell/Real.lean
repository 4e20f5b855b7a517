import HingeField.Decimal.Shortest
import HingeField.Shell.Integer

/-!
Reals as commands read and write them: binary numbers with a bounded number of
digits. A text is read exactly and then rounded to the nearest of them; a half
goes to the even neighbour.
-/

namespace HingeField.Shell

/-- A real; a finite one is `significand · 2 ^ exponent` up to its sign. -/
inductive Real where
  | notANumber (isNegative : Bool)
  | infinite (isNegative : Bool)
  | finite (isNegative : Bool) (significand : Nat) (exponent : Int)

/-- A real that is no infinity: a quotient, up to its sign. -/
structure Quotient where
  isNegative : Bool
  numerator : Nat
  denominator : Nat

/-- A quotient rounded to a whole number; a half goes to the even neighbour. -/
def roundedQuotient (numerator denominator : Nat) : Nat :=
  let whole := numerator / denominator
  let rest := 2 * (numerator % denominator)
  if denominator < rest || (rest == denominator && whole % 2 == 1) then whole + 1 else whole

/-- A significand and a power of two as a quotient. -/
def quotientOf (isNegative : Bool) (significand : Nat) (exponent : Int) : Quotient :=
  if 0 ≤ exponent then
    { isNegative, numerator := significand * Nat.pow 2 exponent.toNat, denominator := 1 }
  else { isNegative, numerator := significand, denominator := Nat.pow 2 exponent.natAbs }

def Real.ofFloat (value : Float) : Real :=
  match Decimal.Reading.ofFloat value with
  | .notANumber => .notANumber (value.toBits.toNat / 0x8000000000000000 == 1)
  | .infinite isNegative => .infinite isNegative
  | .finite isNegative significand exponent => .finite isNegative significand exponent

/-- How many digits significands have, and between which exponents they stand. -/
structure RealPrecision where
  bits : Nat
  least : Int
  most : Int

namespace RealPrecision

def double : RealPrecision :=
  { bits := 53, least := -1074, most := 971 }

def extended : RealPrecision :=
  { bits := 64, least := -16445, most := 16320 }

/-- The real next to a quotient, and whether it is in the range of those with all their digits. -/
def round (precision : RealPrecision) (value : Quotient) : Real × Bool :=
  if value.numerator = 0 then (.finite value.isNegative 0 precision.least, true)
  else
    let size : Int := value.numerator.log2 - value.denominator.log2
    let exponentFor := fun size : Int => max precision.least (size - (precision.bits - 1 : Nat))
    let scaled := fun exponent : Int =>
      if 0 ≤ exponent then (value.numerator, value.denominator * Nat.pow 2 exponent.toNat)
      else (value.numerator * Nat.pow 2 exponent.natAbs, value.denominator)
    let isBelow := fun exponent : Int =>
      let (top, bottom) := scaled exponent
      top < Nat.pow 2 (precision.bits - 1) * bottom
    let start := exponentFor size
    let exponent :=
      if isBelow start && precision.least < start then start - 1 else start
    let (top, bottom) := scaled exponent
    let rounded := roundedQuotient top bottom
    let isExact := top % bottom = 0
    let (significand, exponent) :=
      if rounded = Nat.pow 2 precision.bits then (rounded / 2, exponent + 1)
      else (rounded, exponent)
    if precision.most < exponent then (.infinite value.isNegative, false)
    else
      (.finite value.isNegative significand exponent,
        isExact || Nat.pow 2 (precision.bits - 1) ≤ significand)

end RealPrecision

/-- A real that is read from the start of a text. -/
structure RealReading where
  value : Real
  isInRange : Bool
  rest : List Char

/-- An exponent behind one of some letters, and the rest; none where no digits follow. -/
def readExponent (letters : List Char) (text : List Char) : Int × List Char :=
  match text with
  | [] => (0, [])
  | letter :: behind =>
      let digits :=
        match behind with
        | '-' :: digits | '+' :: digits => digits
        | digits => digits
      let number := digits.takeWhile Char.isDigit
      if letters.contains letter && !number.isEmpty then
        let size : Nat := (String.ofList number).toNat?.getD 0
        (if behind.head? == some '-' then -size else size, digits.drop number.length)
      else (0, text)

/-- Digits in a base with a point among them: their value, how many stand behind the point, and the
rest; `none` if there are none. -/
def readPointed (base : Nat) (text : List Char) : Option (Nat × Nat × List Char) :=
  let isDigit := fun c : Char => (digitOf? base c).isSome
  let whole := text.takeWhile isDigit
  let (fraction, rest) : List Char × List Char :=
    match text.drop whole.length with
    | '.' :: behind =>
        let fraction := behind.takeWhile isDigit
        (fraction, behind.drop fraction.length)
    | rest => ([], rest)
  if whole.isEmpty && fraction.isEmpty then none
  else
    let value := (whole ++ fraction).foldl
      (fun value c => value * base + (digitOf? base c).getD 0) 0
    some (value, fraction.length, rest)

/-- Exponents beyond all reals. -/
def farExponent : Nat := 40000

/-- A real at the start of a text, in decimal digits, in hexadecimal ones behind their mark, or a
word; `none` if there is none. -/
def readReal? (precision : RealPrecision) (text : List Char) : Option RealReading :=
  let start := text.dropWhile isSpace
  let (isNegative, unsigned) : Bool × List Char :=
    match start with
    | '-' :: rest => (true, rest)
    | '+' :: rest => (false, rest)
    | rest => (false, rest)
  let lower := (unsigned.take 8).map Char.toLower
  let scaled := fun (value : Nat) (base : Nat) (exponent : Int) (rest : List Char) =>
    let bounded := max (-(farExponent : Int)) (min farExponent exponent)
    let quotient : Quotient :=
      if 0 ≤ bounded then
        { isNegative, numerator := value * Nat.pow base bounded.toNat, denominator := 1 }
      else { isNegative, numerator := value, denominator := Nat.pow base bounded.natAbs }
    let (value, isInRange) := precision.round quotient
    some ({ value, isInRange, rest } : RealReading)
  if "infinity".toList.isPrefixOf lower then
    some { value := .infinite isNegative, isInRange := true, rest := unsigned.drop 8 }
  else if "inf".toList.isPrefixOf lower then
    some { value := .infinite isNegative, isInRange := true, rest := unsigned.drop 3 }
  else if "nan".toList.isPrefixOf lower then
    let behind := unsigned.drop 3
    let inside := (behind.drop 1).takeWhile fun c => c.isAlphanum || c == '_'
    let rest :=
      if behind.head? == some '(' && behind[inside.length + 1]? == some ')' then
        behind.drop (inside.length + 2)
      else behind
    some { value := .notANumber isNegative, isInRange := true, rest }
  else
    match (if lower.take 2 == ['0', 'x'] then readPointed 16 (unsigned.drop 2) else none) with
    | some (value, places, rest) =>
        let (exponent, rest) := readExponent ['p', 'P'] rest
        scaled value 2 (exponent - 4 * places) rest
    | none =>
        match readPointed 10 unsigned with
        | none => none
        | some (value, places, rest) =>
            let (exponent, rest) := readExponent ['e', 'E'] rest
            scaled value 10 (exponent - places) rest

/-- The order of two finite reals, and of infinities around them. -/
def Real.compare : Real → Real → Ordering
  | .infinite first, .infinite second =>
      Ord.compare (if first then 0 else 1 : Nat) (if second then 0 else 1)
  | .infinite isNegative, _ => if isNegative then .lt else .gt
  | _, .infinite isNegative => if isNegative then .gt else .lt
  | .finite firstNegative first firstExponent, .finite secondNegative second secondExponent =>
      let value := fun (isNegative : Bool) (significand : Nat) (exponent other : Int) =>
        let size : Int := significand * Nat.pow 2 (exponent - min exponent other).toNat
        if isNegative then -size else size
      Ord.compare (value firstNegative first firstExponent secondExponent)
        (value secondNegative second secondExponent firstExponent)
  | _, _ => .eq

end HingeField.Shell
