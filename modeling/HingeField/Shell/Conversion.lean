import HingeField.Shell.Real

/-!
Conversions of a format: how texts, integers and reals are set into a width.
Reals are given exactly, and rounded to the places asked for; a half goes to
the even neighbour.
-/

namespace HingeField.Shell

/-- The flags, width and precision of a conversion. -/
structure Conversion where
  flags : List Char := []
  width : Nat := 0
  precision : Option Nat := none

namespace Conversion

def has (conversion : Conversion) (flag : Char) : Bool :=
  conversion.flags.contains flag

/-- Puts a text with a lead, such as a sign, into the width. Zeros fill between the two. -/
def place (conversion : Conversion) (mayZero : Bool) (lead body : String) : String :=
  let fill := conversion.width - lead.length - body.length
  let padding := fun c : Char => String.ofList (List.replicate fill c)
  if conversion.has '-' then lead ++ body ++ padding ' '
  else if mayZero && conversion.has '0' then lead ++ padding '0' ++ body
  else padding ' ' ++ lead ++ body

/-- A text, cut to the precision. -/
def text (conversion : Conversion) (argument : String) : String :=
  let cut :=
    match conversion.precision with
    | some length => (argument.take length).toString
    | none => argument
  conversion.place false "" cut

/-- The sign in front of a number. -/
def sign (conversion : Conversion) (isNegative : Bool) : String :=
  if isNegative then "-"
  else if conversion.has '+' then "+"
  else if conversion.has ' ' then " "
  else ""

/-- The digits of a number, as many as the precision asks for. -/
def digits (conversion : Conversion) (base value : Nat) : String :=
  let chars := if value = 0 && conversion.precision = some 0 then [] else Nat.toDigits base value
  let missing := conversion.precision.getD 0 - chars.length
  String.ofList (List.replicate missing '0' ++ chars)

def integer (conversion : Conversion) (value : Int) : String :=
  conversion.place conversion.precision.isNone (conversion.sign (value < 0))
    (conversion.digits 10 value.natAbs)

/-- A number without a sign, in the base of its letter. -/
def unsigned (conversion : Conversion) (letter : Char) (value : Nat) : String :=
  let place := conversion.place conversion.precision.isNone
  let isMarked := conversion.has '#' && value != 0
  match letter with
  | 'o' =>
      let digits := conversion.digits 8 value
      place "" (if conversion.has '#' && !digits.startsWith "0" then "0" ++ digits else digits)
  | 'x' => place (if isMarked then "0x" else "") (conversion.digits 16 value)
  | 'X' => place (if isMarked then "0X" else "") (conversion.digits 16 value).toUpper
  | _ => place "" (conversion.digits 10 value)

end Conversion

/-! ### Reals -/

/-- A magnitude with a number of places behind the point. -/
def fixedText (keepsPoint : Bool) (places : Nat) (value : Quotient) : String :=
  let units := roundedQuotient (value.numerator * Nat.pow 10 places) value.denominator
  let digits := Nat.toDigits 10 units
  let padded := List.replicate (places + 1 - digits.length) '0' ++ digits
  let whole := String.ofList (padded.take (padded.length - places))
  if places = 0 then if keepsPoint then whole ++ "." else whole
  else whole ++ "." ++ String.ofList (padded.drop (padded.length - places))

/-- The power of ten that the first digit of a positive quotient stands for, looked for from a first
guess on. -/
def leadingExponent (value : Quotient) : Int :=
  let digits := fun size : Nat => (Nat.toDigits 10 size).length
  let guess : Int := digits value.numerator - digits value.denominator
  let isReached :=
    if 0 ≤ guess then value.denominator * Nat.pow 10 guess.toNat ≤ value.numerator
    else value.denominator ≤ value.numerator * Nat.pow 10 guess.natAbs
  if isReached then guess else guess - 1

/-- The digits of a quotient, so many behind the first one, and the exponent of that. -/
def scientific (places : Nat) (value : Quotient) : List Char × Int :=
  if value.numerator = 0 then (List.replicate (places + 1) '0', 0)
  else
    let exponent := leadingExponent value
    let shift : Int := places - exponent
    let rounded :=
      if 0 ≤ shift then roundedQuotient (value.numerator * Nat.pow 10 shift.toNat) value.denominator
      else roundedQuotient value.numerator (value.denominator * Nat.pow 10 shift.natAbs)
    let digits := Nat.toDigits 10 rounded
    if places + 1 < digits.length then (digits.take (places + 1), exponent + 1)
    else (digits, exponent)

def exponentText (exponent : Int) : String :=
  let digits := Nat.toDigits 10 exponent.natAbs
  let padded := List.replicate (2 - digits.length) '0' ++ digits
  "e" ++ (if exponent < 0 then "-" else "+") ++ String.ofList padded

def withPoint (keepsPoint : Bool) (digits : List Char) : String :=
  let behind := digits.drop 1
  String.ofList (digits.take 1) ++
    (if behind.isEmpty && !keepsPoint then "" else "." ++ String.ofList behind)

def scientificText (keepsPoint : Bool) (places : Nat) (value : Quotient) : String :=
  let (digits, exponent) := scientific places value
  withPoint keepsPoint digits ++ exponentText exponent

/-- A text without the zeros that end the part behind its point. -/
def withoutZeros (text : String) : String :=
  if text.contains '.' then
    let kept := text.toList.reverse.dropWhile (· == '0')
    String.ofList (if kept.head? == some '.' then kept.drop 1 else kept).reverse
  else text

/-- The shorter of the two forms with a number of digits in all; zeros at the end are left out
unless they are to stay. -/
def generalText (keepsZeros : Bool) (precision : Nat) (value : Quotient) : String :=
  let count := max precision 1
  let (digits, exponent) := scientific (count - 1) value
  if exponent < -4 || (count : Int) ≤ exponent then
    let mantissa := withPoint keepsZeros digits
    (if keepsZeros then mantissa else withoutZeros mantissa) ++ exponentText exponent
  else
    let text := fixedText keepsZeros ((count : Int) - 1 - exponent).toNat value
    if keepsZeros then text else withoutZeros text

/-- A significand in base sixteen, with so many digits behind the first one, and with the power of
two behind it. Without a precision zeros at the end are left out. -/
def hexText (keepsPoint : Bool) (precision : Option Nat) (places significand : Nat)
    (exponent : Int) : String :=
  let count := precision.getD places
  let digits :=
    if count < places then roundedQuotient significand (Nat.pow 16 (places - count))
    else significand * Nat.pow 16 (count - places)
  let behind := if count = 0 then [] else Nat.toDigits 16 (digits % Nat.pow 16 count)
  let behind := List.replicate (count - behind.length) '0' ++ behind
  let behind :=
    if precision.isSome then behind else (behind.reverse.dropWhile (· == '0')).reverse
  let exponent : Int := if significand = 0 then 0 else exponent + 4 * places
  String.ofList (Nat.toDigits 16 (digits / Nat.pow 16 count)) ++
    (if behind.isEmpty && !keepsPoint then "" else "." ++ String.ofList behind) ++ "p" ++
    (if exponent < 0 then "-" else "+") ++ toString exponent.natAbs

namespace Conversion

/-- The magnitude of a real under the letter of its conversion. -/
def magnitude (conversion : Conversion) (letter : Char) (value : Quotient) : String :=
  let precision := conversion.precision.getD 6
  let keeps := conversion.has '#'
  match letter with
  | 'f' => fixedText keeps precision value
  | 'e' => scientificText keeps precision value
  | _ => generalText keeps precision value

/-- A real of some precision under the letter of its conversion. -/
def real (conversion : Conversion) (precision : RealPrecision) (letter : Char) (value : Real) :
    String :=
  let cased := fun text : String => if letter.isUpper then text.toUpper else text
  match value with
  | .notANumber isNegative =>
      conversion.place false (conversion.sign isNegative) (cased "nan")
  | .infinite isNegative =>
      conversion.place false (conversion.sign isNegative) (cased "inf")
  | .finite isNegative significand exponent =>
      if letter.toLower == 'a' then
        let text :=
          hexText (conversion.has '#') conversion.precision ((precision.bits - 1) / 4) significand
            exponent
        conversion.place true (conversion.sign isNegative ++ cased "0x") (cased text)
      else
        let value := quotientOf isNegative significand exponent
        conversion.place true (conversion.sign isNegative)
          (cased (conversion.magnitude letter.toLower value))

end Conversion

end HingeField.Shell
