import HingeField.Shell.Conversion
import HingeField.Shell.Octets

/-!
What programs for records compute with: texts of bytes and doubles, each of which
can be taken for the other. A text from the input counts as a number wherever it
looks like one.
-/

namespace HingeField.Shell

/-- The double for a real of its precision. -/
def Real.toFloat : Real → Float
  | .notANumber _ => 0.0 / 0.0
  | .infinite isNegative => if isNegative then -1.0 / 0.0 else 1.0 / 0.0
  | .finite isNegative significand exponent =>
      let magnitude := (Float.ofNat significand).scaleB exponent
      if isNegative then -magnitude else magnitude

end HingeField.Shell

namespace HingeField.Shell.Records

inductive Datum where
  | unset
  | number (value : Float)
  | text (octets : String)
  /-- A text that may stand for a number. -/
  | input (octets : String)

def Datum.ofNat (value : Nat) : Datum :=
  .number (Float.ofNat value)

def Datum.ofBool (holds : Bool) : Datum :=
  .number (if holds then 1.0 else 0.0)

/-! ### Numbers -/

/-- The number a text starts with; zero if there is none. -/
def leadingNumber (octets : String) : Float :=
  match readReal? .double octets.toList with
  | some reading => reading.value.toFloat
  | none => 0.0

/-- The number a text is, up to blanks around it. -/
def wholeNumber? (octets : String) : Option Float :=
  let inside := octets.toList.dropWhile isSpace
  let unsigned :=
    match inside with
    | '-' :: rest | '+' :: rest => rest
    | rest => rest
  if unsigned.head?.any fun c => c.isDigit || c == '.' then
    match readReal? .double inside with
    | some reading => if reading.rest.all isSpace then some reading.value.toFloat else none
    | none => none
  else none

/-- The number that a datum is; none for what is to be taken as a text. -/
def Datum.figure? : Datum → Option Float
  | .unset => some 0.0
  | .number value => some value
  | .text _ => none
  | .input octets => wholeNumber? octets

def Datum.toFloat : Datum → Float
  | .unset => 0.0
  | .number value => value
  | .text octets | .input octets => leadingNumber octets

def Datum.isTrue : Datum → Bool
  | .unset => false
  | .number value => value != 0.0
  | .text octets => !octets.isEmpty
  | .input octets =>
      match wholeNumber? octets with
      | some value => value != 0.0
      | none => !octets.isEmpty

/-- A double without the part behind its point; none if it is not finite. -/
def truncated? (value : Float) : Option Int :=
  match Real.ofFloat value with
  | .finite isNegative significand exponent =>
      let quotient := quotientOf isNegative significand exponent
      let whole : Int := ((quotient.numerator / quotient.denominator : Nat) : Int)
      some (if isNegative then -whole else whole)
  | _ => none

/-- The double next to a whole number. -/
def floatOfInt (value : Int) : Float :=
  if value < 0 then -(Float.ofNat value.natAbs) else Float.ofNat value.natAbs

/-- The greatest whole number that is written without an exponent. -/
def greatestWhole : Int := 0xffffffffffffffff

/-- The digits of a number without a part behind its point, unless it is too large. -/
def wholeText? (value : Float) : Option String :=
  match truncated? value with
  | none => none
  | some whole =>
      if floatOfInt whole != value || whole < minimalInteger || greatestWhole + 1 < whole then none
      else some (toString (min whole greatestWhole))

/-- A whole number from a double, within the bounds of integers with a sign below zero and of ones
without above. -/
def boundedWhole (value : Float) : Int :=
  match truncated? value with
  | some whole => max (-maximalInteger) (min whole greatestWhole)
  | none =>
      if value.isNaN then minimalInteger
      else if value < 0.0 then -maximalInteger
      else greatestWhole

/-- A number without the part behind its point. -/
def integralPart (value : Float) : Float :=
  if value < 0.0 then value.ceil else value.floor

/-- What is left of a number when another one has been taken from it as often as it fits; the sign
is that of the first. -/
def remainderOf (first second : Float) : Float :=
  match Real.ofFloat first, Real.ofFloat second with
  | .finite isNegative significand exponent, .finite _ divisor divisorExponent =>
      let least := min exponent divisorExponent
      let scaled := fun (significand : Nat) (exponent : Int) =>
        significand * Nat.pow 2 (exponent - least).toNat
      if divisor = 0 then 0.0 / 0.0
      else
        let rest := scaled significand exponent % scaled divisor divisorExponent
        (RealPrecision.double.round (quotientOf isNegative rest least)).1.toFloat
  | .finite .., .infinite _ => first
  | _, _ => 0.0 / 0.0

end HingeField.Shell.Records
