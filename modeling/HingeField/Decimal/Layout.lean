import HingeField.Decimal.Shortest

/-!
How decimals are laid out as text: where positional notation ends, what an
exponent looks like, and the names of the values that have no digits.
-/

namespace HingeField.Decimal

/-- The choices of a layout. The decimal exponent is that of the first digit. -/
structure Layout where
  leastPositional : Int
  positionalBelow : Int
  wholeSuffix : String
  exponentMark : String
  exponentWidth : Nat
  notANumber : String
  infinity : String

/-- Drops trailing zeros; zero keeps one digit. -/
def significantChars (value : Nat) : List Char :=
  let digits := Nat.toDigits 10 value
  let kept := (digits.reverse.dropWhile (· == '0')).reverse
  if kept.isEmpty then ['0'] else kept

/-- An exponent with its sign, padded with zeros to the layout's width. -/
def Layout.exponentText (layout : Layout) (exponent : Int) : String :=
  let digits := Nat.toDigits 10 exponent.natAbs
  let padding := List.replicate (layout.exponentWidth - digits.length) '0'
  layout.exponentMark ++ (if exponent < 0 then "-" else "+") ++ String.ofList (padding ++ digits)

/-- Lays out digits whose point stands `point` places after the first one's left edge. -/
def Layout.magnitudeText (layout : Layout) (digits : List Char) (point : Int) : String :=
  if layout.leastPositional < point ∧ point ≤ layout.positionalBelow then
    if point ≤ 0 then
      "0." ++ String.ofList (List.replicate (-point).toNat '0' ++ digits)
    else if digits.length ≤ point.toNat then
      String.ofList (digits ++ List.replicate (point.toNat - digits.length) '0') ++
        layout.wholeSuffix
    else
      String.ofList (digits.take point.toNat) ++ "." ++ String.ofList (digits.drop point.toNat)
  else
    let fraction := digits.drop 1
    String.ofList (digits.take 1) ++
      (if fraction.isEmpty then "" else "." ++ String.ofList fraction) ++
      layout.exponentText (point - 1)

def Layout.text (layout : Layout) : Reading → String
  | .notANumber => layout.notANumber
  | .infinite negative => (if negative then "-" else "") ++ layout.infinity
  | .finite negative significand exponent =>
      let sign := if negative then "-" else ""
      if significand = 0 then sign ++ "0" ++ layout.wholeSuffix
      else
        let decimal := shortest significand exponent
        let point := (Nat.toDigits 10 decimal.value).length + decimal.exponent
        sign ++ layout.magnitudeText (significantChars decimal.value) point

/-- Numbers are positional from 0.0001 up to 10 ^ 16, whole ones end in `.0`, and an exponent has
a sign and at least two digits. -/
def networkLayout : Layout :=
  { leastPositional := -4
    positionalBelow := 16
    wholeSuffix := ".0"
    exponentMark := "e"
    exponentWidth := 2
    notANumber := "nan"
    infinity := "inf" }

/-- The shortest text that reads back as a double. -/
def realText (x : Float) : String :=
  networkLayout.text (Reading.ofFloat x)

end HingeField.Decimal
