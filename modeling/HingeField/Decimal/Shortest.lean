/-!
The shortest decimal that reads back as a given double.

A double is taken apart into a significand and a power of two. The reals that
round to it form an interval around it, whose ends belong to it exactly when
the significand is even. On the grid of decimals with a given number of digits
only the two neighbours of the double can be its closest decimals; the first
grid with a neighbour inside the interval gives the answer.
-/

namespace HingeField.Decimal

/-- What a double is. A finite one is `significand · 2 ^ exponent` up to its sign. -/
inductive Reading where
  | notANumber
  | infinite (negative : Bool)
  | finite (negative : Bool) (significand : Nat) (exponent : Int)
deriving DecidableEq

/-- The significand of the smallest normal double in each binade. -/
def leastNormal : Nat := 0x10000000000000

/-- The exponent of the least significant bit of the smallest doubles. -/
def leastExponent : Int := -1074

def Reading.ofBits (bits : UInt64) : Reading :=
  let negative := bits.toNat / 0x8000000000000000 == 1
  let biased : Nat := bits.toNat / 0x10000000000000 % 2048
  let fraction := bits.toNat % 0x10000000000000
  if biased = 2047 then
    if fraction = 0 then .infinite negative else .notANumber
  else if biased = 0 then .finite negative fraction leastExponent
  else .finite negative (leastNormal + fraction) (biased - 1 + leastExponent)

def Reading.ofFloat (x : Float) : Reading :=
  Reading.ofBits x.toBits

/-- The integer part of a finite double, toward zero; `none` for the others. -/
def Reading.truncated : Reading → Option Int
  | .finite negative significand exponent =>
      let magnitude :=
        if 0 ≤ exponent then significand * Nat.pow 2 exponent.toNat
        else significand / Nat.pow 2 (-exponent).toNat
      some (if negative then -(magnitude : Int) else magnitude)
  | _ => none

/-- The decimal `value · 10 ^ exponent`. -/
structure Digits where
  value : Nat
  exponent : Int
deriving DecidableEq

/-- The reals that round to a positive double, as numerators over one denominator. -/
structure RoundingInterval where
  low : Nat
  mid : Nat
  high : Nat
  denominator : Nat
  closed : Bool

/-- Quarter units make both half gaps whole; the gap below a power of two is half as wide. -/
def RoundingInterval.around (significand : Nat) (exponent : Int) : RoundingInterval :=
  let scale := Nat.pow 2 (exponent - 2).toNat
  let below := if significand = leastNormal ∧ leastExponent < exponent then 1 else 2
  { low := (4 * significand - below) * scale
    mid := 4 * significand * scale
    high := (4 * significand + 2) * scale
    denominator := Nat.pow 2 (2 - exponent).toNat
    closed := significand % 2 == 0 }

/-- The closest decimal `n · 10 ^ exponent` inside the interval, if a neighbour of the double is. -/
def RoundingInterval.onGrid (interval : RoundingInterval) (exponent : Int) : Option Nat :=
  let factor := Nat.pow 10 (-exponent).toNat
  let unit := interval.denominator * Nat.pow 10 exponent.toNat
  let below := interval.mid * factor / unit
  let rest := interval.mid * factor % unit
  let inside := fun n : Nat =>
    if interval.closed then
      interval.low * factor ≤ n * unit && n * unit ≤ interval.high * factor
    else interval.low * factor < n * unit && n * unit < interval.high * factor
  match inside below, inside (below + 1) with
  | true, true =>
      if 2 * rest < unit ∨ (2 * rest = unit ∧ below % 2 = 0) then some below
      else some (below + 1)
  | true, false => some below
  | false, true => some (below + 1)
  | false, false => none

/-- The `p` with `10 ^ (p - 1) ≤ mid / denominator < 10 ^ p`. -/
def RoundingInterval.magnitude (interval : RoundingInterval) : Int :=
  if interval.denominator ≤ interval.mid then
    (Nat.toDigits 10 (interval.mid / interval.denominator)).length
  else
    let shift := (List.range 330).find? fun s =>
      interval.denominator ≤ interval.mid * Nat.pow 10 s
    1 - (shift.getD 330 : Int)

/-- Seventeen digits always suffice, so the search ends within that many grids. -/
def shortest (significand : Nat) (exponent : Int) : Digits :=
  let interval := RoundingInterval.around significand exponent
  let magnitude := interval.magnitude
  let found := (List.range 17).findSome? fun (count : Nat) =>
    let grid := magnitude - 1 - count
    (interval.onGrid grid).map fun n => Digits.mk n grid
  found.getD ⟨significand, exponent⟩

end HingeField.Decimal
