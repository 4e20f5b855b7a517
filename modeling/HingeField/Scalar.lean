/-!
Truth values and weights. The rules and the rounding passes are written for
any type with the arithmetic below, so that they run on doubles and can be
reasoned about over the rationals, where arithmetic is exact.

A double is squared by the power function of the machine, whose last bit may
differ from that of the product.

Comparisons are Boolean: on doubles each of them is false as soon as one side
is not a number, so none can be defined from another.
-/

namespace HingeField

/-- The exponent of a square, as a double. -/
def squareExponent : Float := Float.ofNat 2

/-- The square that the power function gives. A result below zero would not be one, and the product
would stand in for it. -/
def squareByPower (x : Float) : Float :=
  let power := x.pow squareExponent
  if 0.0 ≤ power then power else x * x

class Scalar (α : Type) extends Add α, Sub α, Mul α, Neg α where
  zero : α
  one : α
  half : α
  quarter : α
  square : α → α
  less : α → α → Bool
  atMost : α → α → Bool
  equal : α → α → Bool
  isFinite : α → Bool

instance : Scalar Float where
  zero := 0.0
  one := 1.0
  half := 0.5
  quarter := 0.25
  square := squareByPower
  less x y := x < y
  atMost x y := x ≤ y
  equal x y := x == y
  isFinite x := x.isFinite

instance : Scalar Rat where
  zero := 0
  one := 1
  half := 1 / 2
  quarter := 1 / 4
  square x := x * x
  less x y := x < y
  atMost x y := x ≤ y
  equal x y := x == y
  isFinite _ := true

namespace Scalar

variable {α : Type} [Scalar α]

/-- The positive part; a value that is not a number has none. -/
def positivePart (x : α) : α :=
  if less zero x then x else zero

/-- The nearest of 0 and 1; one half goes up. -/
def nearest (x : α) : α :=
  if atMost half x then one else zero

/-- Moves a value of the unit interval halfway toward the middle. -/
def softened (x : α) : α :=
  quarter + half * x

def sum (xs : List α) : α :=
  xs.foldl (· + ·) zero

end Scalar

end HingeField
