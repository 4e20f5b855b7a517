import HingeField.Fault

/-!
The exponential of a double, with overflow as a fault.

The cases that need no approximation are answered here: not a number, the
infinities, zero, and arguments so far out that every double result is zero or
none is finite. For the rest the exponential function of the machine is used,
held inside the unit interval for arguments below zero.
-/

namespace HingeField

/-- At and beyond this argument no double holds the exponential. -/
def exponentialCeiling : Float := 710.0

/-- At and below this argument the exponential rounds to zero. -/
def exponentialFloor : Float := -746.0

/-- Brings a double into the unit interval. -/
def clampUnit (x : Float) : Float :=
  if 0.0 ≤ x then (if x ≤ 1.0 then x else 1.0) else 0.0

def exponential (x : Float) : Except Fault Float :=
  if x.isNaN then .ok x
  else if x.isInf then .ok (if x < 0.0 then 0.0 else x)
  else if x == 0.0 then .ok 1.0
  else if x ≤ exponentialFloor then .ok 0.0
  else if x < 0.0 then .ok (clampUnit x.exp)
  else if exponentialCeiling ≤ x then .error .exponentialOverflow
  else
    let result := x.exp
    if result.isInf then .error .exponentialOverflow else .ok result

end HingeField
