import HingeField.Fault

/-!
Joint assignments of category codes, enumerated by a mixed-radix counter whose
first digit runs fastest. The assignment at an index can also be computed
directly. Over no variables there is one assignment, the empty one.
-/

namespace HingeField.Assignment

/-- The product of the cardinalities. -/
def count (cardinalities : List Int) : Int :=
  cardinalities.foldl (· * ·) 1

/-- The assignment before the first step. -/
def first (cardinalities : List Int) : List Nat :=
  cardinalities.map fun _ => 0

/-- One step of the counter: the first digit goes up, and one that reaches its cardinality starts
again and carries over to the next. -/
def next : List Int → List Nat → List Nat
  | cardinality :: cardinalities, digit :: digits =>
      if ((digit + 1 : Nat) : Int) = cardinality then 0 :: next cardinalities digits
      else (digit + 1) :: digits
  | _, digits => digits

theorem length_next (cardinalities : List Int) (digits : List Nat) :
    (next cardinalities digits).length = digits.length := by
  induction digits generalizing cardinalities with
  | nil => cases cardinalities <;> rfl
  | cons digit digits ih =>
      cases cardinalities with
      | nil => rfl
      | cons cardinality cardinalities =>
          unfold next
          split
          · rw [List.length_cons, List.length_cons, ih]
          · rfl

/-- A given number of assignments, starting from one of them. -/
def run (cardinalities : List Int) : Nat → List Nat → List (List Nat)
  | 0, _ => []
  | steps + 1, digits => digits :: run cardinalities steps (next cardinalities digits)

theorem length_run (cardinalities : List Int) (steps : Nat) (digits : List Nat) :
    (run cardinalities steps digits).length = steps := by
  induction steps generalizing digits with
  | zero => rfl
  | succ steps ih => rw [run, List.length_cons, ih]

/-- All assignments in order. -/
def all (cardinalities : List Int) : List (List Nat) :=
  run cardinalities (count cardinalities).toNat (first cardinalities)

/-- The first assignments, at most as many as asked for. -/
def upTo (limit : Nat) (cardinalities : List Int) : List (List Nat) :=
  run cardinalities (min limit (count cardinalities).toNat) (first cardinalities)

/-- The digits of an index, the first cardinality counting units. -/
def digitsOf : List Int → Int → List Int
  | [], _ => []
  | cardinality :: cardinalities, index =>
      Int.fmod index cardinality :: digitsOf cardinalities (Int.fdiv index cardinality)

/-- The assignment at an index of the enumeration. -/
def atIndex (index : Int) (cardinalities : List Int) : Except Fault (List Int) :=
  if 0 ≤ index ∧ index < count cardinalities then .ok (digitsOf cardinalities index)
  else .error (.entryOutOfRange index cardinalities)

end HingeField.Assignment
