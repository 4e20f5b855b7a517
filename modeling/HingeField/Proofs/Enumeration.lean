import HingeField.Assignment
import Mathlib

/-!
The enumeration of joint assignments as a numbering. The index of an
assignment is the sum of its digits, each times its place value; dividing an
index by the cardinalities, one after the other, undoes the sum. Main
statements: the assignment with an index stands at that place of the
enumeration, for every list of positive cardinalities; the counter and the
division number the assignments alike, and every assignment has exactly one
number.
-/

namespace HingeField.Assignment

/-- One digit for each cardinality, and below it. -/
def IsAssignment : List Int → List Nat → Prop
  | [], [] => True
  | cardinality :: cardinalities, digit :: digits =>
      (digit : Int) < cardinality ∧ IsAssignment cardinalities digits
  | _, _ => False

/-- A digit counts as often as there are assignments of the places before it. -/
def indexOf (cardinalities : List Int) (digits : List Nat) : Int :=
  (digits.zipIdx.map fun (digit, place) => digit * count (cardinalities.take place)).sum

theorem count_cons (cardinality : Int) (cardinalities : List Int) :
    count (cardinality :: cardinalities) = cardinality * count cardinalities := by
  have scaled (factor : Int) (factors : List Int) :
      factors.foldl (· * ·) factor = factor * factors.foldl (· * ·) 1 := by
    induction factors generalizing factor with
    | nil => exact (Int.mul_one factor).symm
    | cons next factors ih =>
        rw [List.foldl_cons, List.foldl_cons, ih, ih (1 * next), Int.one_mul, Int.mul_assoc]
  unfold count
  rw [List.foldl_cons, scaled, Int.one_mul]

theorem indexOf_cons (cardinality : Int) (cardinalities : List Int) (digit : Nat)
    (digits : List Nat) :
    indexOf (cardinality :: cardinalities) (digit :: digits) =
      digit + cardinality * indexOf cardinalities digits := by
  have shifted (place : Nat) :
      ((digits.zipIdx (place + 1)).map fun (digit, place) =>
        (digit : Int) * count ((cardinality :: cardinalities).take place)).sum =
      cardinality * ((digits.zipIdx place).map fun (digit, place) =>
        (digit : Int) * count (cardinalities.take place)).sum := by
    induction digits generalizing place with
    | nil => exact (Int.mul_zero cardinality).symm
    | cons next digits ih =>
        simp only [List.zipIdx_cons, List.map_cons, List.sum_cons, ih, List.take_succ_cons,
          count_cons, Int.mul_add]
        rw [Int.mul_left_comm]
  unfold indexOf
  rw [List.zipIdx_cons, List.map_cons, List.sum_cons, shifted]
  change (digit : Int) * 1 + _ = _
  rw [Int.mul_one]

theorem IsAssignment.length_eq {cardinalities : List Int} {digits : List Nat}
    (valid : IsAssignment cardinalities digits) : digits.length = cardinalities.length := by
  induction cardinalities generalizing digits with
  | nil =>
      cases digits with
      | nil => rfl
      | cons digit digits => cases valid
  | cons cardinality cardinalities ih =>
      cases digits with
      | nil => cases valid
      | cons digit digits => rw [List.length_cons, List.length_cons, ih valid.2]

/-- An assignment place by place. -/
theorem isAssignment_iff {cardinalities : List Int} {digits : List Nat} :
    IsAssignment cardinalities digits ↔
      digits.length = cardinalities.length ∧
        ∀ (place : Nat) (cardinality : Int) (digit : Nat),
          cardinalities[place]? = some cardinality → digits[place]? = some digit →
          digit < cardinality := by
  constructor
  · intro valid
    refine ⟨valid.length_eq, ?_⟩
    induction cardinalities generalizing digits with
    | nil =>
        intro place cardinality digit listed
        cases listed
    | cons head cardinalities ih =>
        cases digits with
        | nil => cases valid
        | cons first digits =>
            intro place cardinality digit listed stands
            cases place with
            | zero =>
                cases listed
                cases stands
                exact valid.1
            | succ place => exact ih valid.2 place cardinality digit listed stands
  · rintro ⟨sameLength, below⟩
    induction cardinalities generalizing digits with
    | nil =>
        cases digits with
        | nil => trivial
        | cons digit digits => cases sameLength
    | cons head cardinalities ih =>
        cases digits with
        | nil => cases sameLength
        | cons first digits =>
            refine ⟨below 0 head first rfl rfl, ih (Nat.succ.inj sameLength) ?_⟩
            intro place cardinality digit listed stands
            exact below (place + 1) cardinality digit listed stands

theorem IsAssignment.index_bounds {cardinalities : List Int} {digits : List Nat}
    (valid : IsAssignment cardinalities digits) :
    0 ≤ indexOf cardinalities digits ∧ indexOf cardinalities digits < count cardinalities := by
  induction cardinalities generalizing digits with
  | nil =>
      cases digits with
      | nil => exact ⟨Int.le_refl 0, Int.one_pos⟩
      | cons digit digits => cases valid
  | cons cardinality cardinalities ih =>
      cases digits with
      | nil => cases valid
      | cons digit digits =>
          obtain ⟨below, rest⟩ := valid
          obtain ⟨lower, upper⟩ := ih rest
          rw [indexOf_cons, count_cons]
          have scaled : cardinality * (indexOf cardinalities digits + 1) ≤
              cardinality * count cardinalities :=
            Int.mul_le_mul_of_nonneg_left (by omega) (by omega)
          have positive : 0 ≤ cardinality * indexOf cardinalities digits :=
            Int.mul_nonneg (by omega) lower
          rw [Int.mul_add, Int.mul_one] at scaled
          omega

/-- Two assignments with one index are the same. -/
theorem IsAssignment.eq_of_indexOf_eq {cardinalities : List Int} {first second : List Nat}
    (validFirst : IsAssignment cardinalities first)
    (validSecond : IsAssignment cardinalities second)
    (same : indexOf cardinalities first = indexOf cardinalities second) : first = second := by
  induction cardinalities generalizing first second with
  | nil =>
      cases first with
      | nil =>
          cases second with
          | nil => rfl
          | cons digit digits => cases validSecond
      | cons digit digits => cases validFirst
  | cons cardinality cardinalities ih =>
      cases first with
      | nil => cases validFirst
      | cons digit digits =>
          cases second with
          | nil => cases validSecond
          | cons other others =>
              rw [indexOf_cons, indexOf_cons] at same
              have lower := validFirst.1
              have upper := validSecond.1
              have remainders := congrArg (· % cardinality) same
              simp only [Int.add_mul_emod_self_left] at remainders
              rw [Int.emod_eq_of_lt (by omega) lower, Int.emod_eq_of_lt (by omega) upper]
                at remainders
              have quotients : cardinality * indexOf cardinalities digits =
                  cardinality * indexOf cardinalities others := by omega
              rw [Int.natCast_inj.mp remainders, ih validFirst.2 validSecond.2
                (Int.eq_of_mul_eq_mul_left (by omega) quotients)]

/-- A step of the counter leads from an assignment to the one with the next index. -/
theorem IsAssignment.next {cardinalities : List Int} {digits : List Nat}
    (valid : IsAssignment cardinalities digits)
    (before : indexOf cardinalities digits + 1 < count cardinalities) :
    IsAssignment cardinalities (next cardinalities digits) ∧
      indexOf cardinalities (next cardinalities digits) = indexOf cardinalities digits + 1 := by
  induction cardinalities generalizing digits with
  | nil =>
      cases digits with
      | nil => exact absurd before (by decide)
      | cons digit digits => cases valid
  | cons cardinality cardinalities ih =>
      cases digits with
      | nil => cases valid
      | cons digit digits =>
          obtain ⟨below, rest⟩ := valid
          rw [indexOf_cons, count_cons] at before
          unfold Assignment.next
          by_cases carries : ((digit + 1 : Nat) : Int) = cardinality
          · -- the digit starts again, so the places behind it still have room
            have room : cardinality * (indexOf cardinalities digits + 1) <
                cardinality * count cardinalities := by
              rw [Int.mul_add, Int.mul_one]
              omega
            obtain ⟨later, counted⟩ :=
              ih rest (Int.lt_of_mul_lt_mul_left room (by omega))
            rw [if_pos carries]
            refine ⟨⟨by omega, later⟩, ?_⟩
            rw [indexOf_cons, indexOf_cons, counted, Int.mul_add, Int.mul_one]
            omega
          · rw [if_neg carries]
            refine ⟨⟨by omega, rest⟩, ?_⟩
            rw [indexOf_cons, indexOf_cons]
            omega

theorem getElem?_run {cardinalities : List Int} {steps : Nat} {digits : List Nat} {place : Nat}
    (valid : IsAssignment cardinalities digits) (early : place < steps)
    (inside : indexOf cardinalities digits + place < count cardinalities) :
    ∃ later, (run cardinalities steps digits)[place]? = some later ∧
      IsAssignment cardinalities later ∧
      indexOf cardinalities later = indexOf cardinalities digits + place := by
  induction steps generalizing digits place with
  | zero => omega
  | succ steps ih =>
      cases place with
      | zero => exact ⟨digits, rfl, valid, (Int.add_zero _).symm⟩
      | succ place =>
          obtain ⟨validNext, counted⟩ := valid.next (by omega)
          obtain ⟨later, found, validLater, index⟩ :=
            ih validNext (show place < steps by omega) (by omega)
          exact ⟨later, found, validLater, by omega⟩

theorem first_spec {cardinalities : List Int} (positive : ∀ c ∈ cardinalities, 0 < c) :
    IsAssignment cardinalities (first cardinalities) ∧
      indexOf cardinalities (first cardinalities) = 0 := by
  induction cardinalities with
  | nil => exact ⟨trivial, rfl⟩
  | cons cardinality cardinalities ih =>
      obtain ⟨valid, index⟩ := ih fun c member => positive c (List.mem_cons_of_mem _ member)
      refine ⟨⟨positive cardinality List.mem_cons_self, valid⟩, ?_⟩
      change indexOf (cardinality :: cardinalities) (0 :: first cardinalities) = 0
      rw [indexOf_cons, index]
      simp

/-- What stands at a place of the enumeration is the assignment with that index. -/
theorem getElem?_all {cardinalities : List Int} (positive : ∀ c ∈ cardinalities, 0 < c)
    {place : Nat} (inside : place < count cardinalities) :
    ∃ digits, (all cardinalities)[place]? = some digits ∧ IsAssignment cardinalities digits ∧
      indexOf cardinalities digits = place := by
  obtain ⟨valid, index⟩ := first_spec positive
  obtain ⟨digits, found, assigned, counted⟩ :=
    getElem?_run valid (show place < (count cardinalities).toNat by omega) (by omega)
  exact ⟨digits, found, assigned, by omega⟩

/-- An assignment stands at the place of the enumeration that its index names. -/
theorem IsAssignment.getElem?_all {cardinalities : List Int} {digits : List Nat}
    (positive : ∀ c ∈ cardinalities, 0 < c) (valid : IsAssignment cardinalities digits) :
    (all cardinalities)[(indexOf cardinalities digits).toNat]? = some digits := by
  obtain ⟨lower, upper⟩ := valid.index_bounds
  obtain ⟨found, stands, assigned, index⟩ :=
    Assignment.getElem?_all positive
      (show ((indexOf cardinalities digits).toNat : Int) < count cardinalities by omega)
  rw [stands, assigned.eq_of_indexOf_eq valid (by omega)]

theorem isAssignment_of_mem_all {cardinalities : List Int} {digits : List Nat}
    (positive : ∀ c ∈ cardinalities, 0 < c) (member : digits ∈ all cardinalities) :
    IsAssignment cardinalities digits := by
  obtain ⟨place, found⟩ := List.getElem?_of_mem member
  have size := length_run cardinalities (count cardinalities).toNat (first cardinalities)
  have small : place < (all cardinalities).length := (List.getElem?_eq_some_iff.mp found).choose
  obtain ⟨other, stands, assigned, _⟩ := Assignment.getElem?_all positive
    (show (place : Int) < count cardinalities by unfold all at small; omega)
  rw [found] at stands
  cases stands
  exact assigned

variable {cardinalities : List Int} {digits : List Nat}

theorem count_eq_prod (cardinalities : List Int) : count cardinalities = cardinalities.prod := by
  induction cardinalities with
  | nil => rfl
  | cons cardinality cardinalities ih => rw [count_cons, ih, List.prod_cons]

theorem count_pos (positive : ∀ c ∈ cardinalities, 0 < c) : 0 < count cardinalities := by
  rw [count_eq_prod]
  exact List.prod_pos positive

theorem length_all (positive : ∀ c ∈ cardinalities, 0 < c) :
    ((all cardinalities).length : Int) = count cardinalities := by
  have nonnegative := Int.le_of_lt (count_pos positive)
  unfold all
  rw [length_run, Int.toNat_of_nonneg nonnegative]

/-- Dividing the index of an assignment gives its digits back. -/
theorem IsAssignment.digitsOf_indexOf (valid : IsAssignment cardinalities digits) :
    digitsOf cardinalities (indexOf cardinalities digits) = digits.map Int.ofNat := by
  induction cardinalities generalizing digits with
  | nil =>
      cases digits with
      | nil => rfl
      | cons digit digits => cases valid
  | cons cardinality cardinalities ih =>
      cases digits with
      | nil => cases valid
      | cons digit digits =>
          obtain ⟨below, rest⟩ := valid
          have lower : (0 : Int) ≤ digit := Int.natCast_nonneg digit
          have divisor : 0 ≤ cardinality := by omega
          have remainder : Int.fmod (digit + cardinality * indexOf cardinalities digits)
              cardinality = digit := by
            rw [Int.fmod_eq_emod_of_nonneg _ divisor, Int.add_mul_emod_self_left,
              Int.emod_eq_of_lt lower below]
          have quotient : Int.fdiv (digit + cardinality * indexOf cardinalities digits)
              cardinality = indexOf cardinalities digits := by
            rw [Int.fdiv_eq_ediv_of_nonneg _ divisor, Int.add_mul_ediv_left _ _ (by omega),
              Int.ediv_eq_zero_of_lt lower below, Int.zero_add]
          rw [indexOf_cons, digitsOf, remainder, quotient, ih rest]
          rfl

theorem atIndex_eq_ok (valid : IsAssignment cardinalities digits) :
    atIndex (indexOf cardinalities digits) cardinalities = .ok (digits.map Int.ofNat) := by
  unfold atIndex
  rw [if_pos valid.index_bounds, valid.digitsOf_indexOf]

theorem atIndex_eq_error_iff (index : Int) :
    atIndex index cardinalities = .error (.entryOutOfRange index cardinalities) ↔
      index < 0 ∨ count cardinalities ≤ index := by
  unfold atIndex
  by_cases inside : 0 ≤ index ∧ index < count cardinalities
  · rw [if_pos inside]
    exact iff_of_false nofun (by omega)
  · rw [if_neg inside]
    exact iff_of_true rfl (by omega)

/-- An assignment stands at one place of the enumeration only. -/
theorem IsAssignment.getElem?_all_iff (positive : ∀ c ∈ cardinalities, 0 < c)
    (valid : IsAssignment cardinalities digits) (place : Nat) :
    (all cardinalities)[place]? = some digits ↔
      place = (indexOf cardinalities digits).toNat := by
  constructor
  · intro stands
    have small : place < (all cardinalities).length := (List.getElem?_eq_some_iff.mp stands).choose
    obtain ⟨found, listed, _, index⟩ :=
      Assignment.getElem?_all positive (show (place : Int) < count cardinalities by
        rw [← length_all positive]
        exact Int.ofNat_lt.mpr small)
    rw [stands] at listed
    cases listed
    omega
  · rintro rfl
    exact valid.getElem?_all positive

end HingeField.Assignment
