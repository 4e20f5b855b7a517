import HingeField.Proofs.Encoding
import HingeField.Proofs.ExactSums
import HingeField.Proofs.OwnScores
import HingeField.Proofs.UnitInterval

/-!
Which entries of a table a factor may have. A log-potential is at most zero and
a potential lies in the unit interval, unless one of the weight and the distance
is zero and the other infinite, where both are undefined. Main statement: this
holds of every entry of the table of a clause or of a linear rule.
-/

namespace HingeField

open Doubles Float.Model Float.Model.UnpackedFloat

section Products

/-- One factor is zero and the other infinite. -/
def IsUndefinedProduct (x y : Float) : Prop :=
  x.isInf = true ∧ (y == 0.0) = true ∨ (x == 0.0) = true ∧ y.isInf = true

theorem isInf_iff {x : Float} :
    x.isInf = true ↔ ∃ sign, x.toModel.unpack = .infinity sign := by
  change x.toModel.unpack.isInf = true ↔ _
  cases x.toModel.unpack with
  | infinity sign => exact iff_of_true rfl ⟨sign, rfl⟩
  | _ => exact iff_of_false Bool.false_ne_true nofun

theorem nonnegative_cases {x : Float} (nonnegative : 0.0 ≤ x) :
    x.toModel.unpack = .infinity .positive ∨ IsFinite x ∧ 0 ≤ exactValue x := by
  rcases unpack_cases x with undefined | ⟨sign, infinite⟩ | finite
  · rw [le_iff_compare, undefined] at nonnegative
    cases nonnegative
  · cases sign with
    | negative =>
        rw [le_iff_compare, infinite] at nonnegative
        cases nonnegative
    | positive => exact Or.inl infinite
  · rw [le_iff isFinite_zero finite, exactValue_zero] at nonnegative
    exact Or.inr ⟨finite, nonnegative⟩

/-- Packing may overflow, but it does not turn the sign. -/
theorem nonnegative_pack {unpacked : UnpackedFloat} (tidy : IsTidy unpacked)
    (nonnegative : 0 ≤ unpackedValue unpacked) :
    ((UnpackedFloat.zero .positive).compare (Float.Model.pack unpacked).unpack).any (·.isLE) =
      true := by
  cases unpacked with
  | notANumber => exact tidy.elim
  | infinity sign => exact tidy.elim
  | zero sign =>
      rw [unpack_pack_zero]
      rfl
  | finite sign significand exponent filled =>
      cases sign with
      | negative =>
          have below : (0 : Rat) < significand * 2 ^ exponent := by positivity
          rw [unpackedValue_negative] at nonnegative
          linarith
      | positive =>
          by_cases inRange : exponent ≤ 971
          · rw [unpack_pack_finite _ filled tidy.bounded tidy.least inRange tidy.normal]
            rfl
          · rw [unpack_pack_large _ filled (by omega)]
            rfl

theorem infinity_mul_cases {x : Float} (finite : IsFinite x) (nonnegative : 0 ≤ exactValue x) :
    (x == 0.0) = true ∧
        UnpackedFloat.mul Format.binary64 (.infinity .positive) x.toModel.unpack = .notANumber ∨
      (x == 0.0) = false ∧
        UnpackedFloat.mul Format.binary64 (.infinity .positive) x.toModel.unpack =
          .infinity .positive := by
  cases unpacked : x.toModel.unpack with
  | notANumber => exact absurd unpacked finite.ne_notANumber
  | infinity sign =>
      unfold IsFinite at finite
      rw [unpacked] at finite
      exact finite.elim
  | zero sign =>
      refine Or.inl ⟨(beq_iff isFinite_zero).mpr ⟨finite, ?_⟩, rfl⟩
      rw [exactValue, unpacked]
      rfl
  | finite sign significand exponent filled =>
      rw [exactValue, unpacked] at nonnegative
      have filledUnit : (0 : Rat) < significand * 2 ^ exponent := by positivity
      cases sign with
      | negative =>
          rw [unpackedValue_negative] at nonnegative
          linarith
      | positive =>
          refine Or.inr ⟨?_, rfl⟩
          rw [Bool.eq_false_iff, Ne, beq_iff isFinite_zero, exactValue_zero, exactValue, unpacked]
          exact fun zero => unpackedValue_finite_ne_zero .positive filled zero.2

theorem mul_infinity_comm (unpacked : UnpackedFloat) (sign : Sign) :
    UnpackedFloat.mul Format.binary64 unpacked (.infinity sign) =
      UnpackedFloat.mul Format.binary64 (.infinity sign) unpacked := by
  have turned (other : Sign) : other * sign = sign * other := by
    cases sign <;> cases other <;> rfl
  cases unpacked with
  | notANumber => rfl
  | zero other => rfl
  | infinity other => exact congrArg UnpackedFloat.infinity (turned other)
  | finite other significand exponent filled => exact congrArg UnpackedFloat.infinity (turned other)

theorem not_isInf_of_isFinite {x : Float} (finite : IsFinite x) : ¬x.isInf = true := by
  rw [isInf_iff]
  rintro ⟨sign, infinite⟩
  unfold IsFinite at finite
  rw [infinite] at finite
  exact finite

theorem ne_zero_of_isInf {x : Float} (infinite : x.isInf = true) : ¬(x == 0.0) = true := by
  rw [beq_iff isFinite_zero]
  rintro ⟨finite, _⟩
  exact not_isInf_of_isFinite finite infinite

theorem not_isUndefinedProduct_self (x : Float) : ¬IsUndefinedProduct x x := by
  rintro (⟨infinite, zero⟩ | ⟨zero, infinite⟩)
  · exact ne_zero_of_isInf infinite zero
  · exact ne_zero_of_isInf infinite zero

/-- The product of two doubles that are not below zero is not either, unless it is undefined. -/
theorem mul_cases {x y : Float} (xNonnegative : 0.0 ≤ x) (yNonnegative : 0.0 ≤ y) :
    IsUndefinedProduct x y ∧ (x * y).toModel.unpack = .notANumber ∨
      ¬IsUndefinedProduct x y ∧ 0.0 ≤ x * y := by
  have product : (x * y).toModel.unpack = (Float.Model.pack
      (UnpackedFloat.mul Format.binary64 x.toModel.unpack y.toModel.unpack)).unpack := rfl
  unfold IsUndefinedProduct
  rw [le_iff_compare, product]
  rcases nonnegative_cases xNonnegative with xInfinite | ⟨xFinite, xValue⟩
  · have unlimited := isInf_iff.mpr ⟨_, xInfinite⟩
    have nonzero := ne_zero_of_isInf unlimited
    rw [xInfinite]
    rcases nonnegative_cases yNonnegative with yInfinite | ⟨yFinite, yValue⟩
    · have otherNonzero := ne_zero_of_isInf (isInf_iff.mpr ⟨_, yInfinite⟩)
      refine Or.inr ⟨by simp [nonzero, otherNonzero], ?_⟩
      rw [yInfinite]
      rfl
    · rcases infinity_mul_cases yFinite yValue with ⟨zero, undefined⟩ | ⟨otherNonzero, infinite⟩
      · refine Or.inl ⟨Or.inl ⟨unlimited, zero⟩, ?_⟩
        rw [undefined, unpack_pack_notANumber]
      · refine Or.inr ⟨by simp [nonzero, otherNonzero], ?_⟩
        rw [infinite, unpack_pack_infinity]
        rfl
  · have limited := not_isInf_of_isFinite xFinite
    rcases nonnegative_cases yNonnegative with yInfinite | ⟨yFinite, yValue⟩
    · have unlimited := isInf_iff.mpr ⟨_, yInfinite⟩
      rw [yInfinite, mul_infinity_comm]
      rcases infinity_mul_cases xFinite xValue with ⟨zero, undefined⟩ | ⟨nonzero, infinite⟩
      · refine Or.inl ⟨Or.inr ⟨zero, unlimited⟩, ?_⟩
        rw [undefined, unpack_pack_notANumber]
      · refine Or.inr ⟨by simp [limited, nonzero], ?_⟩
        rw [infinite, unpack_pack_infinity]
        rfl
    · have otherLimited := not_isInf_of_isFinite yFinite
      have rounds := rounds_mul xFinite yFinite
      have nonnegative := rounds.above 0 isRepresentable_zero (mul_nonneg xValue yValue)
      exact Or.inr ⟨by simp [limited, otherLimited], nonnegative_pack rounds.tidy nonnegative⟩

theorem neg_nonpositive {x y : Float} (turned : y.toModel.unpack = x.toModel.unpack.neg)
    (nonnegative : 0.0 ≤ x) : y ≤ 0.0 := by
  rw [le_iff_compare] at nonnegative ⊢
  rw [turned]
  cases unpacked : x.toModel.unpack with
  | notANumber =>
      rw [unpacked] at nonnegative
      cases nonnegative
  | zero sign => rfl
  | infinity sign =>
      rw [unpacked] at nonnegative
      cases sign with
      | negative => cases nonnegative
      | positive => rfl
  | finite sign significand exponent filled =>
      rw [unpacked] at nonnegative
      cases sign with
      | negative => cases nonnegative
      | positive => rfl

end Products

section Exponentials

theorem lt_or_beq_of_le {x y : Float} (below : x ≤ y) : x < y ∨ (x == y) = true := by
  rw [le_iff_compare] at below
  rw [lt_iff_compare]
  change _ ∨ (x.toModel.unpack.compare y.toModel.unpack == some .eq) = true
  cases compared : x.toModel.unpack.compare y.toModel.unpack with
  | none =>
      rw [compared] at below
      cases below
  | some order =>
      cases order with
      | lt => exact Or.inl rfl
      | eq => exact Or.inr rfl
      | gt =>
          rw [compared] at below
          cases below

protected theorem Doubles.le_of_lt {x y : Float} (below : x < y) : x ≤ y := by
  rw [lt_iff_compare, beq_iff_eq] at below
  rw [le_iff_compare, below]
  rfl

theorem isUnit_clampUnit (x : Float) : IsUnit (clampUnit x) := by
  unfold clampUnit
  split
  · rename_i lower
    split
    · rename_i upper
      exact ⟨lower, upper⟩
    · exact isUnit_one
  · exact isUnit_zero

/-- Below zero the exponential never fails, and stays in the unit interval. -/
theorem exponential_of_nonpositive {x : Float} (nonpositive : x ≤ 0.0) :
    ∃ result, exponential x = .ok result ∧ IsUnit result := by
  have number : ¬x.isNaN = true := by
    rw [isNaN_iff]
    intro undefined
    rw [le_iff_compare, undefined] at nonpositive
    cases nonpositive
  unfold exponential
  rw [if_neg number]
  rcases lt_or_beq_of_le nonpositive with below | zero
  · simp only [if_pos below]
    split
    · exact ⟨0.0, rfl, isUnit_zero⟩
    · split
      · exact ⟨1.0, rfl, isUnit_one⟩
      · split
        · exact ⟨0.0, rfl, isUnit_zero⟩
        · exact ⟨_, rfl, isUnit_clampUnit x.exp⟩
  · have limited : ¬x.isInf = true := fun infinite => ne_zero_of_isInf infinite zero
    rw [if_neg limited, if_pos zero]
    exact ⟨1.0, rfl, isUnit_one⟩

theorem exponential_of_undefined {x : Float} (undefined : x.isNaN = true) :
    exponential x = .ok x := by
  unfold exponential
  rw [if_pos undefined]

end Exponentials

namespace Rule

variable {rule : Rule Float} {arena : Arena Float}

theorem positivePart_nonnegative (x : Float) : 0.0 ≤ Scalar.positivePart x := by
  unfold Scalar.positivePart
  split
  · rename_i above
    exact Doubles.le_of_lt (of_decide_eq_true above)
  · decide

theorem square_nonnegative {x : Float} (nonnegative : 0.0 ≤ x) : 0.0 ≤ Scalar.square x := by
  change 0.0 ≤ squareByPower x
  unfold squareByPower
  dsimp only
  split
  · assumption
  · rcases mul_cases nonnegative nonnegative with ⟨undefined, _⟩ | ⟨_, product⟩
    · exact absurd undefined (not_isUndefinedProduct_self x)
    · exact product

theorem measured_nonnegative {squared hasAtoms : Bool} {x distance : Float}
    (measured : (if squared then square hasAtoms (Scalar.positivePart x)
      else Except.ok (Scalar.positivePart x)) = .ok distance) : 0.0 ≤ distance := by
  have part := positivePart_nonnegative x
  split at measured
  · unfold square at measured
    dsimp only at measured
    split at measured
    · cases measured
    · cases measured
      exact square_nonnegative part
  · cases measured
    exact part

/-- The distance of a built-in rule is never below zero, and never undefined. -/
theorem IsBuiltIn.incompatibility_nonnegative (isBuiltIn : rule.IsBuiltIn) {distance : Float}
    (measured : rule.incompatibility arena = .ok distance) : 0.0 ≤ distance := by
  unfold incompatibility at measured
  cases form : rule.body with
  | clause literals squared =>
      simp only [form] at measured
      cases read : literals.mapM (literalTruth arena) with
      | error fault =>
          rw [read] at measured
          cases measured
      | ok truths =>
          rw [read] at measured
          exact measured_nonnegative measured
  | linear terms bound squared =>
      simp only [form] at measured
      cases read : terms.mapM (termValue arena) with
      | error fault =>
          rw [read] at measured
          cases measured
      | ok summands =>
          rw [read] at measured
          exact measured_nonnegative measured
  | custom custom => exact absurd form (isBuiltIn custom)

/-- A weight that is accepted is zero or more, infinity included. -/
theorem weight_nonnegative {body : RuleBody Float} {weight : Float} {name : Option String}
    (created : create body weight name = .ok rule) :
    0.0 ≤ rule.weight ∧ rule.weight = weight ∧ rule.body = body := by
  unfold create at created
  split at created
  · cases created
  · rename_i accepted
    cases created
    obtain ⟨notBelow, number⟩ := not_or.mp accepted
    rw [isNaN_iff] at number
    obtain ⟨order, compared⟩ := exists_compare number isFinite_zero
    exact ⟨(not_lt_iff compared).1.mp notBelow, rfl, rfl⟩

/-- An exponent with its potential is one that a factor may have, unless the product of the weight
and the distance is undefined, and then both are undefined too. -/
theorem exponent_cases (weighted : 0.0 ≤ rule.weight) {distance : Float}
    (nonnegative : 0.0 ≤ distance) :
    IsUndefinedProduct rule.weight distance ∧ (-rule.weight * distance).isNaN = true ∧
        exponential (-rule.weight * distance) = .ok (-rule.weight * distance) ∨
      ¬IsUndefinedProduct rule.weight distance ∧ -rule.weight * distance ≤ 0.0 ∧
        ∃ potential, exponential (-rule.weight * distance) = .ok potential ∧ IsUnit potential := by
  have turned := unpack_neg_mul rule.weight distance
  rcases mul_cases weighted nonnegative with ⟨undefined, noNumber⟩ | ⟨defined, product⟩
  · have isUndefined : (-rule.weight * distance).isNaN = true := by
      rw [isNaN_iff, turned, noNumber]
      rfl
    exact Or.inl ⟨undefined, isUndefined, exponential_of_undefined isUndefined⟩
  · have nonpositive := neg_nonpositive turned product
    exact Or.inr ⟨defined, nonpositive, exponential_of_nonpositive nonpositive⟩

end Rule

namespace Model

variable {model : Model Float} {rule : Rule Float}

theorem entry_eq_ok {scope digits : List Nat} {exponent potential : Float}
    (evaluated : model.entry rule scope digits = .ok (exponent, potential)) :
    ∃ distance,
      rule.incompatibility
        (model.settled (Choice.assigned (scope.zip (digits.map Int.ofNat)))) = .ok distance ∧
      exponent = -rule.weight * distance ∧ exponential exponent = .ok potential := by
  unfold entry at evaluated
  dsimp only at evaluated
  cases raised : rule.logPotential
      (model.settled (Choice.assigned (scope.zip (digits.map Int.ofNat)))) with
  | error fault =>
      rw [raised] at evaluated
      cases evaluated
  | ok value =>
      rw [raised, Effect.ok_bind] at evaluated
      cases computed : exponential value with
      | error fault =>
          rw [computed] at evaluated
          cases evaluated
      | ok result =>
          rw [computed] at evaluated
          cases evaluated
          obtain ⟨distance, measured, same⟩ := Rule.logPotential_eq_ok_iff.mp raised
          exact ⟨distance, measured, same, computed⟩

/-- Every entry in the table of a built-in rule is one that a factor may have, unless the product of
the weight and the distance in its state is undefined, and then it is undefined too. -/
theorem entries_legal_or_undefined (keepsJournal : Bool) (operations : List Operation)
    {body : RuleBody Float} {weight : Float} {name : Option String} {rule : Rule Float}
    (created : Rule.create body weight name = .ok rule) (isBuiltIn : rule.IsBuiltIn)
    {table : PotentialTable} {finish : Model Float} :
    let model := ((Session.start keepsJournal).after operations).model
    buildTable rule model = .ok table finish →
      table.logPotentials.length = (Assignment.all table.cardinalities).length ∧
      table.potentials.length = (Assignment.all table.cardinalities).length ∧
      ∀ (place : Nat) (digits : List Nat),
        (Assignment.all table.cardinalities)[place]? = some digits →
        ∃ distance exponent potential,
          rule.incompatibility (model.settled
            (Choice.assigned (table.scope.zip (digits.map Int.ofNat)))) = .ok distance ∧
          table.logPotentials[place]? = some exponent ∧
          table.potentials[place]? = some potential ∧
          (IsUndefinedProduct weight distance ∧ exponent.isNaN = true ∧ potential.isNaN = true ∨
            ¬IsUndefinedProduct weight distance ∧ exponent ≤ 0.0 ∧
              0.0 ≤ potential ∧ potential ≤ 1.0) := by
  intro model success
  have laidOut : model.LaidOut := laidOut_after keepsJournal operations
  rw [laidOut.buildTable_eq] at success
  obtain ⟨built, _⟩ := Effect.ofExcept_eq_ok_iff.mp success
  obtain ⟨_, entries, _, _, _, evaluated, exponents, potentials⟩ := table_eq_ok built
  have count := length_of_mapM evaluated
  obtain ⟨weighted, rfl, _⟩ := Rule.weight_nonnegative created
  refine ⟨by rw [exponents, List.length_map, count], by rw [potentials, List.length_map, count], ?_⟩
  intro place digits listed
  obtain ⟨⟨exponent, potential⟩, stands, computed⟩ := getElem?_of_mapM evaluated listed
  obtain ⟨distance, measured, rfl, raised⟩ := entry_eq_ok computed
  refine ⟨distance, _, potential, measured, by rw [exponents, List.getElem?_map, stands]; rfl,
    by rw [potentials, List.getElem?_map, stands]; rfl, ?_⟩
  rcases Rule.exponent_cases weighted (isBuiltIn.incompatibility_nonnegative measured) with
    ⟨undefined, noExponent, same⟩ | ⟨defined, nonpositive, result, same, unit⟩
  · cases raised.symm.trans same
    exact Or.inl ⟨undefined, noExponent, noExponent⟩
  · cases raised.symm.trans same
    exact Or.inr ⟨defined, nonpositive, unit⟩

theorem entries_legal_or_undefined_switch :
    let model := ((Session.start true).after [.addBlock 2 true none, .addRule switchRule]).model
    Rule.create (.clause [⟨0, true⟩] false) 800.0 (some "first") = .ok switchRule ∧
      switchRule.IsBuiltIn ∧
      buildTable switchRule model = .ok ⟨[0], [2], [-0.0, -800.0], [1.0, 0.0]⟩ model ∧
      ∃ distance, switchRule.incompatibility
          (model.settled (Choice.assigned [(0, 1)])) = .ok distance ∧
        ¬IsUndefinedProduct 800.0 distance := by
  intro model
  have isBuiltIn : switchRule.IsBuiltIn := nofun
  have created : Rule.create (.clause [⟨0, true⟩] false) 800.0 (some "first") = .ok switchRule :=
    rfl
  have built : buildTable switchRule model = .ok ⟨[0], [2], [-0.0, -800.0], [1.0, 0.0]⟩ model :=
    buildTable_switchRule
  obtain ⟨_, _, legal⟩ := entries_legal_or_undefined true
    [.addBlock 2 true none, .addRule switchRule] created isBuiltIn built
  have listed : (Assignment.all [2])[1]? = some [1] := rfl
  obtain ⟨distance, exponent, _, measured, stands, _, cases⟩ := legal 1 [1] listed
  refine ⟨created, isBuiltIn, built, distance, measured, ?_⟩
  rcases cases with ⟨_, noExponent, _⟩ | ⟨defined, _⟩
  · cases stands
    exact absurd noExponent (by decide)
  · exact defined

/-- A clause of infinite weight that is satisfied in the model below. -/
def certainRule : Rule Float :=
  { weight := 1.0 / 0.0, name := "certain", body := .clause [⟨0, true⟩] false }

/-- One free variable that is true. -/
def certainModel : Model Float :=
  ({} : Model Float).grow [1.0] none

theorem buildTable_certainRule :
    buildTable certainRule certainModel =
      .ok ⟨[], [], [undefined], [undefined]⟩ certainModel := by
  have laidOut : certainModel.LaidOut := laidOut_empty.grow_free [1.0]
  have found : certainModel.scopeOf certainRule = .ok [] :=
    scopeOf_eq_ok_iff.mpr ⟨[none], rfl, List.mergeSort_nil⟩
  rw [laidOut.buildTable_eq]
  unfold table
  rw [found]
  rfl

/-- An infinite weight is accepted, and a clause that has it has no potential where it is
satisfied. -/
theorem infinite_weight_undefines_potential :
    let model := ((Session.start true).after [.addVariable 1.0]).model
    Rule.create (.clause [⟨0, true⟩] false) (1.0 / 0.0) (some "certain") = .ok certainRule ∧
      (∀ value ∈ model.values, IsUnit value) ∧
      ∃ table exponent potential, buildTable certainRule model = .ok table model ∧
        table.logPotentials = [exponent] ∧ table.potentials = [potential] ∧
        exponent.isNaN = true ∧ potential.isNaN = true ∧
        ¬exponent ≤ 0.0 ∧ ¬(0.0 ≤ potential ∧ potential ≤ 1.0) := by
  intro model
  refine ⟨rfl, ?_, ⟨[], [], [undefined], [undefined]⟩, undefined, undefined,
    buildTable_certainRule, rfl, rfl, ?_⟩
  · intro value member
    rw [List.mem_singleton.mp member]
    exact isUnit_one
  · decide +kernel

end Model

end HingeField
