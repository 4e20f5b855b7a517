import HingeField.Proofs.Precision

/-!
The order of doubles. Main statements: finite doubles are ordered by their
exact values, what lies between finite doubles is finite, and the rounded sum
and the rounded product of two doubles lie between the same doubles as the
exact ones.
-/

namespace HingeField.Doubles

open Decimal (IsCanonical leastExponent leastNormal)
open Float.Model
open Float.Model.UnpackedFloat

section Order

/-- A canonical number with a smaller exponent is smaller. -/
theorem lt_of_exponent_lt {significand otherSignificand : Nat} {exponent otherExponent : Int}
    (first : IsCanonical significand exponent) (second : IsCanonical otherSignificand otherExponent)
    (lower : exponent < otherExponent) :
    (significand : Rat) * 2 ^ exponent < otherSignificand * (2 : Rat) ^ otherExponent := by
  have unit : (0 : Rat) < 2 ^ exponent := by positivity
  have below : (significand : Rat) < 2 * leastNormal := by exact_mod_cast first.bounded
  have full : (leastNormal : Rat) ≤ otherSignificand := by
    exact_mod_cast second.normal (first.least.trans_lt lower)
  have double : (2 : Rat) ^ exponent * 2 ≤ 2 ^ otherExponent := by
    rw [← zpow_add_one₀ (by norm_num)]
    exact zpow_le_zpow_right₀ (by norm_num) (by omega)
  calc (significand : Rat) * 2 ^ exponent
      < 2 * leastNormal * 2 ^ exponent := mul_lt_mul_of_pos_right below unit
    _ = leastNormal * (2 ^ exponent * 2) := by ring
    _ ≤ otherSignificand * 2 ^ otherExponent := by gcongr

/-- Canonical numbers are ordered by their exponents first. -/
theorem compare_canonical {significand otherSignificand : Nat} {exponent otherExponent : Int}
    (first : IsCanonical significand exponent)
    (second : IsCanonical otherSignificand otherExponent) :
    (compare exponent otherExponent).then (compare significand otherSignificand) =
      compare ((significand : Rat) * 2 ^ exponent) (otherSignificand * (2 : Rat) ^ otherExponent) := by
  rcases lt_trichotomy exponent otherExponent with lower | same | upper
  · rw [compare_lt_iff_lt.mpr lower, compare_lt_iff_lt.mpr (lt_of_exponent_lt first second lower)]
    rfl
  · subst same
    have unit : (0 : Rat) < 2 ^ exponent := by positivity
    rw [compare_eq_iff_eq.mpr rfl]
    change compare significand otherSignificand = _
    rcases lt_trichotomy significand otherSignificand with less | equal | greater
    · rw [compare_lt_iff_lt.mpr less, compare_lt_iff_lt.mpr
        (mul_lt_mul_of_pos_right (by exact_mod_cast less) unit)]
    · subst equal
      rw [compare_eq_iff_eq.mpr rfl, compare_eq_iff_eq.mpr rfl]
    · rw [compare_gt_iff_gt.mpr greater, compare_gt_iff_gt.mpr
        (mul_lt_mul_of_pos_right (by exact_mod_cast greater) unit)]
  · rw [compare_gt_iff_gt.mpr upper, compare_gt_iff_gt.mpr (lt_of_exponent_lt second first upper)]
    rfl

theorem compare_neg_neg (x y : Rat) : compare (-x) (-y) = (compare x y).swap := by
  rcases lt_trichotomy x y with less | rfl | greater
  · rw [compare_lt_iff_lt.mpr less, compare_gt_iff_gt.mpr (neg_lt_neg less)]
    rfl
  · rw [compare_eq_iff_eq.mpr rfl, compare_eq_iff_eq.mpr rfl]
    rfl
  · rw [compare_gt_iff_gt.mpr greater, compare_lt_iff_lt.mpr (neg_lt_neg greater)]
    rfl

theorem unpackedValue_positive {significand : Nat} {exponent : Int}
    (filled : 0 < significand) :
    unpackedValue (.finite .positive significand exponent filled) =
      significand * (2 : Rat) ^ exponent :=
  rfl

theorem unpackedValue_negative {significand : Nat} {exponent : Int}
    (filled : 0 < significand) :
    unpackedValue (.finite .negative significand exponent filled) =
      -(significand * (2 : Rat) ^ exponent) :=
  unpackedValue_neg (.finite .positive significand exponent filled)

theorem compare_eq {first second : UnpackedFloat} (firstTidy : IsTidy first)
    (secondTidy : IsTidy second) :
    first.compare second = some (compare (unpackedValue first) (unpackedValue second)) := by
  have above {significand : Nat} (filled : 0 < significand) (exponent : Int) :
      (0 : Rat) < significand * 2 ^ exponent := by positivity
  have below {significand : Nat} (filled : 0 < significand) (exponent : Int) :
      -(significand * 2 ^ exponent : Rat) < 0 := neg_neg_of_pos (above filled exponent)
  cases first with
  | notANumber => exact firstTidy.elim
  | infinity sign => exact firstTidy.elim
  | zero sign =>
      cases second with
      | notANumber => exact secondTidy.elim
      | infinity other => exact secondTidy.elim
      | zero other => exact congrArg some (compare_eq_iff_eq.mpr rfl).symm
      | finite other significand exponent filled =>
          cases other with
          | negative =>
              rw [unpackedValue_negative]
              exact congrArg some (compare_gt_iff_gt.mpr (below filled exponent)).symm
          | positive => exact congrArg some (compare_lt_iff_lt.mpr (above filled exponent)).symm
  | finite sign significand exponent filled =>
      cases second with
      | notANumber => exact secondTidy.elim
      | infinity other => exact secondTidy.elim
      | zero other =>
          cases sign with
          | negative =>
              rw [unpackedValue_negative]
              exact congrArg some (compare_lt_iff_lt.mpr (below filled exponent)).symm
          | positive => exact congrArg some (compare_gt_iff_gt.mpr (above filled exponent)).symm
      | finite other otherSignificand otherExponent otherFilled =>
          cases sign with
          | negative =>
              cases other with
              | negative =>
                  rw [unpackedValue_negative, unpackedValue_negative, compare_neg_neg,
                    ← compare_canonical firstTidy secondTidy]
                  rfl
              | positive =>
                  rw [unpackedValue_negative, unpackedValue_positive]
                  exact congrArg some (compare_lt_iff_lt.mpr
                    ((below filled exponent).trans (above otherFilled otherExponent))).symm
          | positive =>
              cases other with
              | negative =>
                  rw [unpackedValue_negative, unpackedValue_positive]
                  exact congrArg some (compare_gt_iff_gt.mpr
                    ((below otherFilled otherExponent).trans (above filled exponent))).symm
              | positive => exact congrArg some (compare_canonical firstTidy secondTidy)

theorem compare_infinity {other : UnpackedFloat} (tidy : IsTidy other) :
    (UnpackedFloat.infinity .positive).compare other = some .gt := by
  cases other with
  | notANumber => exact tidy.elim
  | infinity sign => exact tidy.elim
  | zero sign => rfl
  | finite sign significand exponent filled => rfl

theorem compare_negative_infinity {other : UnpackedFloat} (tidy : IsTidy other) :
    (UnpackedFloat.infinity .negative).compare other = some .lt := by
  cases other with
  | notANumber => exact tidy.elim
  | infinity sign => exact tidy.elim
  | zero sign => rfl
  | finite sign significand exponent filled => rfl

theorem compare_swap (first second : UnpackedFloat) :
    second.compare first = (first.compare second).map Ordering.swap := by
  have parts (exponent otherExponent : Int) (significand otherSignificand : Nat) :
      (compare otherExponent exponent).then (compare otherSignificand significand) =
        ((compare exponent otherExponent).then (compare significand otherSignificand)).swap := by
    rw [Ordering.swap_then, Int.compare_swap, Nat.compare_swap]
  cases first with
  | notANumber => cases second <;> rfl
  | infinity sign =>
      cases second with
      | infinity other => cases sign <;> cases other <;> rfl
      | _ => cases sign <;> rfl
  | zero sign =>
      cases second with
      | infinity other => cases other <;> rfl
      | finite other significand exponent filled => cases other <;> rfl
      | _ => rfl
  | finite sign significand exponent filled =>
      cases second with
      | notANumber => cases sign <;> rfl
      | infinity other => cases sign <;> cases other <;> rfl
      | zero other => cases sign <;> rfl
      | finite other otherSignificand otherExponent otherFilled =>
          cases sign <;> cases other
          · exact congrArg some (congrArg Ordering.swap (parts _ _ _ _))
          · rfl
          · rfl
          · exact congrArg some (parts _ _ _ _)

end Order

section Doubles

/-- A double that is neither infinite nor undefined. -/
def IsFinite (x : Float) : Prop :=
  IsTidy x.toModel.unpack

/-- The least power of two that is too large for a double. -/
def ceiling : Rat := leastNormal * (2 : Rat) ^ (972 : Int)

theorem isTidy_unpack_iff {x : Float.Model} :
    IsTidy x.unpack ↔ x.unpack.isFinite = true := by
  cases unpacked : x.unpack with
  | notANumber => exact ⟨False.elim, fun impossible => Bool.noConfusion impossible⟩
  | infinity sign => exact ⟨False.elim, fun impossible => Bool.noConfusion impossible⟩
  | zero sign => exact ⟨fun _ => rfl, fun _ => trivial⟩
  | finite sign significand exponent filled =>
      obtain ⟨bounded, least, _, normal⟩ := bounds_of_unpack unpacked
      exact ⟨fun _ => rfl, fun _ => ⟨filled, bounded, least, normal⟩⟩

theorem isFinite_iff {x : Float} : IsFinite x ↔ x.isFinite = true :=
  isTidy_unpack_iff

/-- A tidy number below the ceiling is stored as it is. -/
theorem unpack_pack_tidy {unpacked : UnpackedFloat} (tidy : IsTidy unpacked)
    (low : -ceiling < unpackedValue unpacked) (high : unpackedValue unpacked < ceiling) :
    (Float.Model.pack unpacked).unpack = unpacked := by
  cases unpacked with
  | notANumber => exact tidy.elim
  | infinity sign => exact tidy.elim
  | zero sign => exact unpack_pack_zero sign
  | finite sign significand exponent filled =>
      have inRange : exponent ≤ 971 := by
        by_contra large
        have full : (leastNormal : Rat) ≤ significand := by
          exact_mod_cast tidy.normal (by unfold leastExponent; omega)
        have reach : ceiling ≤ significand * 2 ^ exponent := by
          have powers : (2 : Rat) ^ (972 : Int) ≤ 2 ^ exponent :=
            zpow_le_zpow_right₀ (by norm_num) (by omega)
          exact mul_le_mul full powers (by positivity) (Nat.cast_nonneg _)
        cases sign with
        | negative =>
            rw [unpackedValue_negative] at low
            linarith
        | positive =>
            rw [unpackedValue_positive] at high
            linarith
      exact unpack_pack_finite sign filled tidy.bounded tidy.least inRange tidy.normal

/-- A number that a double holds. -/
structure IsHeld (value : Rat) : Prop where
  representable : IsRepresentable value
  low : -ceiling < value
  high : value < ceiling

/-- A rounded number between numbers that doubles hold is stored as it is, between the same. -/
theorem Rounds.packed {exact low high : Rat} {rounded : UnpackedFloat}
    (rounds : Rounds exact rounded) (lowHeld : IsHeld low) (highHeld : IsHeld high)
    (above : low ≤ exact) (below : exact ≤ high) :
    (Float.Model.pack rounded).unpack = rounded ∧ low ≤ unpackedValue rounded ∧
      unpackedValue rounded ≤ high := by
  have lower := rounds.above low lowHeld.representable above
  have upper := rounds.below high highHeld.representable below
  exact ⟨unpack_pack_tidy rounds.tidy (lowHeld.low.trans_le lower) (upper.trans_lt highHeld.high),
    lower, upper⟩

/-- The rounded sum of two doubles lies between the same doubles as the exact sum. -/
theorem add_between {x y : Float} {low high : Rat} (lowHeld : IsHeld low) (highHeld : IsHeld high)
    (xFinite : IsFinite x) (yFinite : IsFinite y) (above : low ≤ exactValue x + exactValue y)
    (below : exactValue x + exactValue y ≤ high) :
    IsFinite (x + y) ∧ low ≤ exactValue (x + y) ∧ exactValue (x + y) ≤ high := by
  have rounds := rounds_add xFinite yFinite
  obtain ⟨stored, bounds⟩ := rounds.packed lowHeld highHeld above below
  have sum : (x + y).toModel.unpack =
      UnpackedFloat.add Format.binary64 x.toModel.unpack y.toModel.unpack := stored
  unfold IsFinite exactValue
  rw [sum]
  exact ⟨rounds.tidy, bounds⟩

theorem mul_between {x y : Float} {low high : Rat} (lowHeld : IsHeld low) (highHeld : IsHeld high)
    (xFinite : IsFinite x) (yFinite : IsFinite y) (above : low ≤ exactValue x * exactValue y)
    (below : exactValue x * exactValue y ≤ high) :
    IsFinite (x * y) ∧ low ≤ exactValue (x * y) ∧ exactValue (x * y) ≤ high := by
  have rounds := rounds_mul xFinite yFinite
  obtain ⟨stored, bounds⟩ := rounds.packed lowHeld highHeld above below
  have product : (x * y).toModel.unpack =
      UnpackedFloat.mul Format.binary64 x.toModel.unpack y.toModel.unpack := stored
  unfold IsFinite exactValue
  rw [product]
  exact ⟨rounds.tidy, bounds⟩

theorem le_iff_compare {x y : Float} :
    x ≤ y ↔ (x.toModel.unpack.compare y.toModel.unpack).any (·.isLE) = true := by
  change decide (x.toModel ≤ y.toModel) = true ↔ _
  rw [decide_eq_true_iff]
  rfl

theorem lt_iff_compare {x y : Float} :
    x < y ↔ (x.toModel.unpack.compare y.toModel.unpack == some .lt) = true := by
  change decide (x.toModel < y.toModel) = true ↔ _
  rw [decide_eq_true_iff]
  rfl

theorem le_iff {x y : Float} (xFinite : IsFinite x) (yFinite : IsFinite y) :
    x ≤ y ↔ exactValue x ≤ exactValue y := by
  rw [le_iff_compare, compare_eq xFinite yFinite]
  change (compare (exactValue x) (exactValue y)).isLE = true ↔ _
  rw [Ordering.isLE_iff_ne_gt, ← not_lt]
  exact not_congr compare_gt_iff_gt

theorem unpack_cases (x : Float) :
    x.toModel.unpack = .notANumber ∨ (∃ sign, x.toModel.unpack = .infinity sign) ∨
      IsFinite x := by
  cases unpacked : x.toModel.unpack with
  | notANumber => exact Or.inl rfl
  | infinity sign => exact Or.inr (Or.inl ⟨sign, rfl⟩)
  | zero sign => exact Or.inr (Or.inr (isTidy_unpack_iff.mpr (by rw [unpacked]; rfl)))
  | finite sign significand exponent filled =>
      exact Or.inr (Or.inr (isTidy_unpack_iff.mpr (by rw [unpacked]; rfl)))

theorem exists_compare {x y : Float} (number : x.toModel.unpack ≠ .notANumber)
    (finite : IsFinite y) :
    ∃ order, x.toModel.unpack.compare y.toModel.unpack = some order := by
  rcases unpack_cases x with undefined | ⟨sign, infinite⟩ | xFinite
  · exact absurd undefined number
  · rw [infinite]
    cases sign with
    | negative => exact ⟨_, compare_negative_infinity finite⟩
    | positive => exact ⟨_, compare_infinity finite⟩
  · exact ⟨_, compare_eq xFinite finite⟩

/-- One of two numbers that compare is at least as large as the other. -/
theorem not_lt_iff {x y : Float} {order : Ordering}
    (compared : x.toModel.unpack.compare y.toModel.unpack = some order) :
    (¬x < y ↔ y ≤ x) ∧ (¬y < x ↔ x ≤ y) := by
  rw [lt_iff_compare, lt_iff_compare, le_iff_compare, le_iff_compare,
    compare_swap x.toModel.unpack, compared]
  cases order <;> decide

theorem isFinite_of_between {low x high : Float} (lowFinite : IsFinite low)
    (highFinite : IsFinite high) (above : low ≤ x) (below : x ≤ high) : IsFinite x := by
  rw [le_iff_compare] at above below
  rw [compare_swap x.toModel.unpack] at above
  rcases unpack_cases x with undefined | ⟨sign, infinite⟩ | finite
  · rw [undefined] at below
    exact Bool.noConfusion below
  · rw [infinite] at above below
    cases sign with
    | negative =>
        rw [compare_negative_infinity lowFinite] at above
        exact Bool.noConfusion above
    | positive =>
        rw [compare_infinity highFinite] at below
        exact Bool.noConfusion below
  · exact finite

end Doubles

section Constants

theorem isFinite_zero : IsFinite 0.0 :=
  isFinite_iff.mpr (by decide)

theorem isFinite_one : IsFinite 1.0 :=
  isFinite_iff.mpr (by decide)

theorem isFinite_half : IsFinite 0.5 :=
  isFinite_iff.mpr (by decide)

theorem isFinite_quarter : IsFinite 0.25 :=
  isFinite_iff.mpr (by decide)

theorem exactValue_zero : exactValue 0.0 = 0 :=
  rfl

theorem exactValue_of_unpack {x : Float} {significand : Nat} {exponent : Int}
    {filled : 0 < significand}
    (unpacked : x.toModel.unpack = .finite .positive significand exponent filled) :
    exactValue x = significand * (2 : Rat) ^ exponent := by
  unfold exactValue
  rw [unpacked]
  exact unpackedValue_positive filled

theorem exactValue_one : exactValue 1.0 = 1 := by
  have unpacked : (1.0 : Float).toModel.unpack =
      .finite .positive (2 ^ 52) (-52) (by decide) := rfl
  rw [exactValue_of_unpack unpacked]
  norm_num

theorem exactValue_half : exactValue 0.5 = 1 / 2 := by
  have unpacked : (0.5 : Float).toModel.unpack =
      .finite .positive (2 ^ 52) (-53) (by decide) := rfl
  rw [exactValue_of_unpack unpacked]
  norm_num

theorem exactValue_quarter : exactValue 0.25 = 1 / 4 := by
  have unpacked : (0.25 : Float).toModel.unpack =
      .finite .positive (2 ^ 52) (-54) (by decide) := rfl
  rw [exactValue_of_unpack unpacked]
  norm_num

theorem one_lt_ceiling : 1 < ceiling := by
  have power : (1 : Rat) ≤ 2 ^ (972 : Int) := one_le_zpow₀ (by norm_num) (by norm_num)
  have large : (1 : Rat) < Decimal.leastNormal := by norm_num [Decimal.leastNormal]
  exact one_lt_mul_of_lt_of_le large power

theorem isHeld_of_small {value : Rat} (representable : IsRepresentable value)
    (lower : 0 ≤ value) (upper : value ≤ 1) : IsHeld value := by
  have top := one_lt_ceiling
  exact ⟨representable, by linarith, by linarith⟩

theorem isHeld_zero : IsHeld 0 :=
  isHeld_of_small isRepresentable_zero le_rfl zero_le_one

theorem isHeld_quarter : IsHeld (1 / 4) :=
  isHeld_of_small ⟨1, -2, by decide, by decide, by norm_num⟩ (by norm_num) (by norm_num)

theorem isHeld_half : IsHeld (1 / 2) :=
  isHeld_of_small ⟨1, -1, by decide, by decide, by norm_num⟩ (by norm_num) (by norm_num)

theorem isHeld_one : IsHeld 1 :=
  isHeld_of_small ⟨1, 0, by decide, by decide, by norm_num⟩ zero_le_one le_rfl

end Constants

end HingeField.Doubles
