import HingeField.Proofs.Doubles
import HingeField.Proofs.Shortest

/-!
How doubles are rounded. A number is representable if it is a significand of a
double times a power of two that is not too small. Main statements: rounding
never crosses a representable number, so that it leaves such a number as it is,
and sums and products of doubles are rounded in this way.
-/

namespace HingeField.Doubles

open Decimal (IsCanonical leastExponent leastNormal)
open Float.Model
open Float.Model.UnpackedFloat

/-- A number that a double holds as it is, unless it is too large for one. -/
def IsRepresentable (value : Rat) : Prop :=
  ∃ (significand : Int) (exponent : Int), significand.natAbs < 2 * leastNormal ∧
    leastExponent ≤ exponent ∧ value = significand * (2 : Rat) ^ exponent

/-- Zero or a finite number in the form in which doubles are stored, of any size. -/
def IsTidy : UnpackedFloat → Prop
  | .zero _ => True
  | .finite _ significand exponent _ => IsCanonical significand exponent
  | _ => False

/-- A number is rounded to a tidy one on the same side of all representable numbers. -/
structure Rounds (exact : Rat) (rounded : UnpackedFloat) : Prop where
  tidy : IsTidy rounded
  above : ∀ bound, IsRepresentable bound → bound ≤ exact → bound ≤ unpackedValue rounded
  below : ∀ bound, IsRepresentable bound → exact ≤ bound → unpackedValue rounded ≤ bound

section Representable

theorem isRepresentable_neg {value : Rat} (representable : IsRepresentable value) :
    IsRepresentable (-value) := by
  obtain ⟨significand, exponent, small, least, rfl⟩ := representable
  refine ⟨-significand, exponent, by rwa [Int.natAbs_neg], least, ?_⟩
  rw [Int.cast_neg, neg_mul]

theorem isRepresentable_zero : IsRepresentable 0 :=
  ⟨0, 0, by decide, by decide, by norm_num⟩

theorem isRepresentable_unpackedValue {unpacked : UnpackedFloat} (tidy : IsTidy unpacked) :
    IsRepresentable (unpackedValue unpacked) := by
  cases unpacked with
  | notANumber => exact tidy.elim
  | infinity sign => exact tidy.elim
  | zero sign => exact isRepresentable_zero
  | finite sign significand exponent filled =>
      have bounded := tidy.bounded
      refine ⟨sign.apply significand, exponent, ?_, tidy.least, rfl⟩
      cases sign with
      | negative =>
          change (-(significand : Int)).natAbs < _
          omega
      | positive => exact bounded

theorem Rounds.eq_of_representable {exact : Rat} {rounded : UnpackedFloat}
    (rounds : Rounds exact rounded) (representable : IsRepresentable exact) :
    unpackedValue rounded = exact :=
  le_antisymm (rounds.below exact representable le_rfl) (rounds.above exact representable le_rfl)

theorem rounds_self {unpacked : UnpackedFloat} (tidy : IsTidy unpacked) :
    Rounds (unpackedValue unpacked) unpacked :=
  ⟨tidy, fun _ _ above => above, fun _ _ below => below⟩

theorem rounds_zero (sign : Sign) : Rounds 0 (.zero sign) :=
  ⟨trivial, fun _ _ above => above, fun _ _ below => below⟩

theorem isTidy_neg {unpacked : UnpackedFloat} (tidy : IsTidy unpacked) : IsTidy unpacked.neg := by
  cases unpacked with
  | notANumber => exact tidy
  | infinity sign => exact tidy
  | zero sign => exact tidy
  | finite sign significand exponent filled => exact tidy

theorem rounds_neg {exact : Rat} {rounded : UnpackedFloat} (rounds : Rounds exact rounded) :
    Rounds (-exact) rounded.neg := by
  refine ⟨isTidy_neg rounds.tidy, ?_, ?_⟩
  · intro bound representable above
    rw [unpackedValue_neg]
    exact le_neg.mp (rounds.below (-bound) (isRepresentable_neg representable) (le_neg.mp above))
  · intro bound representable below
    rw [unpackedValue_neg]
    exact neg_le.mp (rounds.above (-bound) (isRepresentable_neg representable) (neg_le.mp below))

end Representable

section Shifting

/-- A significand shifted to the right keeps two bits that are off if nothing was lost. -/
theorem shiftRight_eq (significand shift : Nat) :
    ∃ roundBit stickyBit,
      (⟨significand, false, false⟩ : ExtendedMantissa) >>> shift =
        ⟨significand / 2 ^ shift, roundBit, stickyBit⟩ ∧
      (significand % 2 ^ shift = 0 → roundBit = false ∧ stickyBit = false) := by
  induction shift with
  | zero => exact ⟨false, false, by rw [pow_zero, Nat.div_one]; rfl, fun _ => ⟨rfl, rfl⟩⟩
  | succ shift ih =>
      obtain ⟨roundBit, stickyBit, shifted, lossless⟩ := ih
      refine ⟨significand / 2 ^ shift % 2 != 0, roundBit || stickyBit, ?_, ?_⟩
      · change ((⟨significand, false, false⟩ : ExtendedMantissa) >>> shift).shiftRightOne = _
        rw [shifted, pow_succ, ← Nat.div_div_eq_div_mul]
        rfl
      · intro whole
        rw [Nat.mod_pow_succ] at whole
        have low : significand % 2 ^ shift = 0 := by omega
        have place : 0 < 2 ^ shift := Nat.two_pow_pos shift
        have high : significand / 2 ^ shift % 2 = 0 := by
          rcases Nat.mod_two_eq_zero_or_one (significand / 2 ^ shift) with even | odd
          · exact even
          · rw [odd, mul_one] at whole
            omega
        obtain ⟨roundOff, stickyOff⟩ := lossless low
        exact ⟨by rw [high]; rfl, by rw [roundOff, stickyOff]; rfl⟩

/-- Rounding moves a shifted significand by less than one unit. -/
theorem roundedMantissa_near (significand shift : Nat) :
    let rounded :=
      ((⟨significand, false, false⟩ : ExtendedMantissa) >>> shift).roundedMantissa
    significand / 2 ^ shift ≤ rounded ∧ significand < (rounded + 1) * 2 ^ shift ∧
      rounded * 2 ^ shift < significand + 2 ^ shift := by
  obtain ⟨roundBit, stickyBit, shifted, lossless⟩ := shiftRight_eq significand shift
  have place : 0 < 2 ^ shift := Nat.two_pow_pos shift
  have parts := Nat.div_add_mod' significand (2 ^ shift)
  have rest := Nat.mod_lt significand place
  -- the quotient is kept, or raised by one if the remainder is not zero
  have moved : ((⟨significand, false, false⟩ : ExtendedMantissa) >>> shift).roundedMantissa =
        significand / 2 ^ shift ∨
      (((⟨significand, false, false⟩ : ExtendedMantissa) >>> shift).roundedMantissa =
        significand / 2 ^ shift + 1 ∧ 0 < significand % 2 ^ shift) := by
    rw [shifted]
    by_cases whole : significand % 2 ^ shift = 0
    · obtain ⟨rfl, rfl⟩ := lossless whole
      exact Or.inl rfl
    · have positive : 0 < significand % 2 ^ shift := Nat.pos_of_ne_zero whole
      rcases Nat.mod_two_eq_zero_or_one (significand / 2 ^ shift) with even | odd
      · cases roundBit <;> cases stickyBit <;>
          simp [ExtendedMantissa.roundedMantissa, ExtendedMantissa.accuracy,
            Accuracy.roundToNearestEven, even, positive]
      · cases roundBit <;> cases stickyBit <;>
          simp [ExtendedMantissa.roundedMantissa, ExtendedMantissa.accuracy,
            Accuracy.roundToNearestEven, odd, positive]
  dsimp only
  rcases moved with kept | ⟨raised, positive⟩
  · rw [kept]
    refine ⟨le_rfl, ?_, ?_⟩
    · rw [Nat.add_mul]
      omega
    · omega
  · rw [raised]
    refine ⟨Nat.le_succ _, ?_, ?_⟩
    · rw [Nat.add_mul, Nat.add_mul]
      omega
    · rw [Nat.add_mul]
      omega

end Shifting

section Rounding

theorem targetExponent_eq (total : Int) :
    Format.binary64.targetExponent total = max (total - 53) leastExponent := by
  change max (total - ((1 + 52 : Nat) : Int)) (3 - 2 ^ (11 - 1) - ((1 + 52 : Nat) : Int)) = _
  norm_num [leastExponent]

/-- A significand with its exponent, whose least bit is not coarser than the format demands. -/
def IsFine (significand : Nat) (exponent : Int) : Prop :=
  exponent ≤ leastExponent ∨ exponent + 53 ≤ totalExponent significand exponent

theorem isFine_iff {significand : Nat} {exponent : Int} :
    IsFine significand exponent ↔
      exponent ≤ Format.binary64.targetExponent (totalExponent significand exponent) := by
  rw [targetExponent_eq]
  unfold IsFine
  omega

theorem shiftToTargetExponent_eq {significand : Nat} {exponent : Int} {shift : Nat}
    (distance : (Format.binary64.targetExponent (totalExponent significand exponent) -
      exponent).toNat = shift) :
    (shiftToTargetExponent Format.binary64 significand exponent .exact).1 =
        (⟨significand, false, false⟩ : ExtendedMantissa) >>> shift ∧
      (shiftToTargetExponent Format.binary64 significand exponent .exact).2 =
        exponent + shift := by
  subst distance
  exact ⟨rfl, rfl⟩

/-- A significand of at most 53 bits stays, and the next one loses an empty bit. -/
theorem shiftToTargetExponent_of_short {significand : Nat} {exponent : Int}
    (least : leastExponent ≤ exponent) (short : significand ≤ 2 * leastNormal)
    (normal : leastExponent < exponent → leastNormal ≤ significand) :
    ∃ final shift : Nat,
      (shiftToTargetExponent Format.binary64 significand exponent .exact).1.mantissa = final ∧
      (shiftToTargetExponent Format.binary64 significand exponent .exact).2 = exponent + shift ∧
      final * 2 ^ shift = significand ∧ final < 2 * leastNormal ∧
      (leastExponent < exponent + shift → leastNormal ≤ final) := by
  by_cases full : significand = 2 * leastNormal
  · subst full
    have bits : (2 * leastNormal).log2 = 53 := by decide +kernel
    have distance : (Format.binary64.targetExponent (totalExponent (2 * leastNormal) exponent) -
        exponent).toNat = 1 := by
      rw [targetExponent_eq, totalExponent, bits]
      omega
    obtain ⟨shifted, raised⟩ := shiftToTargetExponent_eq distance
    refine ⟨leastNormal, 1, ?_, raised, by decide, by decide, fun _ => le_rfl⟩
    rw [shifted]
    rfl
  · have bits : significand.log2 ≤ 52 := by
      by_cases none : significand = 0
      · rw [none]
        decide
      · have below : significand < 2 ^ 53 := by
          unfold leastNormal at *
          omega
        exact Nat.le_of_lt_succ ((Nat.log2_lt none).mpr below)
    have distance : (Format.binary64.targetExponent (totalExponent significand exponent) -
        exponent).toNat = 0 := by
      rw [targetExponent_eq, totalExponent]
      omega
    obtain ⟨shifted, raised⟩ := shiftToTargetExponent_eq distance
    refine ⟨significand, 0, ?_, raised, ?_, by omega, ?_⟩
    · rw [shifted]
      rfl
    · rw [pow_zero, mul_one]
    · intro above
      exact normal (by omega)

theorem roundWithAccuracy_of_shifts {sign : Sign} {significand rounded final : Nat}
    {exponent target finish : Int}
    (first : (shiftToTargetExponent Format.binary64 significand exponent .exact).1.roundedMantissa =
      rounded)
    (firstExponent :
      (shiftToTargetExponent Format.binary64 significand exponent .exact).2 = target)
    (last : (shiftToTargetExponent Format.binary64 rounded target .exact).1.mantissa = final)
    (lastExponent : (shiftToTargetExponent Format.binary64 rounded target .exact).2 = finish) :
    roundWithAccuracy Format.binary64 sign significand exponent .exact =
      if filled : final = 0 then .zero sign
      else .finite sign final finish (Nat.pos_of_ne_zero filled) := by
  subst first firstExponent last lastExponent
  rfl

/-- The number that a positive one is rounded to is less than one unit of the target away. -/
theorem exists_rounded {significand : Nat} {exponent : Int}
    (positive : 0 < significand) (fine : IsFine significand exponent) :
    ∃ (rounded : Nat) (target : Int),
      IsTidy (roundWithAccuracy Format.binary64 .positive significand exponent .exact) ∧
      unpackedValue (roundWithAccuracy Format.binary64 .positive significand exponent .exact) =
        rounded * (2 : Rat) ^ target ∧
      leastExponent ≤ target ∧
      (leastExponent < target →
        (leastNormal : Rat) * 2 ^ target ≤ significand * 2 ^ exponent ∧ leastNormal ≤ rounded) ∧
      (significand : Rat) * 2 ^ exponent < (rounded + 1) * 2 ^ target ∧
      rounded * (2 : Rat) ^ target < significand * 2 ^ exponent + 2 ^ target := by
  have reached := isFine_iff.mp fine
  set target := Format.binary64.targetExponent (totalExponent significand exponent) with chosen
  obtain ⟨shift, distance⟩ := Int.eq_ofNat_of_zero_le (sub_nonneg.mpr reached)
  have raised : exponent + shift = target := by omega
  have toNat : (target - exponent).toNat = shift := by omega
  obtain ⟨firstShift, firstExponent⟩ := shiftToTargetExponent_eq toNat
  rw [raised] at firstExponent
  rw [targetExponent_eq, totalExponent] at chosen
  obtain ⟨lower, above, below⟩ := roundedMantissa_near significand shift
  set rounded := ((⟨significand, false, false⟩ : ExtendedMantissa) >>> shift).roundedMantissa
  have short : rounded ≤ 2 * leastNormal := by
    have bits : significand < 2 ^ (53 + shift) :=
      Nat.lt_log2_self.trans_le (Nat.pow_le_pow_right (by decide) (by omega))
    rw [pow_add] at bits
    have room : rounded * 2 ^ shift < (2 ^ 53 + 1) * 2 ^ shift := by
      rw [Nat.add_mul]
      omega
    exact Nat.le_of_lt_succ (Nat.lt_of_mul_lt_mul_right room)
  have normal (coarse : leastExponent < target) :
      leastNormal * 2 ^ shift ≤ significand ∧ leastNormal ≤ rounded := by
    have bits : 2 ^ (52 + shift) ≤ significand :=
      (Nat.pow_le_pow_right (by decide) (by omega)).trans (Nat.log2_self_le positive.ne')
    rw [pow_add] at bits
    exact ⟨bits, ((Nat.le_div_iff_mul_le (Nat.two_pow_pos shift)).mpr bits).trans lower⟩
  obtain ⟨final, carry, last, lastExponent, whole, bounded, full⟩ :=
    shiftToTargetExponent_of_short (by omega) short fun coarse => (normal coarse).2
  have scale : (2 : Rat) ^ target = 2 ^ shift * 2 ^ exponent := by
    rw [← raised, zpow_add₀ (by norm_num), zpow_natCast, mul_comm]
  have unit : (0 : Rat) < 2 ^ exponent := by positivity
  have ending : roundWithAccuracy Format.binary64 .positive significand exponent .exact = _ :=
    roundWithAccuracy_of_shifts (congrArg _ firstShift) firstExponent last lastExponent
  refine ⟨rounded, target, ?_, ?_, by omega, ?_, ?_, ?_⟩
  · rw [ending]
    split
    · trivial
    · rename_i filled
      exact ⟨Nat.pos_of_ne_zero filled, bounded, by omega, full⟩
  · rw [ending, ← whole, Nat.cast_mul, Nat.cast_pow, Nat.cast_ofNat]
    split
    · rename_i empty
      rw [empty, Nat.cast_zero, zero_mul, zero_mul]
      rfl
    · change ((final : Int) : Rat) * 2 ^ (target + carry) = _
      rw [zpow_add₀ (by norm_num), zpow_natCast, Int.cast_natCast]
      ring
  · intro coarse
    obtain ⟨large, high⟩ := normal coarse
    refine ⟨?_, high⟩
    rw [scale, ← mul_assoc]
    exact mul_le_mul_of_nonneg_right (by exact_mod_cast large) unit.le
  · rw [scale, ← mul_assoc]
    exact mul_lt_mul_of_pos_right (by exact_mod_cast above) unit
  · rw [scale, ← mul_assoc, ← add_mul]
    exact mul_lt_mul_of_pos_right (by exact_mod_cast below) unit

theorem roundWithAccuracy_neg (sign : Sign) (significand : Nat) (exponent : Int)
    (accuracy : Accuracy) :
    roundWithAccuracy Format.binary64 (-sign) significand exponent accuracy =
      (roundWithAccuracy Format.binary64 sign significand exponent accuracy).neg := by
  unfold roundWithAccuracy
  simp only
  split
  · rfl
  · rfl

/-- A representable number is a multiple of a unit, or it is too small for the numbers that are
rounded to this unit. -/
theorem IsRepresentable.multiple_or_small {bound : Rat} (representable : IsRepresentable bound)
    (target : Int) :
    (∃ count : Int, bound = count * (2 : Rat) ^ target) ∨
      leastExponent < target ∧ bound < leastNormal * (2 : Rat) ^ target := by
  obtain ⟨significand, exponent, small, least, rfl⟩ := representable
  by_cases coarse : target ≤ exponent
  · obtain ⟨shift, distance⟩ := Int.eq_ofNat_of_zero_le (sub_nonneg.mpr coarse)
    refine Or.inl ⟨significand * 2 ^ shift, ?_⟩
    rw [show exponent = shift + target by omega, zpow_add₀ (by norm_num), zpow_natCast]
    push_cast
    ring
  · refine Or.inr ⟨by omega, ?_⟩
    have unit : (0 : Rat) < 2 ^ exponent := by positivity
    have half : (2 : Rat) ^ exponent * 2 ≤ 2 ^ target := by
      rw [← zpow_add_one₀ (by norm_num)]
      exact zpow_le_zpow_right₀ (by norm_num) (by omega)
    have below : (significand : Rat) < 2 * leastNormal := by
      exact_mod_cast (show significand < (2 * leastNormal : Nat) by omega)
    calc (significand : Rat) * 2 ^ exponent
        < 2 * leastNormal * 2 ^ exponent := mul_lt_mul_of_pos_right below unit
      _ = leastNormal * (2 ^ exponent * 2) := by ring
      _ ≤ leastNormal * 2 ^ target := mul_le_mul_of_nonneg_left half (Nat.cast_nonneg _)

/-- Below a multiple of a unit the next representable number is the multiple before it, unless the
numbers there have a finer unit. -/
theorem IsRepresentable.le_pred {value : Rat} (representable : IsRepresentable value)
    {count target : Int} (large : leastNormal < count)
    (below : value < count * (2 : Rat) ^ target) :
    value ≤ (count - 1 : Int) * (2 : Rat) ^ target := by
  have unit : (0 : Rat) < 2 ^ target := by positivity
  rcases representable.multiple_or_small target with ⟨multiple, rfl⟩ | ⟨_, small⟩
  · have fewer : multiple < count := by
      exact_mod_cast lt_of_mul_lt_mul_right below unit.le
    exact mul_le_mul_of_nonneg_right (by exact_mod_cast Int.le_sub_one_of_lt fewer) unit.le
  · have enough : (leastNormal : Rat) ≤ (count - 1 : Int) := by
      exact_mod_cast Int.le_sub_one_of_lt large
    exact small.le.trans (mul_le_mul_of_nonneg_right enough unit.le)

theorem rounds_positive {significand : Nat} {exponent : Int} (positive : 0 < significand)
    (fine : IsFine significand exponent) :
    Rounds (significand * (2 : Rat) ^ exponent)
      (roundWithAccuracy Format.binary64 .positive significand exponent .exact) := by
  obtain ⟨rounded, target, tidy, value, least, normal, above, below⟩ :=
    exists_rounded positive fine
  have unit : (0 : Rat) < 2 ^ target := by positivity
  refine ⟨tidy, ?_, ?_⟩
  · intro bound representable lower
    rw [value]
    rcases representable.multiple_or_small target with ⟨count, rfl⟩ | ⟨coarse, small⟩
    · have next : count < (rounded + 1 : Int) := by
        exact_mod_cast lt_of_mul_lt_mul_right (lower.trans_lt above) unit.le
      exact mul_le_mul_of_nonneg_right (by exact_mod_cast Int.lt_add_one_iff.mp next) unit.le
    · refine small.le.trans (mul_le_mul_of_nonneg_right ?_ unit.le)
      exact_mod_cast (normal coarse).2
  · intro bound representable upper
    rw [value]
    rcases representable.multiple_or_small target with ⟨count, rfl⟩ | ⟨coarse, small⟩
    · have next : (rounded : Int) < count + 1 := by
        have reach : (rounded : Rat) * 2 ^ target < (count + 1) * 2 ^ target := by
          rw [add_mul, one_mul]
          exact below.trans_le (by gcongr)
        exact_mod_cast lt_of_mul_lt_mul_right reach unit.le
      exact mul_le_mul_of_nonneg_right (by exact_mod_cast Int.lt_add_one_iff.mp next) unit.le
    · exact absurd ((normal coarse).1.trans upper) (not_le.mpr small)

theorem rounds_roundWithAccuracy (sign : Sign) {significand : Nat} {exponent : Int}
    (positive : 0 < significand) (fine : IsFine significand exponent) :
    Rounds (sign.apply significand * (2 : Rat) ^ exponent)
      (roundWithAccuracy Format.binary64 sign significand exponent .exact) := by
  have rounds := rounds_positive positive fine
  cases sign with
  | positive => exact rounds
  | negative =>
      change Rounds ((-(significand : Int) : Int) * (2 : Rat) ^ exponent)
        (roundWithAccuracy Format.binary64 (-.positive) significand exponent .exact)
      rw [roundWithAccuracy_neg, Int.cast_neg, Int.cast_natCast, neg_mul]
      exact rounds_neg rounds

theorem log2_shiftLeft {significand : Nat} (positive : 0 < significand) (shift : Nat) :
    (significand <<< shift).log2 = significand.log2 + shift := by
  have filled : significand <<< shift ≠ 0 := by
    rw [Nat.shiftLeft_eq]
    exact (Nat.mul_pos positive (Nat.two_pow_pos shift)).ne'
  rw [Nat.log2_eq_iff filled, Nat.shiftLeft_eq, Nat.add_right_comm, pow_add, pow_add]
  exact ⟨Nat.mul_le_mul_right _ (Nat.log2_self_le positive.ne'),
    Nat.mul_lt_mul_of_pos_right Nat.lt_log2_self (Nat.two_pow_pos shift)⟩

/-- A finer exponent goes with a larger significand. -/
theorem apply_shiftLeft (sign : Sign) (significand shift : Nat) (exponent : Int) :
    (sign.apply (significand <<< shift : Nat) : Rat) * 2 ^ (exponent - shift) =
      sign.apply significand * (2 : Rat) ^ exponent := by
  have split : (2 : Rat) ^ exponent = 2 ^ (exponent - shift) * 2 ^ shift := by
    rw [← zpow_natCast, ← zpow_add₀ (by norm_num), Int.sub_add_cancel]
  have turned : sign.apply (significand <<< shift : Nat) = sign.apply significand * 2 ^ shift := by
    rw [Nat.shiftLeft_eq]
    cases sign with
    | negative =>
        change -((significand * 2 ^ shift : Nat) : Int) = -(significand : Int) * 2 ^ shift
        push_cast
        ring
    | positive =>
        change ((significand * 2 ^ shift : Nat) : Int) = (significand : Int) * 2 ^ shift
        push_cast
        ring
  rw [turned, split]
  push_cast
  ring

/-- Rounding makes a significand fine enough first, which does not change the number. -/
theorem rounds_round (sign : Sign) {significand : Nat} (positive : 0 < significand)
    (exponent : Int) :
    Rounds (sign.apply significand * (2 : Rat) ^ exponent)
      (UnpackedFloat.round Format.binary64 sign significand exponent) := by
  unfold UnpackedFloat.round decreaseExponent
  simp only
  set target := Format.binary64.targetExponent (totalExponent significand exponent) with chosen
  obtain ⟨shift, distance⟩ : ∃ shift : Nat, (exponent - target).toNat = shift := ⟨_, rfl⟩
  rw [distance, ← apply_shiftLeft sign significand shift exponent]
  have fine : IsFine (significand <<< shift) (exponent - shift) := by
    have total : totalExponent (significand <<< shift) (exponent - shift) =
        totalExponent significand exponent := by
      unfold totalExponent
      rw [log2_shiftLeft positive]
      omega
    rw [isFine_iff, total]
    omega
  have filled : 0 < significand <<< shift := by
    rw [Nat.shiftLeft_eq]
    positivity
  exact rounds_roundWithAccuracy sign filled fine

theorem rounds_normalize (significand exponent : Int) (zeroSign : Sign) :
    Rounds (significand * (2 : Rat) ^ exponent)
      (UnpackedFloat.normalize Format.binary64 significand exponent zeroSign) := by
  unfold UnpackedFloat.normalize
  split
  · rename_i negative
    have below : significand < 0 := Int.compare_eq_lt.mp negative
    have same : significand = Sign.negative.apply ((-significand).toNat : Int) := by
      change significand = -((-significand).toNat : Int)
      omega
    nth_rewrite 1 [same]
    exact rounds_round .negative (by omega) exponent
  · rename_i zero
    have none : significand = 0 := Int.compare_eq_eq.mp zero
    rw [none, Int.cast_zero, zero_mul]
    exact rounds_zero zeroSign
  · rename_i positive
    have above : 0 < significand := Int.compare_eq_gt.mp positive
    have same : significand = Sign.positive.apply (significand.toNat : Int) := by
      change significand = (significand.toNat : Int)
      omega
    nth_rewrite 1 [same]
    exact rounds_round .positive (by omega) exponent

end Rounding

section Arithmetic

variable {first second : UnpackedFloat}

theorem apply_decreaseExponent (sign : Sign) (significand : Nat) {exponent target : Int}
    (lower : target ≤ exponent) :
    (sign.apply (decreaseExponent significand exponent target).1 : Rat) * 2 ^ target =
      sign.apply significand * (2 : Rat) ^ exponent := by
  obtain ⟨shift, distance⟩ : ∃ shift : Nat, (exponent - target).toNat = shift := ⟨_, rfl⟩
  unfold decreaseExponent
  rw [distance, show target = exponent - shift by omega]
  exact apply_shiftLeft sign significand shift exponent

/-- The sum of two numbers is that of their significands over the smaller exponent. -/
theorem rounds_add (firstTidy : IsTidy first) (secondTidy : IsTidy second) :
    Rounds (unpackedValue first + unpackedValue second)
      (UnpackedFloat.add Format.binary64 first second) := by
  cases first with
  | notANumber => exact firstTidy.elim
  | infinity sign => exact firstTidy.elim
  | zero sign =>
      change Rounds (0 + unpackedValue second) _
      rw [zero_add]
      cases second with
      | notANumber => exact secondTidy.elim
      | infinity other => exact secondTidy.elim
      | zero other =>
          cases sign with
          | negative => cases other <;> exact rounds_zero _
          | positive => cases other <;> exact rounds_zero _
      | finite other significand exponent filled => exact rounds_self secondTidy
  | finite sign significand exponent filled =>
      cases second with
      | notANumber => exact secondTidy.elim
      | infinity other => exact secondTidy.elim
      | zero other =>
          change Rounds (_ + 0) _
          rw [add_zero]
          exact rounds_self firstTidy
      | finite other otherSignificand otherExponent otherFilled =>
          have sum := rounds_normalize
            (sign.apply (decreaseExponent significand exponent (min exponent otherExponent)).1 +
              other.apply (decreaseExponent otherSignificand otherExponent
                (min exponent otherExponent)).1)
            (min exponent otherExponent) .positive
          rw [Int.cast_add, add_mul, apply_decreaseExponent sign significand (min_le_left _ _),
            apply_decreaseExponent other otherSignificand (min_le_right _ _)] at sum
          exact sum

/-- The product of two significands is fine enough, since one of them fills all of its bits or
both have the least exponent. -/
theorem isFine_mul {significand otherSignificand : Nat} {exponent otherExponent : Int}
    (first : IsCanonical significand exponent) (second : IsCanonical otherSignificand otherExponent) :
    IsFine (significand * otherSignificand) (exponent + otherExponent) := by
  have firstPositive := first.positive
  have secondPositive := second.positive
  have firstLeast := first.least
  have secondLeast := second.least
  by_cases subnormal : exponent = leastExponent ∧ otherExponent = leastExponent
  · refine Or.inl ?_
    rw [subnormal.1, subnormal.2]
    decide
  · have large : 2 ^ 52 ≤ significand * otherSignificand := by
      by_cases normal : leastExponent < exponent
      · exact (first.normal normal).trans (Nat.le_mul_of_pos_right _ secondPositive)
      · exact (second.normal (by omega)).trans (Nat.le_mul_of_pos_left _ firstPositive)
    have bits : 52 ≤ (significand * otherSignificand).log2 :=
      (Nat.le_log2 (Nat.mul_pos firstPositive secondPositive).ne').mpr large
    refine Or.inr ?_
    unfold totalExponent
    omega

theorem apply_mul_apply (sign other : Sign) (significand otherSignificand : Nat) :
    ((sign * other).apply (significand * otherSignificand : Nat) : Int) =
      sign.apply significand * other.apply otherSignificand := by
  cases sign with
  | negative =>
      cases other with
      | negative => exact (Int.neg_mul_neg significand otherSignificand).symm
      | positive => exact (Int.neg_mul significand otherSignificand).symm
  | positive =>
      cases other with
      | negative => exact (Int.mul_neg significand otherSignificand).symm
      | positive => rfl

theorem rounds_mul (firstTidy : IsTidy first) (secondTidy : IsTidy second) :
    Rounds (unpackedValue first * unpackedValue second)
      (UnpackedFloat.mul Format.binary64 first second) := by
  cases first with
  | notANumber => exact firstTidy.elim
  | infinity sign => exact firstTidy.elim
  | zero sign =>
      change Rounds (0 * _) _
      rw [zero_mul]
      cases second with
      | notANumber => exact secondTidy.elim
      | infinity other => exact secondTidy.elim
      | zero other => exact rounds_zero _
      | finite other significand exponent filled => exact rounds_zero _
  | finite sign significand exponent filled =>
      cases second with
      | notANumber => exact secondTidy.elim
      | infinity other => exact secondTidy.elim
      | zero other =>
          change Rounds (_ * 0) _
          rw [mul_zero]
          exact rounds_zero _
      | finite other otherSignificand otherExponent otherFilled =>
          have product := rounds_roundWithAccuracy (sign * other)
            (Nat.mul_pos filled otherFilled) (isFine_mul firstTidy secondTidy)
          rw [apply_mul_apply, zpow_add₀ (by norm_num), Int.cast_mul, mul_mul_mul_comm] at product
          exact product

end Arithmetic

end HingeField.Doubles
