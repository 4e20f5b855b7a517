import HingeField.Proofs.Magnitude
import HingeField.Scalar

/-!
Sums of doubles in which nothing is rounded. Doubles lie on a grid if each is a
multiple of one power of two and their magnitudes together stay below the
significands that a double has over it. Main statement: such doubles have the
same sum in every order, to the last bit.
-/

namespace HingeField.Doubles

open Decimal (IsCanonical leastExponent leastNormal)
open Float.Model
open Float.Model.UnpackedFloat

section Plain

/-- A finite double other than the negative zero. -/
def IsPlain (x : Float) : Prop :=
  IsFinite x ∧ x.toModel.unpack ≠ .zero .negative

theorem isPlain_of_ne_zero {x : Float} (finite : IsFinite x) (nonzero : exactValue x ≠ 0) :
    IsPlain x := by
  refine ⟨finite, fun zero => nonzero ?_⟩
  rw [exactValue, zero]
  rfl

theorem unpackedValue_finite_ne_zero (sign : Sign) {significand : Nat} {exponent : Int}
    (filled : 0 < significand) : unpackedValue (.finite sign significand exponent filled) ≠ 0 := by
  have unit : (0 : Rat) < significand * 2 ^ exponent := by positivity
  cases sign with
  | negative =>
      rw [unpackedValue_negative]
      exact (neg_neg_of_pos unit).ne
  | positive => exact unit.ne'

/-- Apart from the zeros, tidy numbers with one value are the same. -/
theorem eq_of_unpackedValue {first second : UnpackedFloat} (firstTidy : IsTidy first)
    (secondTidy : IsTidy second) (firstSigned : first ≠ .zero .negative)
    (secondSigned : second ≠ .zero .negative)
    (same : unpackedValue first = unpackedValue second) : first = second := by
  have compared := compare_eq firstTidy secondTidy
  rw [compare_eq_iff_eq.mpr same] at compared
  cases first with
  | notANumber => exact firstTidy.elim
  | infinity sign => exact firstTidy.elim
  | zero sign =>
      cases second with
      | notANumber => exact secondTidy.elim
      | infinity other => exact secondTidy.elim
      | zero other =>
          cases sign with
          | negative => exact absurd rfl firstSigned
          | positive =>
              cases other with
              | negative => exact absurd rfl secondSigned
              | positive => rfl
      | finite other significand exponent filled =>
          exact absurd same.symm (unpackedValue_finite_ne_zero other filled)
  | finite sign significand exponent filled =>
      cases second with
      | notANumber => exact secondTidy.elim
      | infinity other => exact secondTidy.elim
      | zero other => exact absurd same (unpackedValue_finite_ne_zero sign filled)
      | finite other otherSignificand otherExponent otherFilled =>
          have parts : ∀ {low high : Int} {few many : Nat},
              (compare low high).then (compare few many) = .eq → low = high ∧ few = many := by
            intro low high few many equal
            obtain ⟨sameExponent, sameSignificand⟩ := Ordering.then_eq_eq.mp equal
            exact ⟨compare_eq_iff_eq.mp sameExponent, compare_eq_iff_eq.mp sameSignificand⟩
          cases sign with
          | negative =>
              cases other with
              | negative =>
                  obtain ⟨rfl, rfl⟩ := parts (Ordering.swap_eq_eq.mp (Option.some.inj compared))
                  rfl
              | positive => cases compared
          | positive =>
              cases other with
              | negative => cases compared
              | positive =>
                  obtain ⟨rfl, rfl⟩ := parts (Option.some.inj compared)
                  rfl

theorem IsFinite.ne_notANumber {x : Float} (finite : IsFinite x) :
    x.toModel.unpack ≠ .notANumber := by
  intro undefined
  unfold IsFinite at finite
  rw [undefined] at finite
  exact finite

theorem eq_of_unpack {x y : Float} (number : x.toModel.unpack ≠ .notANumber)
    (same : x.toModel.unpack = y.toModel.unpack) : x = y := by
  have models := congrArg Float.Model.pack same
  rw [pack_unpack number, pack_unpack (same ▸ number)] at models
  cases x
  cases y
  cases models
  rfl

theorem eq_of_exactValue {x y : Float} (xPlain : IsPlain x) (yPlain : IsPlain y)
    (same : exactValue x = exactValue y) : x = y :=
  eq_of_unpack xPlain.1.ne_notANumber
    (eq_of_unpackedValue xPlain.1 yPlain.1 xPlain.2 yPlain.2 same)

/-- What equals a finite double is finite and has the same exact value. -/
theorem beq_iff {x y : Float} (yFinite : IsFinite y) :
    (x == y) = true ↔ IsFinite x ∧ exactValue x = exactValue y := by
  change (x.toModel.unpack.compare y.toModel.unpack == some .eq) = true ↔ _
  rw [beq_iff_eq]
  rcases unpack_cases x with undefined | ⟨sign, infinite⟩ | xFinite
  · refine iff_of_false ?_ fun claimed => claimed.1.ne_notANumber undefined
    rw [undefined]
    exact nofun
  · refine iff_of_false ?_ ?_
    · rw [infinite]
      cases sign with
      | negative =>
          rw [compare_negative_infinity yFinite]
          exact nofun
      | positive =>
          rw [compare_infinity yFinite]
          exact nofun
    · rintro ⟨finite, _⟩
      unfold IsFinite at finite
      rw [infinite] at finite
      exact finite
  · rw [compare_eq xFinite yFinite, Option.some.injEq, compare_eq_iff_eq]
    exact ⟨fun same => ⟨xFinite, same⟩, fun claimed => claimed.2⟩

theorem beq_zero_iff {x : Float} : (x == 0.0) = true ↔ x = 0.0 ∨ x = -0.0 := by
  constructor
  · intro equal
    obtain ⟨finite, value⟩ := (beq_iff isFinite_zero).mp equal
    cases unpacked : x.toModel.unpack with
    | zero sign =>
        have number : x.toModel.unpack ≠ .notANumber := finite.ne_notANumber
        cases sign with
        | positive => exact Or.inl (eq_of_unpack number unpacked)
        | negative => exact Or.inr (eq_of_unpack number unpacked)
    | finite sign significand exponent filled =>
        rw [exactValue_zero, exactValue, unpacked] at value
        exact absurd value (unpackedValue_finite_ne_zero sign filled)
    | notANumber => exact absurd unpacked finite.ne_notANumber
    | infinity sign =>
        unfold IsFinite at finite
        rw [unpacked] at finite
        exact finite.elim
  · rintro (rfl | rfl)
    · decide
    · decide

theorem beq_one_iff {x : Float} : (x == 1.0) = true ↔ x = 1.0 := by
  constructor
  · intro equal
    obtain ⟨finite, value⟩ := (beq_iff isFinite_one).mp equal
    have nonzero : exactValue 1.0 ≠ 0 := by
      rw [exactValue_one]
      exact one_ne_zero
    exact eq_of_exactValue (isPlain_of_ne_zero finite (value ▸ nonzero))
      (isPlain_of_ne_zero isFinite_one nonzero) value
  · rintro rfl
    decide

/-- Adding to a number other than the negative zero never gives it, unless the sum is rounded. -/
theorem add_ne_negative_zero {first second : UnpackedFloat} (firstTidy : IsTidy first)
    (secondTidy : IsTidy second) (signed : first ≠ .zero .negative)
    (exact : unpackedValue (UnpackedFloat.add Format.binary64 first second) =
      unpackedValue first + unpackedValue second) :
    UnpackedFloat.add Format.binary64 first second ≠ .zero .negative := by
  intro zero
  rw [zero] at exact
  cases first with
  | notANumber => exact firstTidy
  | infinity sign => exact firstTidy
  | zero sign =>
      cases sign with
      | negative => exact signed rfl
      | positive =>
          cases second with
          | notANumber => exact secondTidy
          | infinity other => exact secondTidy
          | zero other => cases other <;> cases zero
          | finite other significand exponent filled => cases zero
  | finite sign significand exponent filled =>
      cases second with
      | notANumber => exact secondTidy
      | infinity other => exact secondTidy
      | zero other => cases zero
      | finite other otherSignificand otherExponent otherFilled =>
          have unit : (2 : Rat) ^ min exponent otherExponent ≠ 0 := by positivity
          -- only a vanishing sum of significands is exactly zero, and that one is positive
          have total : (sign.apply (decreaseExponent significand exponent
                  (min exponent otherExponent)).1 +
                other.apply (decreaseExponent otherSignificand otherExponent
                  (min exponent otherExponent)).1 : Int) = 0 := by
            have sum : (0 : Rat) = sign.apply significand * (2 : Rat) ^ exponent +
                other.apply otherSignificand * (2 : Rat) ^ otherExponent := exact
            rw [← apply_decreaseExponent sign significand (min_le_left exponent otherExponent),
              ← apply_decreaseExponent other otherSignificand
                (min_le_right exponent otherExponent), ← add_mul] at sum
            exact_mod_cast (mul_eq_zero.mp sum.symm).resolve_right unit
          have sum : UnpackedFloat.add Format.binary64 (.finite sign significand exponent filled)
              (.finite other otherSignificand otherExponent otherFilled) =
                UnpackedFloat.normalize Format.binary64
                  (sign.apply (decreaseExponent significand exponent
                      (min exponent otherExponent)).1 +
                    other.apply (decreaseExponent otherSignificand otherExponent
                      (min exponent otherExponent)).1)
                  (min exponent otherExponent) .positive := rfl
          rw [sum, total] at zero
          cases zero

theorem add_of_held {x y : Float} (xPlain : IsPlain x) (yFinite : IsFinite y)
    (held : IsHeld (exactValue x + exactValue y)) :
    IsPlain (x + y) ∧ exactValue (x + y) = exactValue x + exactValue y := by
  have rounds := rounds_add xPlain.1 yFinite
  have sum : (x + y).toModel.unpack =
      UnpackedFloat.add Format.binary64 x.toModel.unpack y.toModel.unpack :=
    (rounds.packed held held le_rfl le_rfl).1
  have exact := rounds.eq_of_representable held.representable
  refine ⟨⟨?_, ?_⟩, ?_⟩
  · unfold IsFinite
    rw [sum]
    exact rounds.tidy
  · rw [sum]
    exact add_ne_negative_zero xPlain.1 yFinite xPlain.2 exact
  · unfold exactValue at exact ⊢
    rw [sum]
    exact exact

end Plain

section Grid

/-- The magnitude below which every multiple of a power of two is a double. -/
def reach (exponent : Int) : Rat :=
  2 * leastNormal * (2 : Rat) ^ exponent

/-- Multiples of one power of two, with magnitudes that together stay below its reach. -/
structure OnGrid (exponent : Int) (values : List Float) : Prop where
  least : leastExponent ≤ exponent
  largest : exponent ≤ 971
  finite : ∀ value ∈ values, IsFinite value
  whole : ∀ value ∈ values, ∃ count : Int, exactValue value = count * (2 : Rat) ^ exponent
  small : (values.map fun value => |exactValue value|).sum < reach exponent

variable {exponent : Int} {values others : List Float}

theorem OnGrid.of_perm (onGrid : OnGrid exponent values) (perm : values.Perm others) :
    OnGrid exponent others := by
  refine ⟨onGrid.least, onGrid.largest, ?_, ?_, ?_⟩
  · exact fun value member => onGrid.finite value (perm.mem_iff.mpr member)
  · exact fun value member => onGrid.whole value (perm.mem_iff.mpr member)
  · rw [← (perm.map fun value => |exactValue value|).sum_eq]
    exact onGrid.small

theorem isHeld_of_whole (least : leastExponent ≤ exponent) (largest : exponent ≤ 971)
    {count : Int} (small : |(count * (2 : Rat) ^ exponent)| < reach exponent) :
    IsHeld (count * (2 : Rat) ^ exponent) := by
  have unit : (0 : Rat) < 2 ^ exponent := by positivity
  have bounded : (count.natAbs : Rat) < 2 * leastNormal := by
    rw [abs_mul, abs_of_pos unit] at small
    rw [Nat.cast_natAbs, Int.cast_abs]
    exact lt_of_mul_lt_mul_right small unit.le
  have inRange : reach exponent ≤ ceiling := by
    have powers : (2 : Rat) ^ exponent * 2 ≤ 2 ^ (972 : Int) := by
      rw [← zpow_add_one₀ (by norm_num)]
      exact zpow_le_zpow_right₀ (by norm_num) (by omega)
    calc reach exponent = leastNormal * (2 ^ exponent * 2) := by unfold reach; ring
      _ ≤ ceiling := mul_le_mul_of_nonneg_left powers (Nat.cast_nonneg _)
  obtain ⟨low, high⟩ := abs_lt.mp (small.trans_le inRange)
  exact ⟨⟨count, exponent, by exact_mod_cast bounded, least, rfl⟩, low, high⟩

/-- On a grid nothing is rounded on the way to a sum. -/
theorem OnGrid.foldl_add (onGrid : OnGrid exponent values) {start : Float} (plain : IsPlain start)
    {count : Int} (whole : exactValue start = count * (2 : Rat) ^ exponent)
    (small : |exactValue start| + (values.map fun value => |exactValue value|).sum <
      reach exponent) :
    IsPlain (values.foldl (· + ·) start) ∧
      exactValue (values.foldl (· + ·) start) =
        exactValue start + (values.map exactValue).sum := by
  induction values generalizing start count with
  | nil => exact ⟨plain, by rw [List.map_nil, List.sum_nil, add_zero]; rfl⟩
  | cons value values ih =>
      obtain ⟨step, stepWhole⟩ := onGrid.whole value List.mem_cons_self
      rw [List.map_cons, List.sum_cons, ← add_assoc] at small
      have apart := abs_add_le (exactValue start) (exactValue value)
      have rest : 0 ≤ (values.map fun value => |exactValue value|).sum := by
        apply List.sum_nonneg
        intro magnitude member
        obtain ⟨other, _, rfl⟩ := List.mem_map.mp member
        exact abs_nonneg _
      have total : exactValue start + exactValue value =
          ((count + step : Int) : Rat) * (2 : Rat) ^ exponent := by
        rw [whole, stepWhole, Int.cast_add, add_mul]
      have held : IsHeld (exactValue start + exactValue value) := by
        rw [total]
        apply isHeld_of_whole onGrid.least onGrid.largest
        rw [← total]
        linarith
      obtain ⟨sumPlain, sum⟩ := add_of_held plain (onGrid.finite value List.mem_cons_self) held
      have remaining : OnGrid exponent values := by
        refine ⟨onGrid.least, onGrid.largest, ?_, ?_, ?_⟩
        · exact fun other member => onGrid.finite other (List.mem_cons_of_mem value member)
        · exact fun other member => onGrid.whole other (List.mem_cons_of_mem value member)
        · have nonneg := abs_nonneg (exactValue start)
          have nonnegValue := abs_nonneg (exactValue value)
          linarith
      rw [← sum] at total apart
      obtain ⟨finishPlain, finish⟩ := ih remaining sumPlain total (by linarith)
      refine ⟨finishPlain, ?_⟩
      rw [List.foldl_cons, finish, sum, List.map_cons, List.sum_cons, add_assoc]

theorem OnGrid.sum (onGrid : OnGrid exponent values) :
    IsPlain (Scalar.sum values) ∧
      exactValue (Scalar.sum values) = (values.map exactValue).sum := by
  have zero : exactValue (Scalar.zero : Float) = 0 := exactValue_zero
  have plain : IsPlain (Scalar.zero : Float) := by
    have stored : (Scalar.zero : Float).toModel.unpack = .zero .positive := rfl
    refine ⟨isFinite_zero, ?_⟩
    rw [stored]
    intro impossible
    cases impossible
  obtain ⟨sumPlain, sum⟩ := onGrid.foldl_add plain
    (show exactValue (Scalar.zero : Float) = (0 : Int) * (2 : Rat) ^ exponent by
      rw [zero, Int.cast_zero, zero_mul])
    (by rw [zero, abs_zero, zero_add]; exact onGrid.small)
  rw [zero, zero_add] at sum
  exact ⟨sumPlain, sum⟩

theorem OnGrid.sum_eq_of_perm (onGrid : OnGrid exponent values) (perm : values.Perm others) :
    Scalar.sum others = Scalar.sum values := by
  obtain ⟨plain, exact⟩ := onGrid.sum
  obtain ⟨otherPlain, otherExact⟩ := (onGrid.of_perm perm).sum
  apply eq_of_exactValue otherPlain plain
  rw [exact, otherExact]
  exact (perm.symm.map exactValue).sum_eq

end Grid

end HingeField.Doubles
