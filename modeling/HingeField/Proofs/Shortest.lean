import HingeField.Decimal.Shortest
import Mathlib

/-!
The rounding intervals of doubles, and the decimals that are found in them.
Main statements: the intervals of two positive doubles have no number in
common, and the shortest decimal of a double lies in its interval, since among
the grids that are searched there is one finer than the interval is wide.
-/

namespace HingeField.Decimal

/-- The number that a decimal stands for. -/
def Digits.number (digits : Digits) : Rat :=
  digits.value * (10 : Rat) ^ digits.exponent

/-- A significand and an exponent of a positive double, of which only the smallest are not
normal. -/
structure IsCanonical (significand : Nat) (exponent : Int) : Prop where
  positive : 0 < significand
  bounded : significand < 2 * leastNormal
  least : leastExponent ≤ exponent
  normal : leastExponent < exponent → leastNormal ≤ significand

section Powers

theorem zpow_mul_pow_toNat (base : Rat) (nonzero : base ≠ 0) (exponent : Int) :
    base ^ exponent * base ^ (-exponent).toNat = base ^ exponent.toNat := by
  rw [← zpow_natCast, ← zpow_natCast, ← zpow_add₀ nonzero]
  congr 1
  omega

end Powers

namespace RoundingInterval

variable {interval : RoundingInterval} {value : Rat} {exponent : Int} {digits : Nat}

/-- A number is in an interval; the ends are if it is closed. -/
structure Holds (interval : RoundingInterval) (value : Rat) : Prop where
  low : interval.low ≤ value * interval.denominator
  high : value * interval.denominator ≤ interval.high
  inner : interval.closed = false →
    interval.low < value * interval.denominator ∧ value * interval.denominator < interval.high

section Grids

variable (interval) (exponent)

/-- Numerators on a grid are multiplied by this, so that they are whole. -/
def gridFactor : Nat := Nat.pow 10 (-exponent).toNat

/-- The spacing of a grid in numerators. -/
def gridUnit : Nat := interval.denominator * Nat.pow 10 exponent.toNat

/-- The test for a point of a grid. -/
def inside (n : Nat) : Bool :=
  let factor := gridFactor exponent
  let unit := interval.gridUnit exponent
  if interval.closed then
    interval.low * factor ≤ n * unit && n * unit ≤ interval.high * factor
  else interval.low * factor < n * unit && n * unit < interval.high * factor

theorem onGrid_eq :
    interval.onGrid exponent =
      let below := interval.mid * gridFactor exponent / interval.gridUnit exponent
      let rest := interval.mid * gridFactor exponent % interval.gridUnit exponent
      match interval.inside exponent below, interval.inside exponent (below + 1) with
      | true, true =>
          if 2 * rest < interval.gridUnit exponent ∨
              (2 * rest = interval.gridUnit exponent ∧ below % 2 = 0) then some below
          else some (below + 1)
      | true, false => some below
      | false, true => some (below + 1)
      | false, false => none :=
  rfl

variable {interval} {exponent}

theorem gridFactor_pos : 0 < gridFactor exponent :=
  Nat.pow_pos (by decide)

theorem mul_gridUnit (interval : RoundingInterval) (exponent : Int) (digits : Nat) :
    (digits : Rat) * interval.gridUnit exponent =
      (digits * (10 : Rat) ^ exponent * interval.denominator) * gridFactor exponent := by
  have scaled := zpow_mul_pow_toNat 10 (by norm_num) exponent
  unfold gridUnit gridFactor
  simp only [Nat.pow_eq, Nat.cast_mul, Nat.cast_pow, Nat.cast_ofNat]
  rw [← scaled]
  ring

/-- The test tells the points of the grid that are in the interval. -/
theorem holds_of_inside (accepted : interval.inside exponent digits = true) :
    interval.Holds (digits * (10 : Rat) ^ exponent) := by
  have positive : (0 : Rat) < gridFactor exponent := by exact_mod_cast gridFactor_pos
  have scaled := mul_gridUnit interval exponent digits
  unfold inside at accepted
  cases closed : interval.closed with
  | true =>
      rw [closed, if_pos rfl, Bool.and_eq_true, decide_eq_true_eq, decide_eq_true_eq] at accepted
      obtain ⟨low, high⟩ := accepted
      have lowCast : (interval.low : Rat) * gridFactor exponent ≤
          digits * interval.gridUnit exponent := by exact_mod_cast low
      have highCast : (digits : Rat) * interval.gridUnit exponent ≤
          interval.high * gridFactor exponent := by exact_mod_cast high
      rw [scaled] at lowCast highCast
      refine ⟨le_of_mul_le_mul_right lowCast positive, le_of_mul_le_mul_right highCast positive, ?_⟩
      intro impossible
      rw [closed] at impossible
      cases impossible
  | false =>
      rw [closed, if_neg Bool.false_ne_true, Bool.and_eq_true, decide_eq_true_eq,
        decide_eq_true_eq] at accepted
      obtain ⟨low, high⟩ := accepted
      have lowCast : (interval.low : Rat) * gridFactor exponent <
          digits * interval.gridUnit exponent := by exact_mod_cast low
      have highCast : (digits : Rat) * interval.gridUnit exponent <
          interval.high * gridFactor exponent := by exact_mod_cast high
      rw [scaled] at lowCast highCast
      have above := lt_of_mul_lt_mul_right lowCast positive.le
      have below := lt_of_mul_lt_mul_right highCast positive.le
      exact ⟨above.le, below.le, fun _ => ⟨above, below⟩⟩

theorem inside_of_onGrid (found : interval.onGrid exponent = some digits) :
    interval.inside exponent digits = true := by
  rw [onGrid_eq] at found
  dsimp only at found
  split at found
  · split at found
    · cases found
      assumption
    · cases found
      assumption
  · cases found
    assumption
  · cases found
    assumption
  · cases found

/-- A grid finer than the interval is wide has a point in it. -/
theorem exists_onGrid (below : interval.low < interval.mid) (above : interval.mid < interval.high)
    (unitPos : 0 < interval.gridUnit exponent)
    (fine : interval.gridUnit exponent + interval.low * gridFactor exponent <
      interval.high * gridFactor exponent) :
    ∃ digits, interval.onGrid exponent = some digits := by
  have positive : 0 < gridFactor exponent := gridFactor_pos
  have lowMid := Nat.mul_lt_mul_of_pos_right below positive
  have midHigh := Nat.mul_lt_mul_of_pos_right above positive
  have split := Nat.div_add_mod' (interval.mid * gridFactor exponent) (interval.gridUnit exponent)
  have rest := Nat.mod_lt (interval.mid * gridFactor exponent) unitPos
  have next : (interval.mid * gridFactor exponent / interval.gridUnit exponent + 1) *
      interval.gridUnit exponent =
        interval.mid * gridFactor exponent / interval.gridUnit exponent *
          interval.gridUnit exponent + interval.gridUnit exponent := Nat.succ_mul _ _
  rw [onGrid_eq]
  dsimp only
  generalize interval.mid * gridFactor exponent / interval.gridUnit exponent = point at *
  cases first : interval.inside exponent point with
  | true =>
      cases interval.inside exponent (point + 1) with
      | true =>
          dsimp only
          split
          · exact ⟨_, rfl⟩
          · exact ⟨_, rfl⟩
      | false => exact ⟨_, rfl⟩
  | false =>
      cases second : interval.inside exponent (point + 1) with
      | true => exact ⟨_, rfl⟩
      | false =>
          -- otherwise the interval would lie between two neighbours on the grid
          exfalso
          unfold inside at first second
          cases closed : interval.closed with
          | true =>
              simp only [closed, if_true, Bool.and_eq_false_iff, decide_eq_false_iff_not] at first
              simp only [closed, if_true, Bool.and_eq_false_iff, decide_eq_false_iff_not] at second
              omega
          | false =>
              simp only [closed, Bool.false_eq_true, if_false, Bool.and_eq_false_iff,
                decide_eq_false_iff_not] at first
              simp only [closed, Bool.false_eq_true, if_false, Bool.and_eq_false_iff,
                decide_eq_false_iff_not] at second
              omega

end Grids

section Around

variable {significand otherSignificand : Nat} {otherExponent : Int}

/-- The distance from a double to the lower end of its interval, in quarter units. -/
def gapBelow (significand : Nat) (exponent : Int) : Nat :=
  if significand = leastNormal ∧ leastExponent < exponent then 1 else 2

theorem low_around :
    (around significand exponent).low =
      (4 * significand - gapBelow significand exponent) * 2 ^ (exponent - 2).toNat :=
  rfl

theorem mid_around :
    (around significand exponent).mid = 4 * significand * 2 ^ (exponent - 2).toNat :=
  rfl

theorem high_around :
    (around significand exponent).high = (4 * significand + 2) * 2 ^ (exponent - 2).toNat :=
  rfl

theorem denominator_around :
    (around significand exponent).denominator = 2 ^ (2 - exponent).toNat :=
  rfl

theorem closed_around :
    (around significand exponent).closed = (significand % 2 == 0) :=
  rfl

theorem denominator_around_pos : 0 < (around significand exponent).denominator :=
  Nat.two_pow_pos _

theorem gapBelow_le : gapBelow significand exponent ≤ 2 := by
  unfold gapBelow
  split
  · decide
  · decide

theorem gapBelow_pos (significand : Nat) (exponent : Int) :
    0 < gapBelow significand exponent := by
  unfold gapBelow
  split
  · decide
  · decide

theorem low_around_pos (canonical : IsCanonical significand exponent) :
    0 < (around significand exponent).low := by
  have gap : gapBelow significand exponent ≤ 2 := gapBelow_le
  have positive := canonical.positive
  rw [low_around]
  exact Nat.mul_pos (by omega) (Nat.two_pow_pos _)

theorem low_around_lt_mid (positive : 0 < significand) :
    (around significand exponent).low < (around significand exponent).mid := by
  rw [low_around, mid_around]
  have gap := gapBelow_pos significand exponent
  exact Nat.mul_lt_mul_of_pos_right (by omega) (Nat.two_pow_pos _)

theorem mid_around_lt_high :
    (around significand exponent).mid < (around significand exponent).high := by
  rw [mid_around, high_around]
  exact Nat.mul_lt_mul_of_pos_right (by omega) (Nat.two_pow_pos _)

/-- The interval in quarter units of the last place. -/
theorem quarters_of_holds {quarters : Rat}
    (holds : (around significand exponent).Holds (quarters * (2 : Rat) ^ (exponent - 2))) :
    ((4 * significand - gapBelow significand exponent : Nat) : Rat) ≤ quarters ∧
      quarters ≤ (4 * significand + 2 : Nat) ∧
      (significand % 2 = 1 →
        ((4 * significand - gapBelow significand exponent : Nat) : Rat) < quarters ∧
          quarters < (4 * significand + 2 : Nat)) := by
  have positive : (0 : Rat) < 2 ^ (exponent - 2).toNat := by positivity
  have scaled : quarters * (2 : Rat) ^ (exponent - 2) *
      (around significand exponent).denominator = quarters * 2 ^ (exponent - 2).toNat := by
    have opposite : 2 - exponent = -(exponent - 2) := by omega
    rw [denominator_around, opposite, Nat.cast_pow, Nat.cast_ofNat, mul_assoc,
      zpow_mul_pow_toNat 2 (by norm_num)]
  obtain ⟨low, high, inner⟩ := holds
  rw [scaled, low_around, Nat.cast_mul, Nat.cast_pow, Nat.cast_ofNat] at low
  rw [scaled, high_around, Nat.cast_mul, Nat.cast_pow, Nat.cast_ofNat] at high
  refine ⟨le_of_mul_le_mul_right low positive, le_of_mul_le_mul_right high positive, ?_⟩
  intro odd
  have opened : (around significand exponent).closed = false := by
    rw [closed_around, odd]
    rfl
  obtain ⟨above, below⟩ := inner opened
  rw [scaled, low_around, Nat.cast_mul, Nat.cast_pow, Nat.cast_ofNat] at above
  rw [scaled, high_around, Nat.cast_mul, Nat.cast_pow, Nat.cast_ofNat] at below
  exact ⟨lt_of_mul_lt_mul_right above positive.le, lt_of_mul_lt_mul_right below positive.le⟩

/-- One interval ends where a later one begins, at the most, and then one of them is open. -/
theorem quarters_separated (first : IsCanonical significand exponent)
    (second : IsCanonical otherSignificand otherExponent) {shift : Nat}
    (later : otherExponent = exponent + shift)
    (less : shift = 0 → significand < otherSignificand) :
    4 * significand + 2 <
        (4 * otherSignificand - gapBelow otherSignificand otherExponent) * 2 ^ shift ∨
      4 * significand + 2 =
          (4 * otherSignificand - gapBelow otherSignificand otherExponent) * 2 ^ shift ∧
        (significand % 2 = 1 ∨ otherSignificand % 2 = 1) := by
  have gap : gapBelow otherSignificand otherExponent ≤ 2 := gapBelow_le
  have bounded := first.bounded
  cases shift with
  | zero =>
      have less := less rfl
      rw [Nat.pow_zero, Nat.mul_one]
      omega
  | succ shift =>
      have beyond : leastExponent < otherExponent := by
        have least := first.least
        omega
      have normal := second.normal beyond
      have power : 2 ^ (shift + 1) = 2 * 2 ^ shift := by rw [Nat.pow_succ, Nat.mul_comm]
      have one : 0 < 2 ^ shift := Nat.two_pow_pos shift
      have start : 4 * leastNormal - 1 ≤
          4 * otherSignificand - gapBelow otherSignificand otherExponent := by
        unfold gapBelow
        split
        · omega
        · omega
      have reach : 4 * leastNormal - 1 ≤
          (4 * otherSignificand - gapBelow otherSignificand otherExponent) * 2 ^ shift :=
        start.trans (Nat.le_mul_of_pos_right _ one)
      have size : leastNormal = 2 ^ 52 := rfl
      rw [power, ← Nat.mul_assoc, Nat.mul_right_comm]
      omega

theorem disjoint_of_later (first : IsCanonical significand exponent)
    (second : IsCanonical otherSignificand otherExponent) (shift : Nat)
    (later : otherExponent = exponent + shift)
    (less : shift = 0 → significand < otherSignificand)
    (holds : (around significand exponent).Holds value) :
    ¬(around otherSignificand otherExponent).Holds value := by
  intro otherHolds
  have nonzero : ((2 : Rat) ^ (otherExponent - 2)) ≠ 0 := by positivity
  have counted : value = value / 2 ^ (otherExponent - 2) * 2 ^ (otherExponent - 2) :=
    (div_mul_cancel₀ value nonzero).symm
  generalize value / 2 ^ (otherExponent - 2) = quarters at counted
  have shifted : value = quarters * 2 ^ shift * (2 : Rat) ^ (exponent - 2) := by
    have apart : otherExponent - 2 = exponent - 2 + shift := by omega
    rw [counted, apart, zpow_add₀ (by norm_num), zpow_natCast]
    ring
  rw [counted] at otherHolds
  rw [shifted] at holds
  obtain ⟨_, high, below⟩ := quarters_of_holds holds
  obtain ⟨low, _, above⟩ := quarters_of_holds otherHolds
  have positive : (0 : Rat) < 2 ^ shift := by positivity
  have meets := (mul_le_mul_of_nonneg_right low positive.le).trans high
  rcases quarters_separated first second later less with apart | ⟨touch, odd | odd⟩
  · exact absurd (by exact_mod_cast meets) (Nat.not_le.mpr apart)
  · have strict := (mul_le_mul_of_nonneg_right low positive.le).trans_lt (below odd).2
    rw [touch] at strict
    push_cast at strict
    exact lt_irrefl _ strict
  · have strict := (mul_lt_mul_of_pos_right (above odd).1 positive).trans_le high
    rw [touch] at strict
    push_cast at strict
    exact lt_irrefl _ strict

/-- A number is in the interval of one double at most. -/
theorem canonical_unique (first : IsCanonical significand exponent)
    (second : IsCanonical otherSignificand otherExponent)
    (holds : (around significand exponent).Holds value)
    (otherHolds : (around otherSignificand otherExponent).Holds value) :
    significand = otherSignificand ∧ exponent = otherExponent := by
  rcases lt_trichotomy exponent otherExponent with earlier | same | later
  · exact absurd otherHolds (disjoint_of_later first second (otherExponent - exponent).toNat
      (by omega) (by omega) holds)
  · subst same
    rcases Nat.lt_trichotomy significand otherSignificand with less | same | more
    · exact absurd otherHolds
        (disjoint_of_later first second 0 (by simp) (fun _ => less) holds)
    · exact ⟨same, rfl⟩
    · exact absurd holds
        (disjoint_of_later second first 0 (by simp) (fun _ => more) otherHolds)
  · exact absurd holds (disjoint_of_later second first (exponent - otherExponent).toNat
      (by omega) (by omega) otherHolds)

/-- The interval is wider than the sixteenth decimal place of its double. -/
theorem width_around (canonical : IsCanonical significand exponent) :
    (around significand exponent).mid + (around significand exponent).low * 10 ^ 16 <
      (around significand exponent).high * 10 ^ 16 := by
  have size : leastNormal = 2 ^ 52 := rfl
  have bounded := canonical.bounded
  have positive := canonical.positive
  have quarters : 4 * significand +
      (4 * significand - gapBelow significand exponent) * 10 ^ 16 <
        (4 * significand + 2) * 10 ^ 16 := by
    unfold gapBelow
    split
    · omega
    · omega
  have scaled := Nat.mul_lt_mul_of_pos_right quarters (Nat.two_pow_pos (exponent - 2).toNat)
  rw [mid_around, low_around, high_around]
  linarith

theorem denominator_around_le (canonical : IsCanonical significand exponent) :
    ∃ shift < 330, (around significand exponent).denominator ≤
      (around significand exponent).mid * 10 ^ shift := by
  have least : -1074 ≤ exponent := canonical.least
  have positive := canonical.positive
  have short : (2 - exponent).toNat ≤ 1076 := by omega
  have filled : 0 < (around significand exponent).mid := by
    rw [mid_around]
    positivity
  refine ⟨329, by decide, ?_⟩
  rw [denominator_around]
  calc 2 ^ (2 - exponent).toNat ≤ 2 ^ 1076 := Nat.pow_le_pow_right Nat.two_pos short
    _ ≤ 10 ^ 329 := by decide +kernel
    _ ≤ (around significand exponent).mid * 10 ^ 329 := Nat.le_mul_of_pos_left _ filled

end Around

section Magnitudes

theorem pow_length_toDigits_le {number : Nat} (positive : 0 < number) :
    10 ^ ((Nat.toDigits 10 number).length - 1) ≤ number := by
  have nonempty := Nat.length_toDigits_pos (b := 10) (n := number)
  rcases Nat.eq_zero_or_pos ((Nat.toDigits 10 number).length - 1) with single | several
  · rw [single]
    exact positive
  · refine Nat.not_lt.mp fun below => ?_
    have short := (Nat.length_toDigits_le_iff (by decide) several).mpr below
    omega

/-- The magnitude is not too large. -/
theorem pow_magnitude_le (positive : 0 < interval.denominator)
    (reached : ∃ shift < 330, interval.denominator ≤ interval.mid * 10 ^ shift) :
    (10 : Rat) ^ (interval.magnitude - 1) * interval.denominator ≤ interval.mid := by
  unfold magnitude
  split
  · rename_i whole
    have quotient := pow_length_toDigits_le (Nat.div_pos whole positive)
    have nonempty := Nat.length_toDigits_pos (b := 10) (n := interval.mid / interval.denominator)
    have product := (Nat.mul_le_mul_right interval.denominator quotient).trans
      (Nat.div_mul_le_self interval.mid interval.denominator)
    generalize (Nat.toDigits 10 (interval.mid / interval.denominator)).length = length at *
    have unsigned : (length : Int) - 1 = ((length - 1 : Nat) : Int) := by omega
    rw [unsigned, zpow_natCast]
    exact_mod_cast product
  · obtain ⟨deep, bounded, reached⟩ := reached
    cases found : (List.range 330).find? fun shift =>
        decide (interval.denominator ≤ interval.mid * Nat.pow 10 shift) with
    | none =>
        have refused := List.find?_eq_none.mp found deep (List.mem_range.mpr bounded)
        exact absurd (decide_eq_true reached) refused
    | some shift =>
        have accepted := List.find?_some found
        rw [decide_eq_true_eq] at accepted
        have room : (interval.denominator : Rat) ≤ interval.mid * 10 ^ shift := by
          exact_mod_cast accepted
        have power : (0 : Rat) < 10 ^ shift := by positivity
        have negated : (1 : Int) - ((some shift).getD 330 : Nat) - 1 = -(shift : Int) := by
          rw [Option.getD_some]
          omega
        rw [negated, zpow_neg, zpow_natCast, inv_mul_le_iff₀ power, mul_comm]
        exact room

/-- The last grid that is searched is finer than the interval is wide. -/
theorem exists_onGrid_around {significand : Nat} (canonical : IsCanonical significand exponent) :
    ∃ digits, (around significand exponent).onGrid
      ((around significand exponent).magnitude - 1 - 16) = some digits := by
  have size := pow_magnitude_le denominator_around_pos (denominator_around_le canonical)
  have width := width_around canonical
  have unitPos : 0 < (around significand exponent).gridUnit
      ((around significand exponent).magnitude - 1 - 16) :=
    Nat.mul_pos denominator_around_pos (Nat.pow_pos (by decide))
  apply exists_onGrid (low_around_lt_mid canonical.positive) mid_around_lt_high unitPos
  generalize around significand exponent = interval at *
  have unit := mul_gridUnit interval (interval.magnitude - 1 - 16) 1
  have factor : (0 : Rat) < gridFactor (interval.magnitude - 1 - 16) := by
    exact_mod_cast gridFactor_pos
  have finer : (10 : Rat) ^ (interval.magnitude - 1 - 16) * 10 ^ 16 =
      10 ^ (interval.magnitude - 1) := by
    have shifted := zpow_add₀ (a := (10 : Rat)) (by norm_num) (interval.magnitude - 1 - 16) 16
    rw [sub_add_cancel] at shifted
    exact shifted.symm
  have spacing : (10 : Rat) ^ (interval.magnitude - 1 - 16) * interval.denominator +
      interval.low < interval.high := by
    have widthCast : (interval.mid : Rat) + interval.low * 10 ^ 16 <
      interval.high * 10 ^ 16 := by exact_mod_cast width
    rw [← finer] at size
    linarith
  have scaled := mul_lt_mul_of_pos_right spacing factor
  rw [Nat.cast_one, one_mul, one_mul] at unit
  rw [add_mul, ← unit] at scaled
  exact_mod_cast scaled

end Magnitudes

end RoundingInterval

/-- The shortest decimal of a double is in its interval. -/
theorem holds_shortest {significand : Nat} {exponent : Int}
    (canonical : IsCanonical significand exponent) :
    (RoundingInterval.around significand exponent).Holds
      (shortest significand exponent).number := by
  obtain ⟨last, lastFound⟩ := RoundingInterval.exists_onGrid_around canonical
  unfold shortest
  dsimp only
  cases found : (List.range 17).findSome? fun (count : Nat) =>
      ((RoundingInterval.around significand exponent).onGrid
        ((RoundingInterval.around significand exponent).magnitude - 1 - count)).map fun n =>
          Digits.mk n ((RoundingInterval.around significand exponent).magnitude - 1 - count) with
  | none =>
      have refused := List.findSome?_eq_none_iff.mp found 16 (List.mem_range.mpr (by decide))
      rw [Nat.cast_ofNat, lastFound] at refused
      cases refused
  | some digits =>
      obtain ⟨count, _, reached⟩ := List.exists_of_findSome?_eq_some found
      obtain ⟨number, onGrid, rfl⟩ := Option.map_eq_some_iff.mp reached
      exact RoundingInterval.holds_of_inside (RoundingInterval.inside_of_onGrid onGrid)

end HingeField.Decimal
