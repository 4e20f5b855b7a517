import HingeField.Proofs.OwnScores
import Mathlib.Algebra.Order.Ring.Rat
import Mathlib.Tactic.Ring

/-!
How far clauses are satisfied, in exact arithmetic. The chance that all
literals of a clause fail is a product of complements, and its distance from
being satisfied is what their sum leaves of one. Main statements: the product
is at least this distance, so that the score of a clause never promises more
than its potential does; over zeros and ones the two are the same, so that the
states of a model are ordered alike by score and by potential.
-/

namespace HingeField

namespace Rule

section Truths

/-- What the truth values of a clause leave of one. -/
def shortfall (truths : List Rat) : Rat :=
  Scalar.positivePart (1 - Scalar.sum truths)

variable {truths : List Rat}

theorem positivePart_eq_max (x : Rat) : Scalar.positivePart x = max 0 x := by
  change (if decide (0 < x) = true then x else 0) = max 0 x
  by_cases positive : 0 < x
  · rw [if_pos (decide_eq_true positive), max_eq_right positive.le]
  · rw [if_neg (by simpa using positive), max_eq_left (not_lt.mp positive)]

theorem falsity_unit (unit : ∀ truth ∈ truths, 0 ≤ truth ∧ truth ≤ 1) :
    0 ≤ falsity truths ∧ falsity truths ≤ 1 := by
  induction truths with
  | nil => exact ⟨zero_le_one, le_rfl⟩
  | cons truth rest ih =>
      obtain ⟨lower, upper⟩ := unit truth List.mem_cons_self
      obtain ⟨nonneg, small⟩ := ih fun other member => unit other (List.mem_cons_of_mem truth member)
      rw [falsity_cons]
      exact ⟨mul_nonneg (sub_nonneg.mpr upper) nonneg,
        mul_le_one₀ (sub_le_self 1 lower) nonneg small⟩

/-- The product of the complements is at least one less the sum: expanding it, each further factor
takes away no more than its truth value. -/
theorem one_sub_sum_le_falsity (unit : ∀ truth ∈ truths, 0 ≤ truth ∧ truth ≤ 1) :
    1 - Scalar.sum truths ≤ falsity truths := by
  induction truths with
  | nil => exact (sub_zero (1 : Rat)).le
  | cons truth rest ih =>
      have others : ∀ other ∈ rest, 0 ≤ other ∧ other ≤ 1 := fun other member =>
        unit other (List.mem_cons_of_mem truth member)
      have taken : truth * falsity rest ≤ truth :=
        mul_le_of_le_one_right (unit truth List.mem_cons_self).1 (falsity_unit others).2
      rw [Scalar.sum_cons, falsity_cons]
      calc 1 - (truth + Scalar.sum rest)
          = (1 - Scalar.sum rest) - truth := by ring
        _ ≤ falsity rest - truth * falsity rest := sub_le_sub (ih others) taken
        _ = (1 - truth) * falsity rest := by ring

theorem sum_nonneg (unit : ∀ truth ∈ truths, 0 ≤ truth ∧ truth ≤ 1) : 0 ≤ Scalar.sum truths := by
  induction truths with
  | nil => exact le_rfl
  | cons truth rest ih =>
      rw [Scalar.sum_cons]
      exact add_nonneg (unit truth List.mem_cons_self).1
        (ih fun other member => unit other (List.mem_cons_of_mem truth member))

theorem shortfall_unit (unit : ∀ truth ∈ truths, 0 ≤ truth ∧ truth ≤ 1) :
    0 ≤ shortfall truths ∧ shortfall truths ≤ 1 := by
  unfold shortfall
  rw [positivePart_eq_max]
  exact ⟨le_max_left _ _, max_le zero_le_one (sub_le_self 1 (sum_nonneg unit))⟩

theorem shortfall_le_falsity (unit : ∀ truth ∈ truths, 0 ≤ truth ∧ truth ≤ 1) :
    shortfall truths ≤ falsity truths := by
  unfold shortfall
  rw [positivePart_eq_max]
  exact max_le (falsity_unit unit).1 (one_sub_sum_le_falsity unit)

/-- A true literal makes the product vanish, and without one every factor is one. -/
theorem falsity_of_bits (bits : ∀ truth ∈ truths, truth = 0 ∨ truth = 1) :
    (1 ∈ truths → falsity truths = 0) ∧ (1 ∉ truths → falsity truths = 1) := by
  induction truths with
  | nil => exact ⟨fun member => absurd member List.not_mem_nil, fun _ => rfl⟩
  | cons truth rest ih =>
      obtain ⟨some, none⟩ := ih fun other member => bits other (List.mem_cons_of_mem truth member)
      rw [falsity_cons, List.mem_cons]
      rcases bits truth List.mem_cons_self with rfl | rfl
      · rw [sub_zero, one_mul]
        exact ⟨fun member => some (member.resolve_left one_ne_zero),
          fun absent => none fun member => absent (Or.inr member)⟩
      · rw [sub_self, zero_mul]
        exact ⟨fun _ => rfl, fun absent => absurd (Or.inl rfl) absent⟩

theorem sum_of_bits (bits : ∀ truth ∈ truths, truth = 0 ∨ truth = 1) :
    (1 ∈ truths → 1 ≤ Scalar.sum truths) ∧ (1 ∉ truths → Scalar.sum truths = 0) := by
  induction truths with
  | nil => exact ⟨fun member => absurd member List.not_mem_nil, fun _ => rfl⟩
  | cons truth rest ih =>
      have others : ∀ other ∈ rest, other = 0 ∨ other = 1 := fun other member =>
        bits other (List.mem_cons_of_mem truth member)
      obtain ⟨some, none⟩ := ih others
      rw [Scalar.sum_cons, List.mem_cons]
      rcases bits truth List.mem_cons_self with rfl | rfl
      · rw [zero_add]
        exact ⟨fun member => some (member.resolve_left one_ne_zero),
          fun absent => none fun member => absent (Or.inr member)⟩
      · have nonneg : 0 ≤ Scalar.sum rest := sum_nonneg fun other member => by
          rcases others other member with rfl | rfl
          · exact ⟨le_rfl, zero_le_one⟩
          · exact ⟨zero_le_one, le_rfl⟩
        exact ⟨fun _ => le_add_of_nonneg_right nonneg, fun absent => absurd (Or.inl rfl) absent⟩

theorem shortfall_of_bits (bits : ∀ truth ∈ truths, truth = 0 ∨ truth = 1) :
    shortfall truths = falsity truths := by
  unfold shortfall
  rw [positivePart_eq_max]
  by_cases satisfied : 1 ∈ truths
  · have large := (sum_of_bits bits).1 satisfied
    rw [(falsity_of_bits bits).1 satisfied]
    exact max_eq_left (sub_nonpos.mpr large)
  · rw [(sum_of_bits bits).2 satisfied, (falsity_of_bits bits).2 satisfied, sub_zero]
    exact max_eq_right zero_le_one

end Truths

section Clauses

variable {rule : Rule Rat} {literals : List Literal} {squared : Bool} {arena : Arena Rat}
  {truths : List Rat}

theorem literalTruth_eq_ok_iff {literal : Literal} {truth : Rat} :
    literalTruth arena literal = .ok truth ↔
      ∃ value, arena.read literal.atom = .ok value ∧
        truth = if literal.positive then value else 1 - value :=
  bind_return_eq_ok_iff

/-- The score and the distance of a clause, by the truth values of its literals. -/
theorem measures_of_truths (form : rule.body = .clause literals squared)
    (found : literals.mapM (literalTruth arena) = .ok truths) :
    rule.expectedCompatibility arena = .ok (rule.weight * (1 - falsity truths)) ∧
      rule.incompatibility arena =
        .ok (if squared then shortfall truths * shortfall truths else shortfall truths) := by
  unfold expectedCompatibility incompatibility
  rw [form]
  simp only [found, Effect.ok_bind]
  refine ⟨rfl, ?_⟩
  cases squared with
  | true => exact square_total _ _
  | false => rfl

theorem truths_of_resolves (resolves : Resolves arena.length (literals.map (·.atom))) :
    ∃ truths, literals.mapM (literalTruth arena) = .ok truths := by
  apply mapM_total
  intro literal member
  obtain ⟨offset, resolved⟩ := resolves literal.atom (List.mem_map_of_mem member)
  exact ⟨_, literalTruth_eq_ok_iff.mpr
    ⟨_, Arena.read_of_resolved resolved (resolvePosition?_lt resolved), rfl⟩⟩

theorem truths_unit (unit : ∀ value ∈ arena, 0 ≤ value ∧ value ≤ 1)
    (found : literals.mapM (literalTruth arena) = .ok truths) :
    ∀ truth ∈ truths, 0 ≤ truth ∧ truth ≤ 1 := by
  intro truth member
  obtain ⟨literal, _, computed⟩ := exists_of_mem_mapM found member
  obtain ⟨value, read, rfl⟩ := literalTruth_eq_ok_iff.mp computed
  obtain ⟨lower, upper⟩ := unit value (Arena.mem_of_read read)
  split
  · exact ⟨lower, upper⟩
  · exact ⟨sub_nonneg.mpr upper, sub_le_self 1 lower⟩

/-- Whether all atoms of a rule are zero or one. -/
def IsDiscreteOver (rule : Rule Rat) (arena : Arena Rat) : Prop :=
  ∀ atom ∈ rule.atoms, arena.read atom = .ok 0 ∨ arena.read atom = .ok 1

theorem truths_of_discrete (form : rule.body = .clause literals squared)
    (discrete : rule.IsDiscreteOver arena) :
    ∃ truths, literals.mapM (literalTruth arena) = .ok truths ∧
      ∀ truth ∈ truths, truth = 0 ∨ truth = 1 := by
  have each : ∀ literal ∈ literals, ∃ truth, literalTruth arena literal = .ok truth ∧
      (truth = 0 ∨ truth = 1) := by
    intro literal member
    have atoms : rule.atoms = literals.map (·.atom) := congrArg RuleBody.atoms form
    have listed : literal.atom ∈ rule.atoms := by
      rw [atoms]
      exact List.mem_map_of_mem member
    rcases discrete literal.atom listed with read | read
    · refine ⟨_, literalTruth_eq_ok_iff.mpr ⟨0, read, rfl⟩, ?_⟩
      rw [sub_zero]
      exact ite_eq_or_eq _ _ _
    · refine ⟨_, literalTruth_eq_ok_iff.mpr ⟨1, read, rfl⟩, ?_⟩
      rw [sub_self]
      exact (ite_eq_or_eq _ _ _).symm
  obtain ⟨truths, found⟩ := mapM_total fun literal member =>
    (each literal member).imp fun _ computed => computed.1
  refine ⟨truths, found, ?_⟩
  intro truth member
  obtain ⟨literal, listed, computed⟩ := exists_of_mem_mapM found member
  obtain ⟨other, same, bit⟩ := each literal listed
  cases computed.symm.trans same
  exact bit

/-- Between zero and one a clause scores at least nothing and at most what its distance leaves of
its weight. -/
theorem score_bounds (form : rule.body = .clause literals squared) (weighted : 0 ≤ rule.weight)
    (unit : ∀ value ∈ arena, 0 ≤ value ∧ value ≤ 1)
    (resolves : Resolves arena.length rule.atoms) :
    ∃ score distance, rule.expectedCompatibility arena = .ok score ∧
      rule.incompatibility arena = .ok distance ∧ 0 ≤ score ∧
      score ≤ rule.weight * (1 - distance) ∧ rule.weight * (1 - distance) ≤ rule.weight := by
  have atoms : rule.atoms = literals.map (·.atom) := congrArg RuleBody.atoms form
  rw [atoms] at resolves
  obtain ⟨truths, found⟩ := truths_of_resolves resolves
  have unitTruths := truths_unit unit found
  obtain ⟨scored, measured⟩ := measures_of_truths form found
  obtain ⟨_, falsityUpper⟩ := falsity_unit unitTruths
  obtain ⟨lower, upper⟩ := shortfall_unit unitTruths
  have close := shortfall_le_falsity unitTruths
  refine ⟨_, _, scored, measured, mul_nonneg weighted (sub_nonneg.mpr falsityUpper), ?_, ?_⟩
  -- the square of a distance up to one is no greater than the distance
  · refine mul_le_mul_of_nonneg_left (sub_le_sub_left ?_ 1) weighted
    split
    · exact (mul_le_of_le_one_left lower upper).trans close
    · exact close
  · refine mul_le_of_le_one_right weighted (sub_le_self 1 ?_)
    split
    · exact mul_nonneg lower lower
    · exact lower

/-- Over zeros and ones a clause scores what its distance leaves of its weight: all of it if some
literal is true, and nothing otherwise. -/
theorem score_of_discrete (form : rule.body = .clause literals squared)
    (discrete : rule.IsDiscreteOver arena) :
    ∃ distance, rule.incompatibility arena = .ok distance ∧
      rule.expectedCompatibility arena = .ok (rule.weight * (1 - distance)) ∧
      ((∃ literal ∈ literals, literalTruth arena literal = .ok 1) → distance = 0) ∧
      ((∀ literal ∈ literals, literalTruth arena literal ≠ .ok 1) → distance = 1) := by
  obtain ⟨truths, found, bits⟩ := truths_of_discrete form discrete
  obtain ⟨scored, measured⟩ := measures_of_truths form found
  have satisfied : (∃ literal ∈ literals, literalTruth arena literal = .ok 1) ↔ 1 ∈ truths := by
    constructor
    · rintro ⟨literal, listed, isTrue⟩
      obtain ⟨place, stands⟩ := List.getElem?_of_mem listed
      obtain ⟨truth, there, computed⟩ := getElem?_of_mapM found stands
      cases computed.symm.trans isTrue
      exact List.mem_of_getElem? there
    · exact exists_of_mem_mapM found
  obtain ⟨vanishes, remains⟩ := falsity_of_bits bits
  -- zero and one are their own squares
  have same : (if squared then shortfall truths * shortfall truths else shortfall truths) =
      falsity truths := by
    rw [shortfall_of_bits bits]
    by_cases isTrue : 1 ∈ truths
    · rw [vanishes isTrue, mul_zero, ite_self]
    · rw [remains isTrue, mul_one, ite_self]
  rw [same] at measured
  refine ⟨falsity truths, measured, scored, fun isTrue => vanishes (satisfied.mp isTrue), ?_⟩
  intro isFalse
  apply remains
  intro member
  obtain ⟨literal, listed, isTrue⟩ := satisfied.mpr member
  exact isFalse literal listed isTrue

end Clauses

section Totals

/-- The sum of the exponents of the potentials of rules. -/
def exponentTotal (rules : List (Rule Rat)) (arena : Arena Rat) : Except Fault Rat := do
  let exponents ← rules.mapM fun rule => rule.logPotential arena
  return Scalar.sum exponents

theorem exponentTotal_cons_eq_ok_iff {rule : Rule Rat} {rules : List (Rule Rat)}
    {arena : Arena Rat} {total : Rat} :
    exponentTotal (rule :: rules) arena = .ok total ↔
      ∃ first rest, rule.logPotential arena = .ok first ∧
        exponentTotal rules arena = .ok rest ∧ total = first + rest :=
  mapM_fold_cons_eq_ok_iff Scalar.sum_cons

/-- Over zeros and ones scores and exponents differ by the sum of the weights. -/
theorem totals_of_discrete {rules : List (Rule Rat)} (clauses : ∀ rule ∈ rules, rule.IsClause)
    {arena : Arena Rat} (discrete : ∀ rule ∈ rules, rule.IsDiscreteOver arena) :
    ∃ total, exponentTotal rules arena = .ok total ∧
      expectedTotal rules arena = .ok (Scalar.sum (rules.map (·.weight)) + total) := by
  induction rules with
  | nil =>
      refine ⟨0, rfl, ?_⟩
      rw [add_zero]
      rfl
  | cons rule rules ih =>
      obtain ⟨total, exponents, scores⟩ :=
        ih (fun other member => clauses other (List.mem_cons_of_mem rule member))
          fun other member => discrete other (List.mem_cons_of_mem rule member)
      obtain ⟨literals, squared, form⟩ := clauses rule List.mem_cons_self
      obtain ⟨distance, measured, scored, _⟩ :=
        score_of_discrete form (discrete rule List.mem_cons_self)
      have exponent : rule.logPotential arena = .ok (-rule.weight * distance) :=
        logPotential_eq_ok_iff.mpr ⟨distance, measured, rfl⟩
      refine ⟨-rule.weight * distance + total,
        exponentTotal_cons_eq_ok_iff.mpr ⟨_, _, exponent, exponents, rfl⟩,
        expectedTotal_cons_eq_ok_iff.mpr ⟨_, _, scored, scores, ?_⟩⟩
      rw [List.map_cons, Scalar.sum_cons]
      ring

end Totals

/-- The score of a clause lies between nothing and what its distance leaves of its weight. Where
its atoms are zeros and ones it is all that the distance leaves; so two states in which all atoms
are such are in the same order by the scores of clauses and by the exponents of their
potentials. -/
theorem scores_agree_with_potentials :
    (∀ (rule : Rule Rat) (literals : List Literal) (squared : Bool) (arena : Arena Rat),
      rule.body = .clause literals squared → 0 ≤ rule.weight →
      (∀ value ∈ arena, 0 ≤ value ∧ value ≤ 1) → Resolves arena.length rule.atoms →
      ∃ score distance, rule.expectedCompatibility arena = .ok score ∧
        rule.incompatibility arena = .ok distance ∧ 0 ≤ score ∧
        score ≤ rule.weight * (1 - distance) ∧ rule.weight * (1 - distance) ≤ rule.weight ∧
        (rule.IsDiscreteOver arena → score = rule.weight * (1 - distance) ∧
          ((∃ literal ∈ literals, literalTruth arena literal = .ok 1) → score = rule.weight) ∧
          ((∀ literal ∈ literals, literalTruth arena literal ≠ .ok 1) → score = 0))) ∧
      ∀ (rules : List (Rule Rat)) (first second : Arena Rat),
        (∀ rule ∈ rules, rule.IsClause ∧ rule.IsDiscreteOver first ∧
          rule.IsDiscreteOver second) →
        ∃ firstScore secondScore firstExponent secondExponent,
          expectedTotal rules first = .ok firstScore ∧
          expectedTotal rules second = .ok secondScore ∧
          exponentTotal rules first = .ok firstExponent ∧
          exponentTotal rules second = .ok secondExponent ∧
          (firstScore ≤ secondScore ↔ firstExponent ≤ secondExponent) ∧
          (firstScore < secondScore ↔ firstExponent < secondExponent) := by
  constructor
  · intro rule literals squared arena form weighted unit resolves
    obtain ⟨score, distance, scored, measured, nonneg, bounded, small⟩ :=
      score_bounds form weighted unit resolves
    refine ⟨score, distance, scored, measured, nonneg, bounded, small, ?_⟩
    intro discrete
    obtain ⟨other, again, exact, satisfied, violated⟩ := score_of_discrete form discrete
    cases again.symm.trans measured
    cases exact.symm.trans scored
    refine ⟨rfl, ?_, ?_⟩
    · intro isTrue
      rw [satisfied isTrue, sub_zero, mul_one]
    · intro isFalse
      rw [violated isFalse, sub_self, mul_zero]
  · intro rules first second discrete
    have clauses : ∀ rule ∈ rules, rule.IsClause := fun rule member => (discrete rule member).1
    obtain ⟨firstExponent, firstExponents, firstScores⟩ :=
      totals_of_discrete clauses fun rule member => (discrete rule member).2.1
    obtain ⟨secondExponent, secondExponents, secondScores⟩ :=
      totals_of_discrete clauses fun rule member => (discrete rule member).2.2
    exact ⟨_, _, firstExponent, secondExponent, firstScores, secondScores, firstExponents,
      secondExponents, add_le_add_iff_left _, add_lt_add_iff_left _⟩

section Repeated

/-- A squared clause that mentions one variable twice. -/
def repeatedClause : Rule Rat :=
  { weight := 2, name := "repeated", body := .clause [⟨0, true⟩, ⟨0, true⟩, ⟨1, false⟩] true }

theorem isDiscreteOver_repeatedClause {first second : Rat} (firstBit : first = 0 ∨ first = 1)
    (secondBit : second = 0 ∨ second = 1) : repeatedClause.IsDiscreteOver [first, second] := by
  have read : ∀ value : Rat, value = 0 ∨ value = 1 →
      (Except.ok value : Except Fault Rat) = .ok 0 ∨ (Except.ok value : Except Fault Rat) = .ok 1 :=
    fun value bit => bit.imp (congrArg Except.ok) (congrArg Except.ok)
  intro atom member
  simp only [atoms, RuleBody.atoms, repeatedClause, List.map_cons, List.map_nil,
    List.mem_cons, List.not_mem_nil, or_false] at member
  rcases member with rfl | rfl | rfl
  · exact read first firstBit
  · exact read first firstBit
  · exact read second secondBit

theorem scores_agree_with_potentials_repeated :
    (∀ value ∈ ([1 / 4, 3 / 4] : Arena Rat), 0 ≤ value ∧ value ≤ 1) ∧
      Resolves 2 repeatedClause.atoms ∧
      repeatedClause.expectedCompatibility [1 / 4, 3 / 4] = .ok (37 / 32) ∧
      repeatedClause.incompatibility [1 / 4, 3 / 4] = .ok (1 / 16) ∧
      (37 / 32 : Rat) ≤ 2 * (1 - 1 / 16) ∧
      repeatedClause.IsClause ∧ repeatedClause.IsDiscreteOver [1, 0] ∧
      repeatedClause.IsDiscreteOver [0, 1] ∧
      ∃ firstScore secondScore firstExponent secondExponent,
        expectedTotal [repeatedClause] [1, 0] = .ok firstScore ∧
        expectedTotal [repeatedClause] [0, 1] = .ok secondScore ∧
        exponentTotal [repeatedClause] [1, 0] = .ok firstExponent ∧
        exponentTotal [repeatedClause] [0, 1] = .ok secondExponent ∧
        (firstScore < secondScore ↔ firstExponent < secondExponent) := by
  have unit : ∀ value ∈ ([1 / 4, 3 / 4] : Arena Rat), 0 ≤ value ∧ value ≤ 1 := by
    decide +kernel
  have resolves : Resolves 2 repeatedClause.atoms := resolves_of_inside (by decide)
  have scored : repeatedClause.expectedCompatibility [1 / 4, 3 / 4] = .ok (37 / 32) := by
    with_unfolding_all rfl
  have measured : repeatedClause.incompatibility [1 / 4, 3 / 4] = .ok (1 / 16) := by
    with_unfolding_all rfl
  have isClause : repeatedClause.IsClause := ⟨_, _, rfl⟩
  have firstDiscrete : repeatedClause.IsDiscreteOver [1, 0] :=
    isDiscreteOver_repeatedClause (Or.inr rfl) (Or.inl rfl)
  have secondDiscrete : repeatedClause.IsDiscreteOver [0, 1] :=
    isDiscreteOver_repeatedClause (Or.inl rfl) (Or.inr rfl)
  obtain ⟨bounds, orders⟩ := scores_agree_with_potentials
  obtain ⟨_, _, same, sameDistance, _, bounded, _⟩ :=
    bounds repeatedClause _ _ [1 / 4, 3 / 4] rfl (by decide +kernel) unit resolves
  cases scored.symm.trans same
  cases measured.symm.trans sameDistance
  obtain ⟨_, _, _, _, firstScore, secondScore, firstExponent, secondExponent, _, strict⟩ :=
    orders [repeatedClause] [1, 0] [0, 1] fun rule member => by
      rw [List.mem_singleton.mp member]
      exact ⟨isClause, firstDiscrete, secondDiscrete⟩
  exact ⟨unit, resolves, scored, measured, bounded, isClause, firstDiscrete, secondDiscrete,
    _, _, _, _, firstScore, secondScore, firstExponent, secondExponent, strict⟩

end Repeated

end Rule

end HingeField
