import HingeField.Proofs.Components
import HingeField.Proofs.Decision
import HingeField.Proofs.Expectation

/-!
A variable's own rules in exact arithmetic. The rules that do not mention a
variable score the same whatever its value is, so the scores of all rules and
of its own differ by a constant. Main statement: a decision, which looks at the
variable's own rules alone, takes the value at which all rules together score
higher.
-/

namespace HingeField

/-- A clause or a linear rule. -/
def Rule.IsBuiltIn {α : Type} (rule : Rule α) : Prop :=
  ∀ custom, rule.body ≠ .custom custom

/-- A rule whose score is always computed and depends on the cells of its atoms. -/
structure Rule.IsSound (size : Nat) (rule : Rule Rat) : Prop where
  isBuiltIn : rule.IsBuiltIn
  atomsInside : ∀ atom ∈ rule.atoms, 0 ≤ atom ∧ atom < size

section Evaluation

variable {arena : Arena Rat} {rule : Rule Rat}

theorem Rule.IsBuiltIn.isLocal {α : Type} {rule : Rule α} (isBuiltIn : rule.IsBuiltIn) :
    rule.IsLocal :=
  fun custom form => absurd form (isBuiltIn custom)

theorem Rule.square_total (hasAtoms : Bool) (distance : Rat) :
    Rule.square hasAtoms distance = .ok (distance * distance) := by
  unfold Rule.square
  cases hasAtoms with
  | true => rfl
  | false => rfl

theorem Rule.truths_total {literals : List Literal}
    (inside : ∀ literal ∈ literals, 0 ≤ literal.atom ∧ literal.atom < arena.length) :
    ∃ truths, literals.mapM (literalTruth arena) = .ok truths := by
  apply mapM_total
  intro literal member
  obtain ⟨lower, upper⟩ := inside literal member
  unfold literalTruth
  rw [Arena.read_of_inside lower (by omega)]
  exact ⟨_, rfl⟩

theorem Rule.summands_total {terms : List (Term Rat)}
    (inside : ∀ term ∈ terms, 0 ≤ term.atom ∧ term.atom < arena.length) :
    ∃ summands, terms.mapM (termValue arena) = .ok summands := by
  apply mapM_total
  intro term member
  obtain ⟨lower, upper⟩ := inside term member
  unfold termValue
  rw [Arena.read_of_inside lower (by omega)]
  exact ⟨_, rfl⟩

theorem Rule.IsSound.exists_score (sound : rule.IsSound arena.length) :
    ∃ score, rule.expectedCompatibility arena = .ok score := by
  have inside := sound.atomsInside
  unfold Rule.atoms at inside
  unfold Rule.expectedCompatibility Rule.incompatibility
  cases form : rule.body with
  | clause literals squared =>
      rw [form] at inside
      have literalsInside : ∀ literal ∈ literals, 0 ≤ literal.atom ∧ literal.atom < arena.length :=
        fun literal member => inside literal.atom (List.mem_map.mpr ⟨literal, member, rfl⟩)
      obtain ⟨truths, found⟩ := truths_total literalsInside
      simp only [found]
      exact ⟨_, rfl⟩
  | linear terms bound squared =>
      rw [form] at inside
      have termsInside : ∀ term ∈ terms, 0 ≤ term.atom ∧ term.atom < arena.length :=
        fun term member => inside term.atom (List.mem_map.mpr ⟨term, member, rfl⟩)
      obtain ⟨summands, found⟩ := summands_total termsInside
      simp only [found, Effect.ok_bind]
      cases squared with
      | true =>
          simp only [if_true, square_total]
          exact ⟨_, rfl⟩
      | false => exact ⟨_, rfl⟩
  | custom measure => exact absurd form (sound.isBuiltIn measure)

end Evaluation

section Totals

variable {arena : Arena Rat} {index : Int}

/-- A rule without the variable does not see it move. -/
theorem Rule.IsSound.score_set {rule : Rule Rat} (sound : rule.IsSound arena.length)
    (lower : 0 ≤ index) (upper : index < arena.length) (absent : index ∉ rule.atoms)
    (value : Rat) :
    rule.expectedCompatibility (arena.set index.toNat value) =
      rule.expectedCompatibility arena := by
  have unaliased : Unaliased rule.atoms arena.length index := by
    intro atom member same
    have atomLower := (sound.atomsInside atom member).1
    omega
  exact sound.isBuiltIn.isLocal.expectedCompatibility_congr
    (agreeAt_set lower upper unaliased absent value)

theorem Rule.IsSound.set {rule : Rule Rat} (sound : rule.IsSound arena.length) (value : Rat) :
    rule.IsSound (arena.set index.toNat value).length := by
  rw [List.length_set]
  exact sound

/-- Whatever the value of a variable is, all rules score by the same amount more than its own. -/
theorem Rule.expectedTotal_own_and_others {rules : List (Rule Rat)}
    (sound : ∀ rule ∈ rules, rule.IsSound arena.length) (lower : 0 ≤ index)
    (upper : index < arena.length) :
    ∃ others, ∀ value, ∃ own,
      expectedTotal (rules.filter fun rule => rule.atoms.contains index)
          (arena.set index.toNat value) = .ok own ∧
        expectedTotal rules (arena.set index.toNat value) = .ok (own + others) := by
  induction rules with
  | nil =>
      refine ⟨0, fun _ => ⟨0, rfl, ?_⟩⟩
      rw [Rat.add_zero]
      rfl
  | cons rule rules ih =>
      have first := sound rule List.mem_cons_self
      obtain ⟨others, split⟩ := ih fun other member => sound other (List.mem_cons_of_mem rule member)
      by_cases mentioned : index ∈ rule.atoms
      · have filed : rule.atoms.contains index = true := List.contains_iff_mem.mpr mentioned
        rw [List.filter_cons, if_pos filed]
        refine ⟨others, fun value => ?_⟩
        obtain ⟨own, ownTotal, total⟩ := split value
        obtain ⟨score, scored⟩ := (first.set value).exists_score
        refine ⟨score + own, expectedTotal_cons_eq_ok_iff.mpr ⟨_, _, scored, ownTotal, rfl⟩,
          expectedTotal_cons_eq_ok_iff.mpr ⟨_, _, scored, total, ?_⟩⟩
        exact Rat.add_assoc score own others
      · have unfiled : ¬rule.atoms.contains index = true := fun contained =>
          mentioned (List.contains_iff_mem.mp contained)
        rw [List.filter_cons, if_neg unfiled]
        -- the score of this rule joins the constant
        obtain ⟨score, scored⟩ := first.exists_score
        refine ⟨score + others, fun value => ?_⟩
        obtain ⟨own, ownTotal, total⟩ := split value
        have unmoved := (first.score_set lower upper mentioned value).trans scored
        refine ⟨own, ownTotal, expectedTotal_cons_eq_ok_iff.mpr ⟨_, _, unmoved, total, ?_⟩⟩
        exact Rat.add_left_comm own score others

end Totals

namespace Rounding

theorem better_eq_one_iff {tieBreak : TieBreak} {atZero atOne : Rat} :
    better tieBreak atZero atOne = 1 ↔
      atZero < atOne ∨ (atZero = atOne ∧ tieBreak = .later) := by
  have different : (0 : Rat) ≠ 1 := by decide
  unfold better
  simp only [Scalar.less, decide_eq_true_eq]
  by_cases rises : atZero < atOne
  · rw [if_pos rises]
    exact iff_of_true rfl (Or.inl rises)
  rw [if_neg rises]
  by_cases falls : atOne < atZero
  · rw [if_pos falls]
    refine iff_of_false different ?_
    rintro (claimed | ⟨same, _⟩)
    · exact rises claimed
    · exact absurd (same ▸ falls) Rat.lt_irrefl
  · rw [if_neg falls]
    have level : atZero = atOne := Rat.le_antisymm (Rat.not_lt.mp falls) (Rat.not_lt.mp rises)
    cases tieBreak with
    | later => exact iff_of_true rfl (Or.inr ⟨level, rfl⟩)
    | earlier =>
        refine iff_of_false different ?_
        rintro (claimed | ⟨_, impossible⟩)
        · exact rises claimed
        · cases impossible

variable {rules : List (Rule Rat)} {model : Model Rat} {index : Int}

/-- A variable with a rule becomes one exactly if all rules together score higher at one than at
zero, or score the same and ties go to one; otherwise it becomes zero. No other value changes. -/
theorem decision_follows_all_rules (tieBreak : TieBreak)
    (builtIn : ∀ rule ∈ rules, rule.IsBuiltIn)
    (atomsInside : ∀ rule ∈ rules, ∀ atom ∈ rule.atoms, 0 ≤ atom ∧ atom < model.values.length)
    (registered : ∃ rule ∈ rules, index ∈ rule.atoms) :
    ∃ atZero atOne best finish,
      Rule.expectedTotal rules (model.values.set index.toNat 0) = .ok atZero ∧
      Rule.expectedTotal rules (model.values.set index.toNat 1) = .ok atOne ∧
      decideVariable (Register.ofList rules) tieBreak index model = .ok best finish ∧
      finish.values = model.values.set index.toNat best ∧ (best = 0 ∨ best = 1) ∧
      (best = 1 ↔ atZero < atOne ∨ (atZero = atOne ∧ tieBreak = .later)) := by
  obtain ⟨rule, listed, mentioned⟩ := registered
  obtain ⟨lower, upper⟩ := atomsInside rule listed index mentioned
  have resolved := resolvePosition?_of_inside lower upper
  have stands := List.getElem?_eq_getElem (resolvePosition?_lt resolved)
  have filed := Register.rulesFor_ofList rules index
  have ruled : ((Register.ofList rules).rulesFor index).isEmpty = false := by
    have member : rule ∈ (Register.ofList rules).rulesFor index := by
      rw [filed]
      exact List.mem_filter.mpr ⟨listed, List.contains_iff_mem.mpr mentioned⟩
    exact List.isEmpty_eq_false_iff.mpr (List.ne_nil_of_mem member)
  obtain ⟨others, split⟩ := Rule.expectedTotal_own_and_others
    (fun rule member => ⟨builtIn rule member, atomsInside rule member⟩) lower upper
  obtain ⟨ownZero, scoredZero, totalZero⟩ := split 0
  obtain ⟨ownOne, scoredOne, totalOne⟩ := split 1
  rw [← filed] at scoredZero scoredOne
  refine ⟨_, _, better tieBreak ownZero ownOne, _, totalZero, totalOne,
    decideVariable_of_scores resolved stands ruled scoredZero scoredOne, ?_,
    isBit_better _ _ _, ?_⟩
  · rw [Model.enter_of_resolved resolved]
  · have sameTotal : ownZero + others = ownOne + others ↔ ownZero = ownOne := by grind
    rw [better_eq_one_iff, Rat.add_lt_add_right, sameTotal]

section Repeated

/-- A rule registered twice, a rule that mentions its atom twice, and one for another variable. -/
def repeatedRules : List (Rule Rat) :=
  let bounded : Rule Rat :=
    { weight := 1 / 3, name := "bounded", body := .linear [⟨0, 2⟩, ⟨1, -1⟩] (1 / 2) true }
  [bounded, { weight := 1, name := "twice", body := .clause [⟨0, true⟩, ⟨0, true⟩] false },
    bounded, { weight := 5, name := "other", body := .clause [⟨1, false⟩] true }]

def quarterAndHalf : Model Rat :=
  { values := [1 / 4, 1 / 2] }

theorem decision_follows_all_rules_repeated :
    (∀ rule ∈ repeatedRules, rule.IsBuiltIn) ∧
      (∀ rule ∈ repeatedRules, ∀ atom ∈ rule.atoms,
        0 ≤ atom ∧ atom < quarterAndHalf.values.length) ∧
      (∃ rule ∈ repeatedRules, (0 : Int) ∈ rule.atoms) ∧
      Rule.expectedTotal repeatedRules (quarterAndHalf.values.set 0 0) = .ok (5 / 2) ∧
      Rule.expectedTotal repeatedRules (quarterAndHalf.values.set 0 1) = .ok (17 / 6) ∧
      ∃ finish,
        decideVariable (Register.ofList repeatedRules) .earlier 0 quarterAndHalf = .ok 1 finish ∧
          finish.values = [1, 1 / 2] := by
  have builtIn : ∀ rule ∈ repeatedRules, rule.IsBuiltIn := by
    intro rule member custom form
    simp only [repeatedRules, List.mem_cons, List.not_mem_nil, or_false] at member
    rcases member with rfl | rfl | rfl | rfl
    all_goals cases form
  have atomsInside : ∀ rule ∈ repeatedRules, ∀ atom ∈ rule.atoms,
      0 ≤ atom ∧ atom < quarterAndHalf.values.length := by decide
  have registered : ∃ rule ∈ repeatedRules, (0 : Int) ∈ rule.atoms := by decide
  have totalZero : Rule.expectedTotal repeatedRules (quarterAndHalf.values.set 0 0) =
      .ok (5 / 2) := by
    with_unfolding_all rfl
  have totalOne : Rule.expectedTotal repeatedRules (quarterAndHalf.values.set 0 1) =
      .ok (17 / 6) := by
    with_unfolding_all rfl
  obtain ⟨atZero, atOne, best, finish, zero, one, decided, values, _, chosen⟩ :=
    decision_follows_all_rules .earlier builtIn atomsInside registered
  cases totalZero.symm.trans zero
  cases totalOne.symm.trans one
  have isOne : best = 1 := chosen.mpr (Or.inl (by decide +kernel))
  rw [isOne] at decided values
  exact ⟨builtIn, atomsInside, registered, totalZero, totalOne, finish, decided, values⟩

end Repeated

end Rounding

end HingeField
