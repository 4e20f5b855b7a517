import HingeField.Proofs.Components
import HingeField.Proofs.Expectation
import HingeField.Proofs.Greedy

/-!
Greedy rounding of clauses in exact arithmetic. A decision moves its variable
to the end of its line at which its own clauses score no lower, and all clauses
together gain what those gain. Main statements: no decision lowers the sum of
all scores, so a pass over values of the unit interval ends with at least the
sum it has before its first decision; this needs that no clause mentions a
decided variable by the index that counts from the end, under which no clause
is filed for it.
-/

namespace HingeField.Rounding

section Choices

theorem better_cases (tieBreak : TieBreak) (atZero atOne : Rat) :
    (better tieBreak atZero atOne = 0 ∧ atOne ≤ atZero) ∨
      (better tieBreak atZero atOne = 1 ∧ atZero ≤ atOne) := by
  unfold better
  simp only [Scalar.less, decide_eq_true_eq]
  by_cases rises : atZero < atOne
  · rw [if_pos rises]
    exact Or.inr ⟨rfl, Rat.le_of_lt rises⟩
  · have level : atOne ≤ atZero := Rat.not_lt.mp rises
    rw [if_neg rises]
    by_cases falls : atOne < atZero
    · rw [if_pos falls]
      exact Or.inl ⟨rfl, level⟩
    · rw [if_neg falls]
      cases tieBreak with
      | later => exact Or.inr ⟨rfl, Rat.not_lt.mp falls⟩
      | earlier => exact Or.inl ⟨rfl, level⟩

theorem nearest_cases (value : Rat) : Scalar.nearest value = 0 ∨ Scalar.nearest value = 1 := by
  unfold Scalar.nearest
  split
  · exact Or.inr rfl
  · exact Or.inl rfl

/-- The end of a line that is not lower is no lower than any point between the ends. -/
theorem end_not_lower {value atZero atOne best : Rat} (lower : 0 ≤ value) (upper : value ≤ 1)
    (chosen : (best = 0 ∧ atOne ≤ atZero) ∨ (best = 1 ∧ atZero ≤ atOne)) :
    (1 - value) * atZero + value * atOne ≤ (1 - best) * atZero + best * atOne := by
  rcases chosen with ⟨rfl, falls⟩ | ⟨rfl, rises⟩
  · have loss : 0 ≤ value * (atZero - atOne) := Rat.mul_nonneg lower (by grind)
    grind
  · have gain : 0 ≤ (1 - value) * (atOne - atZero) := Rat.mul_nonneg (by grind) (by grind)
    grind

end Choices

section Decisions

variable {register : Register Rat} {tieBreak : TieBreak} {model : Model Rat} {index : Int}

/-- Trying both values leaves the model as it was. -/
theorem tryBoth_of_isLine (tieBreak : TieBreak) (lower : 0 ≤ index)
    (upper : index.toNat < model.values.length) {ownZero ownOne : Rat}
    (line : IsLine (fun x =>
      Rule.expectedTotal (register.rulesFor index) (model.values.set index.toNat x)) ownZero ownOne) :
    tryBoth register tieBreak index model.values[index.toNat] model =
      .ok (better tieBreak ownZero ownOne) model := by
  have written (values : Arena Rat) (sameLength : values.length = model.values.length)
      (value : Rat) :
      Model.writeValue index value { model with values } =
        .ok () { model with values := values.set index.toNat value } :=
    Model.writeValue_of_inside lower (sameLength ▸ upper) value
  have scored {values : Arena Rat} {total : Rat}
      (evaluated : Rule.expectedTotal (register.rulesFor index) values = .ok total) :
      score register index { model with values } = .ok total { model with values } := by
    rw [score_eq, evaluated]
    rfl
  refine Effect.bind_eq_ok_iff.mpr ⟨(), _, written model.values rfl Scalar.zero, ?_⟩
  refine Effect.bind_eq_ok_iff.mpr ⟨ownZero, _, scored line.at_zero, ?_⟩
  refine Effect.bind_eq_ok_iff.mpr ⟨(), _, written _ List.length_set Scalar.one, ?_⟩
  rw [List.set_set]
  refine Effect.bind_eq_ok_iff.mpr ⟨ownOne, _, scored line.at_one, ?_⟩
  refine Effect.bind_eq_ok_iff.mpr
    ⟨(), _, written _ List.length_set model.values[index.toNat], ?_⟩
  rw [List.set_set, List.set_getElem_self]
  rfl

/-- A decision stores the end of the line of the variable's own rules that is not lower. -/
theorem decideVariable_of_isLine (tieBreak : TieBreak) (lower : 0 ≤ index)
    (upper : index.toNat < model.values.length) {ownZero ownOne : Rat}
    (line : IsLine (fun x =>
      Rule.expectedTotal (register.rulesFor index) (model.values.set index.toNat x)) ownZero ownOne) :
    ∃ best after, decideVariable register tieBreak index model = .ok best after ∧
      after.values = model.values.set index.toNat best ∧
      ((best = 0 ∧ ownOne ≤ ownZero) ∨ (best = 1 ∧ ownZero ≤ ownOne)) := by
  have settled (best : Rat) :
      ∃ after, (do
          Model.writeValue index best
          Model.commit index
          return best : Action Rat Rat) model = .ok best after ∧
        after.values = model.values.set index.toNat best := by
    have small : index.toNat < (model.values.set index.toNat best).length := by
      rw [List.length_set]
      exact upper
    exact ⟨_, Effect.bind_eq_ok_iff.mpr ⟨(), _, Model.writeValue_of_inside lower upper best,
      Effect.bind_eq_ok_iff.mpr ⟨(), _, Model.commit_of_inside lower small, rfl⟩⟩, rfl⟩
  have readable := Model.readValue_of_inside lower upper
  by_cases ruleless : (register.rulesFor index).isEmpty = true
  · -- without rules the line is level, and either end will do
    rw [List.isEmpty_iff.mp ruleless] at line
    have levelZero : 0 = ownZero := Except.ok.inj line.at_zero
    have levelOne : 0 = ownOne := Except.ok.inj line.at_one
    obtain ⟨after, decided, values⟩ := settled (Scalar.nearest model.values[index.toNat])
    refine ⟨_, after, ?_, values, ?_⟩
    · unfold decideVariable
      rw [Effect.run_bind, readable]
      simp only [ruleless, if_true, pure_bind]
      exact decided
    · rw [← levelZero, ← levelOne]
      rcases nearest_cases model.values[index.toNat] with zero | one
      · exact Or.inl ⟨zero, Rat.le_refl⟩
      · exact Or.inr ⟨one, Rat.le_refl⟩
  · obtain ⟨after, decided, values⟩ := settled (better tieBreak ownZero ownOne)
    refine ⟨_, after, ?_, values, better_cases tieBreak ownZero ownOne⟩
    unfold decideVariable
    rw [Effect.run_bind, readable]
    simp only [ruleless, Bool.false_eq_true, if_false]
    rw [Effect.run_bind, tryBoth_of_isLine tieBreak lower upper line]
    exact decided

end Decisions

section Passes

variable {rules : List (Rule Rat)} {size : Nat} {before : Rat} {model : Model Rat}

/-- Values of the unit interval over which the rules together score so much at least. -/
structure Improved (rules : List (Rule Rat)) (size : Nat) (before : Rat) (model : Model Rat) :
    Prop where
  size_eq : model.values.length = size
  unit : ∀ value ∈ model.values, 0 ≤ value ∧ value ≤ 1
  total : ∃ total, Rule.expectedTotal rules model.values = .ok total ∧ before ≤ total

/-- A variable of the arena that every rule mentions once at most, and by its index. -/
structure Plain (rules : List (Rule Rat)) (size : Nat) (index : Int) : Prop where
  lower : 0 ≤ index
  upper : index < size
  each : ∀ rule ∈ rules, rule.IsPlain size index

theorem unit_of_soften {indices : List Int} {softened : Model Rat}
    (unit : ∀ value ∈ model.values, 0 ≤ value ∧ value ≤ 1)
    (softening : soften indices model = .ok () softened) :
    ∀ value ∈ softened.values, 0 ≤ value ∧ value ≤ 1 := by
  apply soften_keeps (fun current => ∀ value ∈ current.values, 0 ≤ value ∧ value ≤ 1) _ unit
    softening
  intro value member current offset holds other listed
  obtain ⟨lower, upper⟩ := unit value member
  rcases List.mem_or_eq_of_mem_set listed with old | rfl
  · exact holds other old
  · change 0 ≤ 1 / 4 + 1 / 2 * value ∧ 1 / 4 + 1 / 2 * value ≤ 1
    constructor
    · grind
    · grind

/-- No decision lowers the sum of all scores. -/
theorem Improved.after_decision (improved : Improved rules size before model) {index : Int}
    (plain : Plain rules size index) (tieBreak : TieBreak) :
    ∃ best after, decideVariable (Register.ofList rules) tieBreak index model = .ok best after ∧
      Improved rules size before after := by
  obtain ⟨lower, upper, each⟩ := plain
  obtain ⟨sizeEq, unit, total, evaluated, notLower⟩ := improved
  subst sizeEq
  have small : index.toNat < model.values.length := by omega
  obtain ⟨atZero, atOne, ownZero, ownOne, line, ownLine, gain⟩ :=
    Rule.expectedTotal_isLine each lower upper evaluated
  rw [← Register.rulesFor_ofList] at ownLine
  obtain ⟨best, after, decided, values, chosen⟩ :=
    decideVariable_of_isLine tieBreak lower small ownLine
  refine ⟨best, after, decided, ?_, ?_, ?_⟩
  · rw [values, List.length_set]
  · intro value member
    rw [values] at member
    rcases List.mem_or_eq_of_mem_set member with old | rfl
    · exact unit value old
    · rcases chosen with ⟨rfl, _⟩ | ⟨rfl, _⟩
      · decide +kernel
      · decide +kernel
  · obtain ⟨valueLower, valueUpper⟩ := unit _ (List.getElem_mem small)
    have onLine : total = (1 - model.values[index.toNat]) * atZero +
        model.values[index.toNat] * atOne := by
      have current := line model.values[index.toNat]
      simp only [List.set_getElem_self] at current
      exact Except.ok.inj (evaluated.symm.trans current)
    have better : (best = 0 ∧ atOne ≤ atZero) ∨ (best = 1 ∧ atZero ≤ atOne) := by
      rcases chosen with ⟨zero, falls⟩ | ⟨one, rises⟩
      · exact Or.inl ⟨zero, by grind⟩
      · exact Or.inr ⟨one, by grind⟩
    refine ⟨_, by rw [values]; exact line best, ?_⟩
    have kept := end_not_lower valueLower valueUpper better
    rw [← onLine] at kept
    exact Rat.le_trans notLower kept

theorem Improved.after_all (improved : Improved rules size before model) {listed : List Int}
    (plain : ∀ index ∈ listed, Plain rules size index) (tieBreak : TieBreak) :
    ∃ after, decideAll (Register.ofList rules) tieBreak listed model = .ok () after ∧
      Improved rules size before after := by
  induction listed generalizing model with
  | nil => exact ⟨model, rfl, improved⟩
  | cons index rest ih =>
      obtain ⟨best, middle, decided, between⟩ :=
        improved.after_decision (plain index List.mem_cons_self) tieBreak
      obtain ⟨after, others, ended⟩ :=
        ih between fun other member => plain other (List.mem_cons_of_mem index member)
      exact ⟨after, decideAll_cons_eq_ok_iff.mpr ⟨best, middle, decided, others⟩, ended⟩

theorem Improved.after_components (improved : Improved rules size before model)
    {components : List (List Int)}
    (plain : ∀ members ∈ components, ∀ index ∈ members, Plain rules size index)
    (tieBreak : TieBreak) :
    ∃ after, decideComponents (Register.ofList rules) tieBreak components model = .ok () after ∧
      Improved rules size before after := by
  induction components generalizing model with
  | nil => exact ⟨model, rfl, improved⟩
  | cons members components ih =>
      obtain ⟨middle, decided, between⟩ :=
        improved.after_all (plain members List.mem_cons_self) tieBreak
      obtain ⟨after, others, ended⟩ :=
        ih between fun other member => plain other (List.mem_cons_of_mem members member)
      exact ⟨after, decideComponents_cons_eq_ok_iff.mpr ⟨middle, decided, others⟩, ended⟩

/-- A pass over values of the unit interval does not lower the sum of all scores, if the rules are
clauses that mention nothing twice, and the variables of the pass by their indices alone. -/
theorem greedy_keeps_expected_total (tieBreak : TieBreak) (workers : Int) {indices : List Int}
    {softened : Model Rat} (unit : ∀ value ∈ model.values, 0 ≤ value ∧ value ≤ 1)
    (clauses : ∀ rule ∈ rules, rule.IsClause) (distinct : ∀ rule ∈ rules, rule.atoms.Nodup)
    (inside : ∀ index ∈ indices, 0 ≤ index ∧ index < model.values.length)
    (unaliased : ∀ index ∈ indices, ∀ rule ∈ rules,
      Unaliased rule.atoms model.values.length index)
    (softening : soften indices.eraseDups model = .ok () softened)
    (evaluated : Rule.expectedTotal rules softened.values = .ok before) :
    ∃ outcome finish after,
      greedy (Register.ofList rules) tieBreak workers indices model = .ok outcome finish ∧
        Rule.expectedTotal rules finish.values = .ok after ∧ before ≤ after := by
  obtain ⟨starting, ordered, prepared⟩ := prepare_of_soften inside softening
  have perm := (parts_of_prepare prepared).2
  have sameLength := length_of_soften softening
  have plain (index : Int) (member : index ∈ ordered) : Plain rules model.values.length index := by
    have listed : index ∈ indices := List.mem_eraseDups.mp (perm.mem_iff.mp member)
    obtain ⟨lower, upper⟩ := inside index listed
    exact ⟨lower, upper, fun rule registered =>
      ⟨clauses rule registered, distinct rule registered, unaliased index listed rule registered⟩⟩
  have start : Improved rules model.values.length before softened :=
    ⟨sameLength, unit_of_soften unit softening, before, evaluated, Rat.le_refl⟩
  obtain ⟨finish, decided, improved⟩ :
      ∃ finish, decideBy (Register.ofList rules) tieBreak workers ordered softened =
          .ok () finish ∧
        Improved rules model.values.length before finish := by
    unfold decideBy
    by_cases single : workers ≤ 1
    · rw [if_pos single]
      exact start.after_all plain tieBreak
    · rw [if_neg single]
      exact start.after_components
        (fun members component index member =>
          plain index (Register.mem_of_mem_components component member)) tieBreak
  obtain ⟨after, total, notLower⟩ := improved.total
  obtain ⟨outcome, ended⟩ := outcomeFrom_of_prepare inside prepared improved.size_eq
  exact ⟨outcome, finish, after,
    (greedy_eq_ok_iff prepared).mpr ⟨finish, decided, ended finish rfl⟩, total, notLower⟩

end Passes

section Samples

/-- One clause over two variables. -/
def implication : Rule Rat :=
  { weight := 1, name := "implication", body := .clause [⟨0, true⟩, ⟨1, false⟩] false }

def twoValues : Model Rat :=
  { values := [3 / 4, 1 / 2] }

theorem greedy_keeps_expected_total_implication :
    ∃ outcome finish after,
      greedy (Register.ofList [implication]) .earlier 4 [0, 1] twoValues = .ok outcome finish ∧
        Rule.expectedTotal [implication] finish.values = .ok after ∧ 13 / 16 ≤ after := by
  have softening : soften ([0, 1] : List Int).eraseDups twoValues =
      .ok () { twoValues with values := [5 / 8, 1 / 2] } := by
    with_unfolding_all rfl
  have evaluated : Rule.expectedTotal [implication] [5 / 8, 1 / 2] = .ok (13 / 16) := by
    with_unfolding_all rfl
  have isClause : ∀ rule ∈ [implication], rule.IsClause := by
    intro rule member
    rw [List.mem_singleton.mp member]
    exact ⟨_, _, rfl⟩
  have unaliased : ∀ index ∈ ([0, 1] : List Int), ∀ rule ∈ [implication],
      Unaliased rule.atoms twoValues.values.length index := by
    unfold Unaliased
    decide
  exact greedy_keeps_expected_total .earlier 4 (by decide +kernel) isClause (by decide) (by decide)
    unaliased softening evaluated

/-- A clause over the last variable, by the index that counts from the end. -/
def lastRule : Rule Rat :=
  { weight := 1, name := "last", body := .clause [⟨-1, true⟩] false }

def oneValue : Model Rat :=
  { values := [3 / 10] }

def oneSoftened : Model Rat :=
  { values := [2 / 5] }

/-- Where the decision leaves it. -/
def oneRounded : Model Rat :=
  Effect.final (decideAll (Register.ofList [lastRule]) .later [0] oneSoftened)

/-- No clause is filed for the variable, so it takes its nearest value. -/
theorem greedy_lowers_aliased_total :
    lastRule.IsClause ∧ lastRule.atoms.Nodup ∧ soften [0] oneValue = .ok () oneSoftened ∧
      Rule.expectedTotal [lastRule] oneSoftened.values = .ok (2 / 5) ∧
      ∃ outcome finish,
        greedy (Register.ofList [lastRule]) .later 1 [0] oneValue = .ok outcome finish ∧
          Rule.expectedTotal [lastRule] finish.values = .ok 0 := by
  have softening : soften ([0] : List Int).eraseDups oneValue = .ok () oneSoftened := by
    with_unfolding_all rfl
  obtain ⟨starting, ordered, prepared⟩ := prepare_of_soften (by decide) softening
  have single : ordered = [0] := List.perm_singleton.mp (parts_of_prepare prepared).2
  have decided : decideAll (Register.ofList [lastRule]) .later ordered oneSoftened =
      .ok () oneRounded := by
    rw [single]
    exact Effect.eq_ok_of_succeeded (by decide +kernel)
  have rounded : oneRounded.values = [0] := by decide +kernel
  have words : [0].all isWord = true := by decide
  obtain ⟨outcome, ended⟩ := outcomeFrom_eq starting oneRounded words (by rw [rounded]; decide)
  rw [← decideBy_one] at decided
  refine ⟨⟨_, _, rfl⟩, by decide, softening, ?_, outcome, oneRounded, ?_, ?_⟩
  · with_unfolding_all rfl
  · exact (greedy_eq_ok_iff prepared).mpr ⟨oneRounded, decided, ended oneRounded rfl⟩
  · rw [rounded]
    with_unfolding_all rfl

end Samples

end HingeField.Rounding
