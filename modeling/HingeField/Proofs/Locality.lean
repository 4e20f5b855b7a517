import HingeField.Proofs.Arena
import HingeField.Proofs.Sequence

/-!
Rules that read only the cells of their atoms. Clauses and linear rules do by
their form; a custom rule does if its measure does. Main statements: the
incompatibility, the exponent and the score of such a rule are the same over
two arenas of one length that read the same at its atoms, and so is the sum of
the scores of several.
-/

namespace HingeField

section Locality

variable {α : Type}

/-- Two arenas of one length that read the same at the given positions. -/
def Arena.AgreeAt (positions : List Int) (first second : Arena α) : Prop :=
  first.length = second.length ∧ ∀ position ∈ positions, first.read position = second.read position

/-- A measure that reads only the cells of its atoms. -/
def CustomMeasure.IsLocal (custom : CustomMeasure α) : Prop :=
  ∀ first second : Arena α, Arena.AgreeAt custom.atoms first second →
    custom.measure first = custom.measure second

/-- A rule that reads only the cells of its atoms. -/
def Rule.IsLocal (rule : Rule α) : Prop :=
  ∀ custom, rule.body = .custom custom → custom.IsLocal

variable [Scalar α]

theorem Rule.truths_congr {literals : List Literal} {first second : Arena α}
    (agree : Arena.AgreeAt (literals.map (·.atom)) first second) :
    literals.mapM (literalTruth first) = literals.mapM (literalTruth second) := by
  apply mapM_congr
  intro literal member
  unfold literalTruth
  rw [agree.2 literal.atom (List.mem_map_of_mem member)]

theorem Rule.IsLocal.incompatibility_congr {rule : Rule α} (isLocal : rule.IsLocal)
    {first second : Arena α} (agree : Arena.AgreeAt rule.atoms first second) :
    rule.incompatibility first = rule.incompatibility second := by
  unfold Rule.incompatibility
  unfold Rule.atoms at agree
  cases form : rule.body with
  | clause literals squared =>
      rw [form] at agree
      simp only
      rw [Rule.truths_congr agree]
  | linear terms bound squared =>
      rw [form] at agree
      have sameSummands :
          terms.mapM (Rule.termValue first) = terms.mapM (Rule.termValue second) := by
        apply mapM_congr
        intro term member
        unfold Rule.termValue
        rw [agree.2 term.atom (List.mem_map_of_mem member)]
      simp only
      rw [sameSummands]
  | custom custom =>
      rw [form] at agree
      exact isLocal custom form first second agree

theorem Rule.logPotential_eq_ok_iff {rule : Rule α} {arena : Arena α} {exponent : α} :
    rule.logPotential arena = .ok exponent ↔
      ∃ distance, rule.incompatibility arena = .ok distance ∧
        exponent = -rule.weight * distance :=
  bind_return_eq_ok_iff

theorem Rule.IsLocal.logPotential_congr {rule : Rule α} (isLocal : rule.IsLocal)
    {first second : Arena α} (agree : Arena.AgreeAt rule.atoms first second) :
    rule.logPotential first = rule.logPotential second := by
  unfold Rule.logPotential
  rw [isLocal.incompatibility_congr agree]

theorem Rule.IsLocal.expectedCompatibility_congr {rule : Rule α} (isLocal : rule.IsLocal)
    {first second : Arena α} (agree : Arena.AgreeAt rule.atoms first second) :
    rule.expectedCompatibility first = rule.expectedCompatibility second := by
  have sameDistance := isLocal.incompatibility_congr agree
  unfold Rule.expectedCompatibility
  unfold Rule.atoms at agree
  cases form : rule.body with
  | clause literals squared =>
      rw [form] at agree
      simp only
      rw [Rule.truths_congr agree]
  | linear terms bound squared =>
      simp only
      rw [sameDistance]
  | custom custom =>
      simp only
      rw [sameDistance]

/-- The sum of the scores of rules. -/
def Rule.expectedTotal (rules : List (Rule α)) (arena : Arena α) : Except Fault α := do
  let scores ← rules.mapM fun rule => rule.expectedCompatibility arena
  return Scalar.sum scores

theorem Rule.expectedTotal_congr {rules : List (Rule α)} (areLocal : ∀ rule ∈ rules, rule.IsLocal)
    {first second : Arena α}
    (agree : ∀ rule ∈ rules, Arena.AgreeAt rule.atoms first second) :
    expectedTotal rules first = expectedTotal rules second := by
  unfold expectedTotal
  rw [mapM_congr]
  intro rule member
  exact (areLocal rule member).expectedCompatibility_congr (agree rule member)

end Locality

end HingeField
