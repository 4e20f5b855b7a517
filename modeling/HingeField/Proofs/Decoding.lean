import HingeField.Proofs.Categories
import HingeField.Solution

/-!
What a solution does to a model. Its codes are accepted one after the other up
to the first one that its block does not have. Main statements: the blocks of
the accepted codes are settled and nothing else changes, and a solution
succeeds exactly if all its codes are accepted.
-/

namespace HingeField

namespace Model

/-- Each block has the code that stands at its position. -/
def Choice.ofCodes (codes : List Int) : Choice :=
  fun position => codes[position]?

theorem Choice.assigned_zipIdx (codes : List Int) (start position : Nat) :
    assigned ((codes.zipIdx start).map fun (code, position) => (position, code)) position =
      if start ≤ position then codes[position - start]? else none := by
  induction codes generalizing start with
  | nil =>
      rw [List.getElem?_nil, ite_self]
      rfl
  | cons code codes ih =>
      rw [List.zipIdx_cons, List.map_cons]
      change (assigned _ position).or (single start code position) = _
      rw [ih (start + 1), single]
      by_cases first : position = start
      · rw [if_neg (by omega), if_pos first, if_pos (by omega), first, Nat.sub_self]
        rfl
      · rw [if_neg first, Option.or_none]
        by_cases later : start ≤ position
        · rw [if_pos (by omega), if_pos later,
            show position - start = position - (start + 1) + 1 by omega]
          rfl
        · rw [if_neg (by omega), if_neg later]

theorem Choice.assigned_eq_ofCodes (codes : List Int) :
    assigned (codes.zipIdx.map fun (code, position) => (position, code)) = ofCodes codes := by
  funext position
  rw [assigned_zipIdx codes 0 position, if_pos (Nat.zero_le position)]
  rfl

end Model

namespace Solution

open Model

/-- The codes before the first one that its block does not have. -/
def accepted : List Block → List Int → List Int
  | block :: blocks, code :: codes =>
      if 0 ≤ code ∧ code < block.cardinality then code :: accepted blocks codes else []
  | _, _ => []

theorem applyCode_eq {model : Model Float} (laidOut : model.LaidOut) {position : Nat}
    {block : Block} (found : model.blocks[position]? = some block) (code : Int) :
    (0 ≤ code ∧ code < block.cardinality ∧
        applyCode position code model = .ok () (model.settle (Choice.single position code))) ∨
      (¬(0 ≤ code ∧ code < block.cardinality) ∧
        ∃ defect, applyCode position code model = .error (.format defect) model) := by
  have located := blockAt_natCast_eq_ok_iff.mpr found
  unfold applyCode
  simp only [Effect.run_bind, Effect.run_get, located, Effect.run_ofExcept_ok]
  by_cases valid : 0 ≤ code ∧ code < block.cardinality
  · refine Or.inl ⟨valid.1, valid.2, ?_⟩
    rw [if_pos valid]
    exact laidOut.assignCategory_eq found valid
  · refine Or.inr ⟨valid, ?_⟩
    rw [if_neg valid]
    exact ⟨_, rfl⟩

/-- The codes from some position on, put into their blocks one after the other. -/
theorem forM_applyCode {model : Model Float} (laidOut : model.LaidOut) (start : Nat)
    {codes : List Int} (few : start + codes.length ≤ model.blocks.length) :
    ∃ ending : Except Fault Unit,
      ((codes.zipIdx start).forM fun (code, position) => applyCode position code) model =
        Effect.ofExcept ending
          (model.settle (Choice.assigned
            (((accepted (model.blocks.drop start) codes).zipIdx start).map
              fun (code, position) => (position, code)))) ∧
      (ending = .ok () ↔ accepted (model.blocks.drop start) codes = codes) := by
  induction codes generalizing model start with
  | nil =>
      refine ⟨.ok (), ?_, ?_⟩
      · cases model.blocks.drop start <;>
          exact congrArg (EStateM.Result.ok ()) (settle_nothing model).symm
      · cases model.blocks.drop start <;> exact ⟨fun _ => rfl, fun _ => rfl⟩
  | cons code codes ih =>
      rw [List.length_cons] at few
      have inside : start < model.blocks.length := by omega
      have found : model.blocks[start]? = some model.blocks[start] :=
        List.getElem?_eq_getElem inside
      rw [List.drop_eq_getElem_cons inside]
      unfold accepted
      rcases applyCode_eq laidOut found code with ⟨lower, upper, applied⟩ | ⟨invalid, rejected⟩
      · rw [if_pos ⟨lower, upper⟩]
        obtain ⟨ending, result, success⟩ :=
          ih (laidOut_settle laidOut (Choice.single start code)) (start + 1)
            (show start + 1 + codes.length ≤ model.blocks.length by omega)
        refine ⟨ending, ?_, ?_⟩
        · refine (Effect.run_bind model (applyCode start code) _).trans ?_
          rw [applied]
          refine result.trans ?_
          rw [laidOut.settle_settle]
          rfl
        · rw [success, List.cons.injEq]
          exact ⟨fun same => ⟨rfl, same⟩, fun same => same.2⟩
      · rw [if_neg invalid]
        obtain ⟨defect, failed⟩ := rejected
        refine ⟨.error (.format defect), ?_, ?_⟩
        · refine (Effect.run_bind model (applyCode start code) _).trans ?_
          rw [failed]
          exact congrArg (EStateM.Result.error (Fault.format defect)) (settle_nothing model).symm
        · constructor
          · intro impossible
            cases impossible
          · intro impossible
            cases impossible

/-- A solution with no more codes than blocks settles the blocks of its accepted codes. -/
theorem apply_eq {model : Model Float} (laidOut : model.LaidOut) {codes : List Int}
    (few : codes.length ≤ model.blocks.length) :
    ∃ ending : Except Fault Unit,
      apply codes model =
        Effect.ofExcept ending
          (model.settle (Choice.ofCodes (accepted model.blocks codes))) ∧
      (ending = .ok () ↔ accepted model.blocks codes = codes) := by
  obtain ⟨ending, result, success⟩ :=
    forM_applyCode laidOut 0 (show 0 + codes.length ≤ model.blocks.length by omega)
  rw [List.drop_zero] at success result
  refine ⟨ending, ?_, success⟩
  rw [← Choice.assigned_eq_ofCodes, ← result]
  unfold apply
  simp only [Effect.run_bind, Effect.run_get]
  rw [if_neg (by omega)]

/-- A solution with more codes than blocks is rejected at once. -/
theorem apply_of_many {model : Model Float} {codes : List Int}
    (many : model.blocks.length < codes.length) :
    ∃ defect, apply codes model = .error (.format defect) model := by
  unfold apply
  simp only [Effect.run_bind, Effect.run_get]
  rw [if_pos many]
  exact ⟨_, rfl⟩

end Solution

end HingeField
