import HingeField.Proofs.Decision

/-!
Decisions that fail. Main statement: when scoring fails, the variable is left
at the value it was being tried at, and all else is as before the decision; a
single worker that comes to such a variable leaves the variables before it at
their committed values and those behind it softened.
-/

namespace HingeField.Rounding

open Model

variable {α : Type} [Scalar α] {register : Register α} {tieBreak : TieBreak}
  {model finish : Model α} {indices : List Int}

/-- What a single worker leaves when the decision of a variable fails. The variables before it have
been decided, so that a cell is at the value committed for one of them or at its softened value;
only the cell of the failing variable is neither, but at the trial that has failed. -/
structure Halted (register : Register α) (model : Model α) (indices done : List Int) (index : Int)
    (offset : Nat) (trial : α) (fault : Fault) (finish : Model α) : Prop where
  names : resolvePosition? model.values.length index = some offset
  fails : FailsAt (register.rulesFor index) finish.values offset trial fault
  atTrial : finish.values[offset]? = some trial
  decided : ∀ other ∈ done, ∃ value, IsBit value ∧ finish.committed.lookup other = some value
  undecided : ∀ other, other ∉ done → finish.committed.lookup other = model.committed.lookup other
  listed : ∀ other ∈ indices, ∀ cell, resolvePosition? model.values.length other = some cell →
    cell ≠ offset →
    (∃ before ∈ done, resolvePosition? model.values.length before = some cell ∧
        finish.values[cell]? = finish.committed.lookup before) ∨
      ((∀ before ∈ done, resolvePosition? model.values.length before ≠ some cell) ∧
        finish.values[cell]? = (model.values[cell]?).map Scalar.softened)
  elsewhere : ∀ cell,
    (∀ other ∈ indices, resolvePosition? model.values.length other ≠ some cell) →
    finish.values[cell]? = model.values[cell]?
  unchanged : finish = { model with
    values := finish.values, committed := finish.committed, journal := finish.journal }

theorem FailsAt.of_trial {rules : List (Rule α)} {arena : Arena α} {offset : Nat} {trial : α}
    {fault : Fault} (fails : FailsAt rules arena offset trial fault) (value : α) :
    FailsAt rules (arena.set offset value) offset trial fault := by
  cases fails with
  | zero refused =>
      apply FailsAt.zero
      rw [List.set_set]
      exact refused
  | one scored refused =>
      apply FailsAt.one
      · rw [List.set_set]
        exact scored
      · rw [List.set_set]
        exact refused

theorem lookup_enterAll_of_made {listed : List Int} {made : List (Commit α)} {index : Int}
    (turns : Made listed made) (member : index ∈ listed)
    (resolves : Resolves model.values.length listed) :
    ∃ value, IsBit value ∧ (model.enterAll made).committed.lookup index = some value := by
  induction made generalizing model listed with
  | nil =>
      rw [← turns.turns] at member
      cases member
  | cons first rest ih =>
      obtain rfl := turns.turns
      have others : Made (rest.map (·.index)) rest :=
        ⟨rfl, fun commit later => turns.areBits commit (List.mem_cons_of_mem first later)⟩
      -- a variable listed again is on record by its last decision
      by_cases again : index ∈ rest.map (·.index)
      · have later : Resolves (model.enter first).values.length (rest.map (·.index)) := by
          rw [length_enter]
          exact fun other later => resolves other (List.mem_cons_of_mem _ later)
        exact ih others again later
      · rcases List.mem_cons.mp member with rfl | later
        · obtain ⟨offset, resolved⟩ := resolves first.index List.mem_cons_self
          refine ⟨first.value, turns.areBits first List.mem_cons_self, ?_⟩
          change ((model.enter first).enterAll rest).committed.lookup first.index = _
          rw [lookup_enterAll_of_absent, enter_of_resolved resolved]
          · exact Keyed.lookup_put_self _ _ _
          · intro commit later same
            exact again (List.mem_map.mpr ⟨commit, later, same⟩)
        · exact absurd later again

theorem Softened.halted {softened : Model α} (softening : Softened model indices.eraseDups softened)
    {done : List Int} {index : Int} {rest : List Int} {made : List (Commit α)} {offset : Nat}
    {trial : α} {fault : Fault} (turns : Made done made)
    (all : ∀ other, other ∈ indices ↔ other ∈ done ++ index :: rest)
    (resolves : Resolves softened.values.length (done ++ index :: rest))
    (names : resolvePosition? softened.values.length index = some offset)
    (fails : FailsAt (register.rulesFor index) (softened.enterAll made).values offset trial fault) :
    Halted register model indices done index offset trial fault
      { softened.enterAll made with
        values := (softened.enterAll made).values.set offset trial } := by
  obtain ⟨_, _, _, entered⟩ := enterAll_eq softened made
  have size := length_enterAll softened made
  have inside : offset < (softened.enterAll made).values.length := by
    rw [size]
    exact resolvePosition?_lt names
  rw [softening.sameLength] at names
  have doneResolves : Resolves softened.values.length done := fun other member =>
    resolves other (List.mem_append_left _ member)
  have kept (cell : Nat) (different : cell ≠ offset) :
      ((softened.enterAll made).values.set offset trial)[cell]? =
        (softened.enterAll made).values[cell]? :=
    List.getElem?_set_ne different.symm
  have cells := cell_enterAll softened made
  rw [softening.sameLength] at cells
  refine ⟨names, fails.of_trial trial, List.getElem?_set_self inside, ?_, ?_, ?_, ?_, ?_⟩
  · intro other member
    exact lookup_enterAll_of_made turns member doneResolves
  · intro other absent
    dsimp only
    rw [lookup_enterAll_of_absent, softening.unchanged]
    intro commit member same
    exact absent (same ▸ turns.mem_listed member)
  · intro other member cell resolved different
    dsimp only
    rw [kept cell different]
    rcases cells cell with ⟨commit, early, same, stands, recorded⟩ | ⟨unnamed, stands⟩
    · exact Or.inl ⟨commit.index, turns.mem_listed early, same, stands.trans recorded.symm⟩
    · refine Or.inr ⟨?_, ?_⟩
      · intro before early
        obtain ⟨commit, member, rfl⟩ := turns.exists_commit early
        exact unnamed commit member
      · rw [stands]
        exact softening.listed other (List.mem_eraseDups.mpr member) cell resolved
  · intro cell unlisted
    have apart : cell ≠ offset := by
      rintro rfl
      exact unlisted index ((all index).mpr (List.mem_append_right _ List.mem_cons_self)) names
    dsimp only
    rw [kept cell apart]
    rcases cells cell with ⟨commit, early, same, _⟩ | ⟨_, stands⟩
    · refine absurd same (unlisted commit.index ((all commit.index).mpr ?_))
      exact List.mem_append_left _ (turns.mem_listed early)
    · rw [stands]
      exact softening.elsewhere cell fun other member =>
        unlisted other (List.mem_eraseDups.mp member)
  · dsimp only
    rw [entered, softening.unchanged]

/-- A greedy pass by a single worker fails before it has changed anything, or at a decision. -/
theorem halted_of_greedy {workers : Int} {fault : Fault} (single : workers ≤ 1)
    (failure : greedy register tieBreak workers indices model = .error fault finish) :
    finish = model ∨
      ∃ done index rest offset trial, (done ++ index :: rest).Perm indices.eraseDups ∧
        Halted register model indices done index offset trial fault finish := by
  rw [greedy_eq] at failure
  rcases prepare_cases indices model with
    ⟨starting, ordered, softened, success, prepared⟩ | ⟨early, refused⟩
  · rw [Effect.run_bind, success] at failure
    have sameLength := prepared.softened.sameLength
    have perm := prepared.perm
    have resolves : Resolves softened.values.length ordered := by
      intro index member
      rw [sameLength]
      exact prepared.resolves index (perm.mem_iff.mp member)
    have decided : decideBy register tieBreak workers ordered =
        decideAll register tieBreak ordered := if_pos single
    simp only [decided] at failure
    rcases Effect.bind_eq_error_iff.mp failure with stopped | ⟨_, after, passed, unread⟩
    · obtain ⟨done, index, rest, made, offset, trial, rfl, turns, names, fails, rfl⟩ :=
        decideAll_of_error resolves stopped
      refine Or.inr ⟨done, index, rest, offset, trial, perm, ?_⟩
      refine prepared.softened.halted turns (fun other => ?_) resolves names fails
      rw [perm.mem_iff, List.mem_eraseDups]
    · obtain ⟨made, _, rfl⟩ := decideAll_of_ok resolves passed
      obtain ⟨outcome, ended⟩ := outcomeFrom_total prepared.read
        ((length_enterAll softened made).trans sameLength)
      cases ended.symm.trans unread
  · rw [Effect.run_bind, refused] at failure
    cases failure
    exact Or.inl rfl

/-- A decision fails where its index names no cell, which changes nothing, or where scoring has a
fault at zero or at one. This value is then left in the cell of the variable, so that the model is
as before if it was there already; a single worker that is stopped by it leaves the other variables
at committed or softened values. -/
theorem failed_decision_leaves_trial (register : Register α) (tieBreak : TieBreak)
    (model : Model α) :
    (∀ index fault finish, decideVariable register tieBreak index model = .error fault finish ↔
      (resolvePosition? model.values.length index = none ∧
          fault = indexFault index model.values.length ∧ finish = model) ∨
        ∃ offset trial, resolvePosition? model.values.length index = some offset ∧
          FailsAt (register.rulesFor index) model.values offset trial fault ∧
          finish = { model with values := model.values.set offset trial }) ∧
      (∀ index offset trial fault finish,
        resolvePosition? model.values.length index = some offset →
        FailsAt (register.rulesFor index) model.values offset trial fault →
        decideVariable register tieBreak index model = .error fault finish →
        (finish = model ↔ model.values[offset]? = some trial)) ∧
      ∀ workers indices fault finish, workers ≤ 1 →
        greedy register tieBreak workers indices model = .error fault finish →
        finish = model ∨
          ∃ done index rest offset trial, (done ++ index :: rest).Perm indices.eraseDups ∧
            Halted register model indices done index offset trial fault finish := by
  refine ⟨fun index fault finish => decideVariable_eq_error_iff, ?_, ?_⟩
  · intro index offset trial fault finish resolved fails failure
    have inside := resolvePosition?_lt resolved
    obtain rfl : finish = { model with values := model.values.set offset trial } := by
      rw [decideVariable_of_fault resolved (List.getElem?_eq_getElem inside) fails] at failure
      cases failure
      rfl
    constructor
    · intro same
      rw [← congrArg Model.values same]
      exact List.getElem?_set_self inside
    · intro stands
      obtain ⟨_, rfl⟩ := List.getElem?_eq_some_iff.mp stands
      rw [List.set_getElem_self]
  · intro workers indices fault finish single failure
    exact halted_of_greedy single failure

section Faulty

/-- A clause, and a rule whose evaluation has a fault. -/
def faultyRules : List (Rule Float) :=
  [{ weight := 1.0, name := "sound", body := .clause [⟨0, true⟩] false },
    { weight := 1.0, name := "faulty"
      body := .custom ⟨"faulty", [1], fun _ => .error (.ruleEvaluation "x")⟩ }]

def faultyModel : Model Float :=
  { values := [0.9, 0.3], owners := [none, none], rules := faultyRules }

def faultySoftened : Model Float :=
  { faultyModel with values := [Scalar.softened 0.9, Scalar.softened 0.3] }

/-- Where a single worker is stopped: the second variable is neither committed nor softened. -/
def faultyHalted : Model Float :=
  { faultyModel with values := [1.0, 0.0], committed := [(0, 1.0)], journal := [⟨0, 1.0⟩] }

theorem prepare_faultyModel :
    prepare [0, 1] faultyModel = .ok ([0.9, 0.3], [0, 1]) faultySoftened := by
  have softened : soften [0, 1] faultyModel = .ok () faultySoftened := by
    with_unfolding_all rfl
  have ordered : order [0, 1] faultySoftened = .ok [0, 1] faultySoftened := by
    have found : valuesAtWords [0, 1] faultySoftened =
        .ok [Scalar.softened 0.9, Scalar.softened 0.3] faultySoftened := rfl
    unfold order
    rw [Effect.run_bind, found]
    simp only
    rw [List.mergeSort_of_pairwise (by decide +kernel)]
    rfl
  have distinct : ([0, 1] : List Int).eraseDups = [0, 1] := eraseDups_of_nodup (by decide)
  have starting : valuesAtBits [0, 1] faultyModel = .ok [0.9, 0.3] faultyModel := rfl
  unfold prepare
  simp only [distinct, Effect.run_bind, starting, softened, ordered, Effect.run_pure]

theorem decideAll_faultySoftened :
    decideAll (Register.ofList faultyRules) .later [0, 1] faultySoftened =
      .error (.ruleEvaluation "x") faultyHalted := by
  with_unfolding_all rfl

theorem greedy_faultyModel :
    greedy (Register.ofList faultyRules) .later 1 [0, 1] faultyModel =
      .error (.ruleEvaluation "x") faultyHalted := by
  have stopped := decideAll_faultySoftened
  rw [← decideBy_one] at stopped
  rw [greedy_eq]
  exact Effect.bind_eq_error_iff.mpr (Or.inr ⟨_, _, prepare_faultyModel,
    Effect.bind_eq_error_iff.mpr (Or.inl stopped)⟩)

theorem failed_decision_changes_arena :
    (∃ fault finish,
      decideVariable (Register.ofList faultyRules) .later 1 faultyModel = .error fault finish ∧
        finish.values = [0.9, 0.0] ∧ finish.values ≠ faultyModel.values) ∧
      ∃ fault finish,
        greedy (Register.ofList faultyRules) .later 1 [0, 1] faultyModel = .error fault finish ∧
          finish.values[1]? ≠ finish.committed.lookup 1 ∧
          finish.values[1]? ≠ (faultyModel.values[1]?).map Scalar.softened := by
  have decided : decideVariable (Register.ofList faultyRules) .later 1 faultyModel =
      .error (.ruleEvaluation "x") { faultyModel with values := [0.9, 0.0] } := by
    with_unfolding_all rfl
  refine ⟨⟨_, _, decided, rfl, by decide⟩,
    _, _, greedy_faultyModel, ?_, ?_⟩
  · decide
  · decide

theorem failed_decision_leaves_trial_faulty :
    greedy (Register.ofList faultyRules) .later 1 [0, 1] faultyModel =
        .error (.ruleEvaluation "x") faultyHalted ∧
      ∃ done index rest offset trial,
        (done ++ index :: rest).Perm ([0, 1] : List Int).eraseDups ∧
        Halted (Register.ofList faultyRules) faultyModel [0, 1] done index offset trial
          (.ruleEvaluation "x") faultyHalted := by
  refine ⟨greedy_faultyModel, ?_⟩
  have stopped := (failed_decision_leaves_trial (Register.ofList faultyRules) .later
    faultyModel).2.2 1 [0, 1] _ _ (Int.le_refl 1) greedy_faultyModel
  refine stopped.resolve_left fun same => ?_
  have values : ([1.0, 0.0] : List Float) = [0.9, 0.3] := congrArg Model.values same
  exact absurd values (by decide)

end Faulty

end HingeField.Rounding
