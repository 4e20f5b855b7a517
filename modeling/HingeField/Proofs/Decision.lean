import HingeField.Proofs.Greedy

/-!
Single decisions. A decision ends by the verdict of its scores: with the better
value, which it stores and commits, or at the value whose score has a fault.
Main statements: what a decision does to the model in either case, and what is
in the arena, in the committed values and in the journal after decisions have
been entered one after the other.
-/

namespace HingeField

namespace Model

section Cells

variable {α : Type} {model : Model α} {index : Int} {offset : Nat}

/-- The end of a decision: its value is in the cell of its variable and on record. -/
def enter (model : Model α) (made : Commit α) : Model α :=
  match resolvePosition? model.values.length made.index with
  | none => model
  | some offset =>
      { model with
        values := model.values.set offset made.value
        committed := Keyed.put model.committed made.index made.value
        journal := if model.keepsJournal then model.journal ++ [made] else model.journal }

def enterAll (model : Model α) (made : List (Commit α)) : Model α :=
  made.foldl enter model

theorem enter_of_resolved {made : Commit α}
    (resolved : resolvePosition? model.values.length made.index = some offset) :
    model.enter made =
      { model with
        values := model.values.set offset made.value
        committed := Keyed.put model.committed made.index made.value
        journal := if model.keepsJournal then model.journal ++ [made] else model.journal } := by
  unfold enter
  rw [resolved]

theorem getElem?_enter_self {made : Commit α}
    (resolved : resolvePosition? model.values.length made.index = some offset) :
    (model.enter made).values[offset]? = some made.value := by
  rw [enter_of_resolved resolved]
  exact List.getElem?_set_self (resolvePosition?_lt resolved)

/-- A decision does not touch the cells that its variable does not name. -/
theorem getElem?_enter_of_unnamed {made : Commit α}
    (unnamed : resolvePosition? model.values.length made.index ≠ some offset) :
    (model.enter made).values[offset]? = model.values[offset]? := by
  unfold enter
  split
  · rfl
  · rename_i other resolved
    apply List.getElem?_set_ne
    rintro rfl
    exact unnamed resolved

/-- A decision enters a model in the same way whatever else is in its arena. -/
theorem enter_of_frame {other : Model α} {made : Commit α}
    (frame : model = { other with values := model.values })
    (sameLength : model.values.length = other.values.length) :
    model.enter made = { other.enter made with values := (model.enter made).values } := by
  obtain ⟨values, same⟩ : ∃ values, model = { other with values } := ⟨_, frame⟩
  subst same
  unfold enter
  rw [← sameLength]
  dsimp only
  split
  · rfl
  · rfl

theorem rewriteValue_of_resolved
    (resolved : resolvePosition? model.values.length index = some offset) (former value : α) :
    writeValue index value { model with values := model.values.set offset former } =
      .ok () { model with values := model.values.set offset value } := by
  have still : resolvePosition? (model.values.set offset former).length index = some offset := by
    rw [List.length_set]
    exact resolved
  have written : writeValue index value { model with values := model.values.set offset former } =
      _ := writeValue_of_resolved still value
  rw [written]
  dsimp only
  rw [List.set_set]

theorem write_then_commit (resolved : resolvePosition? model.values.length index = some offset)
    (value : α) :
    (writeValue index value >>= fun _ => commit index) model =
      .ok () (model.enter ⟨index, value⟩) := by
  have inside := resolvePosition?_lt resolved
  have stands : (model.values.set offset value)[offset]? = some value :=
    List.getElem?_set_self inside
  have again : resolvePosition? (model.values.set offset value).length index = some offset := by
    rw [List.length_set]
    exact resolved
  have read : readValue index { model with values := model.values.set offset value } =
      .ok value { model with values := model.values.set offset value } :=
    readValue_of_resolved again stands
  rw [Effect.run_bind, writeValue_of_resolved resolved, enter_of_resolved resolved]
  unfold commit
  simp only [Effect.run_bind, Effect.run_modify]
  rw [read]

end Cells

section Entries

variable {α : Type}

theorem length_enter (model : Model α) (made : Commit α) :
    (model.enter made).values.length = model.values.length := by
  unfold enter
  split
  · rfl
  · exact List.length_set

theorem length_enterAll (model : Model α) (made : List (Commit α)) :
    (model.enterAll made).values.length = model.values.length := by
  induction made generalizing model with
  | nil => rfl
  | cons first rest ih => exact (ih _).trans (length_enter model first)

/-- The variables behind one that has been decided still have their cells. -/
theorem resolves_enter {model : Model α} {index : Int} {rest : List Int}
    (resolves : Resolves model.values.length (index :: rest)) (made : Commit α) :
    Resolves (model.enter made).values.length rest := by
  rw [length_enter]
  exact fun other member => resolves other (List.mem_cons_of_mem index member)

theorem enterAll_append (model : Model α) (made later : List (Commit α)) :
    model.enterAll (made ++ later) = (model.enterAll made).enterAll later :=
  List.foldl_append

theorem enter_eq (model : Model α) (made : Commit α) :
    ∃ values committed journal, model.enter made = { model with values, committed, journal } := by
  unfold enter
  split
  · exact ⟨_, _, _, rfl⟩
  · exact ⟨_, _, _, rfl⟩

theorem enterAll_eq (model : Model α) (made : List (Commit α)) :
    ∃ values committed journal,
      model.enterAll made = { model with values, committed, journal } := by
  induction made generalizing model with
  | nil => exact ⟨_, _, _, rfl⟩
  | cons first rest ih =>
      obtain ⟨_, _, _, entered⟩ := enter_eq model first
      obtain ⟨values, committed, journal, later⟩ := ih (model.enter first)
      refine ⟨values, committed, journal, later.trans ?_⟩
      rw [entered]

theorem lookup_enter_self {model : Model α} {index : Int} {offset : Nat}
    (resolved : resolvePosition? model.values.length index = some offset) (value : α) :
    (model.enter ⟨index, value⟩).committed.lookup index = some value := by
  rw [enter_of_resolved resolved]
  exact Keyed.lookup_put_self _ _ _

theorem lookup_enter_of_ne (model : Model α) {made : Commit α} {asked : Int}
    (different : asked ≠ made.index) :
    (model.enter made).committed.lookup asked = model.committed.lookup asked := by
  unfold enter
  split
  · rfl
  · exact Keyed.lookup_put_of_ne _ different _

/-- A variable without a decision keeps the value committed for it, or stays without one. -/
theorem lookup_enterAll_of_absent (model : Model α) {made : List (Commit α)} {asked : Int}
    (absent : ∀ commit ∈ made, commit.index ≠ asked) :
    (model.enterAll made).committed.lookup asked = model.committed.lookup asked := by
  induction made generalizing model with
  | nil => rfl
  | cons first rest ih =>
      have later := ih (model.enter first) fun commit member =>
        absent commit (List.mem_cons_of_mem first member)
      exact later.trans (lookup_enter_of_ne model (absent first List.mem_cons_self).symm)

/-- The journal, if there is one, gets the decisions in their order. -/
theorem journal_enterAll (model : Model α) {made : List (Commit α)}
    (resolves : ∀ commit ∈ made,
      (resolvePosition? model.values.length commit.index).isSome = true) :
    (model.enterAll made).journal =
      if model.keepsJournal then model.journal ++ made else model.journal := by
  induction made generalizing model with
  | nil =>
      split
      · exact (List.append_nil _).symm
      · rfl
  | cons first rest ih =>
      obtain ⟨offset, resolved⟩ := Option.isSome_iff_exists.mp (resolves first List.mem_cons_self)
      have entered := enter_of_resolved resolved
      have later := ih (model.enter first) fun commit member => by
        rw [length_enter]
        exact resolves commit (List.mem_cons_of_mem first member)
      change ((model.enter first).enterAll rest).journal = _
      rw [later, entered]
      dsimp only
      split
      · rw [List.append_assoc]
        rfl
      · rfl

/-- A cell has the value decided last for a variable that names it, and this value is the one
committed for the variable; without such a decision the cell is as it was. -/
theorem cell_enterAll (model : Model α) (made : List (Commit α)) (offset : Nat) :
    (∃ commit ∈ made, resolvePosition? model.values.length commit.index = some offset ∧
        (model.enterAll made).values[offset]? = some commit.value ∧
        (model.enterAll made).committed.lookup commit.index = some commit.value) ∨
      ((∀ commit ∈ made, resolvePosition? model.values.length commit.index ≠ some offset) ∧
        (model.enterAll made).values[offset]? = model.values[offset]?) := by
  induction made generalizing model with
  | nil => exact Or.inr ⟨fun _ member => absurd member List.not_mem_nil, rfl⟩
  | cons first rest ih =>
      have later := ih (model.enter first)
      rw [length_enter] at later
      change _ ∨ (_ ∧ ((model.enter first).enterAll rest).values[offset]? = _)
      rcases later with ⟨commit, member, names, stands, recorded⟩ | ⟨unnamed, stands⟩
      · exact Or.inl ⟨commit, List.mem_cons_of_mem first member, names, stands, recorded⟩
      -- no later decision is on this cell, so the first one shows if it is
      by_cases names : resolvePosition? model.values.length first.index = some offset
      · refine Or.inl ⟨first, List.mem_cons_self, names, ?_, ?_⟩
        · change ((model.enter first).enterAll rest).values[offset]? = _
          rw [stands, getElem?_enter_self names]
        · change ((model.enter first).enterAll rest).committed.lookup first.index = _
          rw [lookup_enterAll_of_absent]
          · exact lookup_enter_self names first.value
          · intro commit member same
            exact unnamed commit member (same ▸ names)
      · refine Or.inr ⟨?_, ?_⟩
        · intro commit member
          rcases List.mem_cons.mp member with rfl | member
          · exact names
          · exact unnamed commit member
        · rw [stands, getElem?_enter_of_unnamed names]

end Entries

end Model

namespace Rounding

open Model

variable {α : Type} [Scalar α] {register : Register α} {tieBreak : TieBreak} {model : Model α}
  {index : Int} {offset : Nat}

/-- Scoring the rules of a variable has a fault, at the first of its two values at which it has. -/
inductive FailsAt (rules : List (Rule α)) (arena : Arena α) (offset : Nat) : α → Fault → Prop where
  | zero {fault : Fault}
      (refused : Rule.expectedTotal rules (arena.set offset Scalar.zero) = .error fault) :
      FailsAt rules arena offset Scalar.zero fault
  | one {atZero : α} {fault : Fault}
      (scored : Rule.expectedTotal rules (arena.set offset Scalar.zero) = .ok atZero)
      (refused : Rule.expectedTotal rules (arena.set offset Scalar.one) = .error fault) :
      FailsAt rules arena offset Scalar.one fault

/-- Zero or one. -/
def IsBit (value : α) : Prop :=
  value = Scalar.zero ∨ value = Scalar.one

theorem isBit_nearest (value : α) : IsBit (Scalar.nearest value) := by
  unfold Scalar.nearest
  split
  · exact Or.inr rfl
  · exact Or.inl rfl

theorem isBit_better (tieBreak : TieBreak) (atZero atOne : α) :
    IsBit (better tieBreak atZero atOne) := by
  unfold better
  split
  · exact Or.inr rfl
  · split
    · exact Or.inl rfl
    · cases tieBreak with
      | later => exact Or.inr rfl
      | earlier => exact Or.inl rfl

theorem FailsAt.ruled {arena : Arena α} {trial : α} {fault : Fault}
    (fails : FailsAt (register.rulesFor index) arena offset trial fault) :
    (register.rulesFor index).isEmpty = false := by
  cases ruleless : (register.rulesFor index).isEmpty with
  | false => rfl
  | true =>
      rw [List.isEmpty_iff.mp ruleless] at fails
      cases fails with
      | zero refused => cases refused
      | one _ refused => cases refused

section Steps

variable {current : α}

/-- One trial: the value stands in the arena when it is scored. -/
theorem try_value (resolved : resolvePosition? model.values.length index = some offset)
    (value : α) :
    (writeValue index value >>= fun _ => score register index) model =
      Effect.ofExcept (Rule.expectedTotal (register.rulesFor index) (model.values.set offset value))
        { model with values := model.values.set offset value } := by
  rw [Effect.run_bind, writeValue_of_resolved resolved]
  exact score_eq register index _

theorem retry_value (resolved : resolvePosition? model.values.length index = some offset)
    (former value : α) :
    (writeValue index value >>= fun _ => score register index)
        { model with values := model.values.set offset former } =
      Effect.ofExcept (Rule.expectedTotal (register.rulesFor index) (model.values.set offset value))
        { model with values := model.values.set offset value } := by
  rw [Effect.run_bind, rewriteValue_of_resolved resolved]
  exact score_eq register index _

theorem tryBoth_eq (register : Register α) (tieBreak : TieBreak) (index : Int) (current : α) :
    tryBoth register tieBreak index current =
      ((writeValue index Scalar.zero >>= fun _ => score register index) >>= fun atZero =>
        (writeValue index Scalar.one >>= fun _ => score register index) >>= fun atOne =>
          writeValue index current >>= fun _ => pure (better tieBreak atZero atOne)) := by
  unfold tryBoth
  simp only [bind_assoc]

theorem tryBoth_of_scores (resolved : resolvePosition? model.values.length index = some offset)
    (stands : model.values[offset]? = some current) {atZero atOne : α}
    (scoredZero : Rule.expectedTotal (register.rulesFor index)
      (model.values.set offset Scalar.zero) = .ok atZero)
    (scoredOne : Rule.expectedTotal (register.rulesFor index)
      (model.values.set offset Scalar.one) = .ok atOne) :
    tryBoth register tieBreak index current model = .ok (better tieBreak atZero atOne) model := by
  have restored : model.values.set offset current = model.values := by
    obtain ⟨inside, rfl⟩ := List.getElem?_eq_some_iff.mp stands
    exact List.set_getElem_self inside
  rw [tryBoth_eq, Effect.run_bind, try_value resolved, scoredZero, Effect.run_ofExcept_ok]
  dsimp only
  rw [Effect.run_bind, retry_value resolved, scoredOne, Effect.run_ofExcept_ok]
  dsimp only
  rw [Effect.run_bind, rewriteValue_of_resolved resolved, restored]
  rfl

theorem tryBoth_of_fault (resolved : resolvePosition? model.values.length index = some offset)
    {trial : α} {fault : Fault}
    (fails : FailsAt (register.rulesFor index) model.values offset trial fault) :
    tryBoth register tieBreak index current model =
      .error fault { model with values := model.values.set offset trial } := by
  rw [tryBoth_eq, Effect.run_bind, try_value resolved]
  cases fails with
  | zero refused =>
      rw [refused]
      rfl
  | one scored refused =>
      rw [scored, Effect.run_ofExcept_ok]
      dsimp only
      rw [Effect.run_bind, retry_value resolved, refused]
      rfl

theorem decideVariable_eq (register : Register α) (tieBreak : TieBreak) (index : Int) :
    decideVariable register tieBreak index =
      (readValue index >>= fun current =>
        (if (register.rulesFor index).isEmpty then pure (Scalar.nearest current)
          else tryBoth register tieBreak index current) >>= fun best =>
            (writeValue index best >>= fun _ => commit index) >>= fun _ => pure best) := by
  unfold decideVariable
  simp only [bind_assoc]
  cases (register.rulesFor index).isEmpty with
  | true => rfl
  | false => rfl

theorem decideVariable_of_choice {middle : α}
    (resolved : resolvePosition? model.values.length index = some offset)
    (stands : model.values[offset]? = some current)
    (chosen : (if (register.rulesFor index).isEmpty then pure (Scalar.nearest current)
      else tryBoth register tieBreak index current) model = .ok middle model) :
    decideVariable register tieBreak index model = .ok middle (model.enter ⟨index, middle⟩) := by
  rw [decideVariable_eq, Effect.run_bind, readValue_of_resolved resolved stands]
  dsimp only
  rw [Effect.run_bind, chosen]
  dsimp only
  rw [Effect.run_bind, write_then_commit resolved]
  rfl

theorem decideVariable_of_ruleless
    (resolved : resolvePosition? model.values.length index = some offset)
    (stands : model.values[offset]? = some current)
    (ruleless : (register.rulesFor index).isEmpty = true) :
    decideVariable register tieBreak index model =
      .ok (Scalar.nearest current) (model.enter ⟨index, Scalar.nearest current⟩) := by
  apply decideVariable_of_choice resolved stands
  rw [if_pos ruleless]
  rfl

theorem decideVariable_of_scores
    (resolved : resolvePosition? model.values.length index = some offset)
    (stands : model.values[offset]? = some current)
    (ruled : (register.rulesFor index).isEmpty = false) {atZero atOne : α}
    (scoredZero : Rule.expectedTotal (register.rulesFor index)
      (model.values.set offset Scalar.zero) = .ok atZero)
    (scoredOne : Rule.expectedTotal (register.rulesFor index)
      (model.values.set offset Scalar.one) = .ok atOne) :
    decideVariable register tieBreak index model =
      .ok (better tieBreak atZero atOne) (model.enter ⟨index, better tieBreak atZero atOne⟩) := by
  apply decideVariable_of_choice resolved stands
  rw [if_neg (Bool.eq_false_iff.mp ruled)]
  exact tryBoth_of_scores resolved stands scoredZero scoredOne

theorem decideVariable_of_fault
    (resolved : resolvePosition? model.values.length index = some offset)
    (stands : model.values[offset]? = some current) {trial : α} {fault : Fault}
    (fails : FailsAt (register.rulesFor index) model.values offset trial fault) :
    decideVariable register tieBreak index model =
      .error fault { model with values := model.values.set offset trial } := by
  rw [decideVariable_eq, Effect.run_bind, readValue_of_resolved resolved stands]
  dsimp only
  rw [if_neg (Bool.eq_false_iff.mp fails.ruled), Effect.run_bind, tryBoth_of_fault resolved fails]

theorem decideVariable_of_unresolved
    (unresolved : resolvePosition? model.values.length index = none) :
    decideVariable register tieBreak index model =
      .error (indexFault index model.values.length) model := by
  rw [decideVariable_eq, Effect.run_bind, readValue_of_unresolved unresolved]

/-- A decision enters zero or one, or it fails at a trial. -/
theorem decideVariable_cases (register : Register α) (tieBreak : TieBreak)
    (resolved : resolvePosition? model.values.length index = some offset) :
    (∃ best, IsBit best ∧
        decideVariable register tieBreak index model = .ok best (model.enter ⟨index, best⟩)) ∨
      ∃ trial fault, FailsAt (register.rulesFor index) model.values offset trial fault ∧
        decideVariable register tieBreak index model =
          .error fault { model with values := model.values.set offset trial } := by
  have stands := List.getElem?_eq_getElem (resolvePosition?_lt resolved)
  cases ruled : (register.rulesFor index).isEmpty with
  | true =>
      exact Or.inl ⟨_, isBit_nearest _, decideVariable_of_ruleless resolved stands ruled⟩
  | false =>
      cases scoredZero : Rule.expectedTotal (register.rulesFor index)
        (model.values.set offset Scalar.zero) with
      | error fault =>
          have fails := FailsAt.zero scoredZero
          exact Or.inr ⟨_, _, fails, decideVariable_of_fault resolved stands fails⟩
      | ok atZero =>
          cases scoredOne : Rule.expectedTotal (register.rulesFor index)
            (model.values.set offset Scalar.one) with
          | error fault =>
              have fails := FailsAt.one scoredZero scoredOne
              exact Or.inr ⟨_, _, fails, decideVariable_of_fault resolved stands fails⟩
          | ok atOne =>
              exact Or.inl ⟨_, isBit_better _ _ _,
                decideVariable_of_scores resolved stands ruled scoredZero scoredOne⟩

/-- A decision fails if its index names no cell, or if scoring does at one of the trials, and then
this trial is in the cell and all else as it was. -/
theorem decideVariable_eq_error_iff {fault : Fault} {finish : Model α} :
    decideVariable register tieBreak index model = .error fault finish ↔
      (resolvePosition? model.values.length index = none ∧
          fault = indexFault index model.values.length ∧ finish = model) ∨
        ∃ offset trial, resolvePosition? model.values.length index = some offset ∧
          FailsAt (register.rulesFor index) model.values offset trial fault ∧
          finish = { model with values := model.values.set offset trial } := by
  cases resolved : resolvePosition? model.values.length index with
  | none =>
      rw [decideVariable_of_unresolved resolved]
      constructor
      · intro failure
        cases failure
        exact Or.inl ⟨rfl, rfl, rfl⟩
      · rintro (⟨_, rfl, rfl⟩ | ⟨_, _, impossible, _⟩)
        · rfl
        · cases impossible
  | some offset =>
      have stands := List.getElem?_eq_getElem (resolvePosition?_lt resolved)
      constructor
      · intro failure
        rcases decideVariable_cases register tieBreak resolved with
          ⟨best, _, success⟩ | ⟨trial, other, fails, ended⟩
        · cases success.symm.trans failure
        · cases ended.symm.trans failure
          exact Or.inr ⟨offset, trial, rfl, fails, rfl⟩
      · rintro (⟨impossible, _⟩ | ⟨_, trial, same, fails, rfl⟩)
        · cases impossible
        · cases same
          exact decideVariable_of_fault resolved stands fails

end Steps

section Runs

/-- Decisions made in turn on the listed variables. -/
structure Made (listed : List Int) (made : List (Commit α)) : Prop where
  turns : made.map (·.index) = listed
  areBits : ∀ commit ∈ made, IsBit commit.value

theorem made_nil : Made [] ([] : List (Commit α)) :=
  ⟨rfl, fun _ member => absurd member List.not_mem_nil⟩

theorem Made.cons {listed : List Int} {made : List (Commit α)} {value : α}
    (others : Made listed made) (isBit : IsBit value) :
    Made (index :: listed) (⟨index, value⟩ :: made) := by
  refine ⟨congrArg (index :: ·) others.turns, ?_⟩
  intro commit member
  rcases List.mem_cons.mp member with rfl | member
  · exact isBit
  · exact others.areBits commit member

theorem Made.append {listed later : List Int} {made laterMade : List (Commit α)}
    (first : Made listed made) (second : Made later laterMade) :
    Made (listed ++ later) (made ++ laterMade) := by
  refine ⟨by rw [List.map_append, first.turns, second.turns], ?_⟩
  intro commit member
  rcases List.mem_append.mp member with early | late
  · exact first.areBits commit early
  · exact second.areBits commit late

theorem Made.mem_listed {listed : List Int} {made : List (Commit α)} (turns : Made listed made)
    {commit : Commit α} (member : commit ∈ made) : commit.index ∈ listed := by
  rw [← turns.turns]
  exact List.mem_map.mpr ⟨commit, member, rfl⟩

theorem Made.exists_commit {listed : List Int} {made : List (Commit α)} (turns : Made listed made)
    (member : index ∈ listed) : ∃ commit ∈ made, commit.index = index := by
  rw [← turns.turns] at member
  exact List.mem_map.mp member

theorem decideAll_of_ok {listed : List Int} {finish : Model α}
    (resolves : Resolves model.values.length listed)
    (success : decideAll register tieBreak listed model = .ok () finish) :
    ∃ made, Made listed made ∧ finish = model.enterAll made := by
  induction listed generalizing model with
  | nil =>
      cases success
      exact ⟨[], made_nil, rfl⟩
  | cons index rest ih =>
      obtain ⟨best, middle, decided, others⟩ := decideAll_cons_eq_ok_iff.mp success
      obtain ⟨offset, resolved⟩ := resolves index List.mem_cons_self
      rcases decideVariable_cases register tieBreak resolved with
        ⟨value, isBit, entered⟩ | ⟨_, _, _, failed⟩
      · cases entered.symm.trans decided
        obtain ⟨made, turns, rfl⟩ := ih (resolves_enter resolves _) others
        exact ⟨_, turns.cons isBit, rfl⟩
      · cases failed.symm.trans decided

/-- Decisions in turn end before the first one that fails, which leaves its trial. -/
theorem decideAll_of_error {listed : List Int} {finish : Model α} {fault : Fault}
    (resolves : Resolves model.values.length listed)
    (failure : decideAll register tieBreak listed model = .error fault finish) :
    ∃ done index rest made offset trial, listed = done ++ index :: rest ∧ Made done made ∧
      resolvePosition? model.values.length index = some offset ∧
      FailsAt (register.rulesFor index) (model.enterAll made).values offset trial fault ∧
      finish = { model.enterAll made with
        values := (model.enterAll made).values.set offset trial } := by
  obtain ⟨done, index, rest, middle, rfl, passed, failed⟩ := Effect.forM_eq_error_iff.mp failure
  have before : decideAll register tieBreak done model = .ok () middle := passed
  obtain ⟨made, turns, rfl⟩ := decideAll_of_ok
    (fun other member => resolves other (List.mem_append_left _ member)) before
  obtain ⟨offset, resolved⟩ := resolves index (List.mem_append_right _ List.mem_cons_self)
  rcases Effect.bind_eq_error_iff.mp failed with refused | ⟨_, _, _, impossible⟩
  · rcases decideVariable_eq_error_iff.mp refused with ⟨unresolved, _⟩ | ⟨other, trial, same, ended⟩
    · rw [length_enterAll, resolved] at unresolved
      cases unresolved
    · rw [length_enterAll, resolved] at same
      cases same
      exact ⟨done, index, rest, made, offset, trial, rfl, turns, resolved, ended⟩
  · cases impossible

end Runs

end Rounding

end HingeField
