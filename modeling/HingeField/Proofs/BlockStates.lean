import HingeField.Proofs.ExactSums
import HingeField.Proofs.Partition
import HingeField.Proofs.ResultsFile

/-!
Category codes and the states of a block. A block is in a state if its members
are zeros and ones with exactly one one, or with none where this is allowed.
Main statement: the blocks that are in a state are those from which a category
can be read, and reading and assigning a category undo each other, whatever
layout a history left and whatever the arena holds.
-/

namespace HingeField

open Doubles Model Solution

/-- Each member is zero, of either sign, or one, and one of them is one, or at most one where none
is allowed. -/
structure Block.HasState (block : Block) (members : List Float) : Prop where
  discrete : ∀ value ∈ members, value = 0.0 ∨ value = -0.0 ∨ value = 1.0
  atMostOne : members.count 1.0 ≤ 1
  atLeastOne : block.exactlyOne = true → 1 ≤ members.count 1.0

section Members

theorem isDiscrete_iff {value : Float} :
    isDiscrete value = true ↔ value = 0.0 ∨ value = -0.0 ∨ value = 1.0 := by
  change ((value == 0.0) || (value == 1.0)) = true ↔ _
  rw [Bool.or_eq_true, beq_zero_iff, beq_one_iff, or_assoc]

theorem mem_trueOffsets_iff {members : List Float} {offset : Nat} :
    offset ∈ trueOffsets members ↔ members[offset]? = some 1.0 := by
  rw [mem_trueOffsets]
  constructor
  · rintro ⟨value, stands, isOne⟩
    rw [stands, beq_one_iff.mp isOne]
  · intro stands
    exact ⟨1.0, stands, equal_one_one⟩

theorem length_trueOffsets (members : List Float) :
    (trueOffsets members).length = members.count 1.0 := by
  have listed : members = members.zipIdx.map (·.1) := (List.zipIdx_map_fst 0 members).symm
  unfold trueOffsets
  rw [List.length_map, List.count, List.countP_eq_length_filter]
  conv_rhs => rw [listed, List.filter_map, List.length_map]
  rfl

end Members

section Reading

variable {model : Model Float} {position : Int} {place : Nat} {block : Block}

/-- A category is read from a block that is in a state, and names the member that is one. -/
theorem categoryOf_cases (located : model.blockAt position = .ok block) :
    (block.HasState (block.members model.values) ∧ ∃ code chosen,
        model.categoryOf position = .ok code ∧
        trueOffsets (block.members model.values) = chosen.toList ∧
        (chosen = none → block.exactlyOne = false ∧ code = 0) ∧
        ∀ offset : Nat, chosen = some offset →
          code = if block.exactlyOne then (offset : Int) else offset + 1) ∨
      (¬block.HasState (block.members model.values) ∧
        (model.categoryOf position = .error (.notDiscrete position (block.members model.values)) ∨
          model.categoryOf position = .error (.noTrueMember position))) := by
  have count := length_trueOffsets (block.members model.values)
  unfold categoryOf
  rw [located, Effect.ok_bind]
  dsimp only
  by_cases discrete : (block.members model.values).all isDiscrete = true
  · have bits : ∀ value ∈ block.members model.values, value = 0.0 ∨ value = -0.0 ∨ value = 1.0 :=
      fun value member => isDiscrete_iff.mp (List.all_eq_true.mp discrete value member)
    rw [discrete]
    cases chosen : trueOffsets (block.members model.values) with
    | nil =>
        rw [chosen, List.length_nil] at count
        cases exact : block.exactlyOne with
        | true =>
            refine Or.inr ⟨?_, Or.inr rfl⟩
            intro state
            have filled := state.atLeastOne exact
            omega
        | false =>
            refine Or.inl ⟨⟨bits, by omega, fun required => ?_⟩, 0, none, rfl, rfl,
              fun _ => ⟨rfl, rfl⟩, nofun⟩
            rw [exact] at required
            cases required
    | cons first others =>
        rw [chosen, List.length_cons] at count
        cases others with
        | nil =>
            rw [List.length_nil] at count
            refine Or.inl ⟨⟨bits, by omega, fun _ => by omega⟩, _, some first, rfl, rfl, nofun, ?_⟩
            intro offset same
            cases same
            rfl
        | cons second others =>
            refine Or.inr ⟨?_, Or.inl rfl⟩
            intro state
            have single := state.atMostOne
            rw [List.length_cons] at count
            omega
  · refine Or.inr ⟨?_, Or.inl ?_⟩
    · intro state
      apply discrete
      rw [List.all_eq_true]
      exact fun value member => isDiscrete_iff.mpr (state.discrete value member)
    · rw [Bool.not_eq_true] at discrete
      rw [discrete, Bool.not_false, Bool.or_true]
      rfl

/-- A code that is read from a block is one of its codes, and switches on the member that is one. -/
theorem variableFor_of_categoryOf (located : model.blockAt position = .ok block)
    (counted : (block.members model.values).length = block.size.toNat)
    (nonempty : 0 < block.size) {code : Int} (read : model.categoryOf position = .ok code) :
    block.HasState (block.members model.values) ∧ 0 ≤ code ∧ code < block.cardinality ∧
      ∃ chosen : Option Nat, trueOffsets (block.members model.values) = chosen.toList ∧
        block.variableFor code = .ok (chosen.map fun (offset : Nat) => block.start + (offset : Int)) := by
  rcases categoryOf_cases located with
    ⟨state, found, chosen, same, offsets, unchosen, named⟩ | ⟨_, refused | refused⟩
  · rw [read] at same
    cases same
    cases chosen with
    | none =>
        obtain ⟨allowed, rfl⟩ := unchosen rfl
        have valid : (0 : Int) ≤ 0 ∧ 0 < block.cardinality := by
          unfold Block.cardinality
          rw [allowed, if_neg Bool.false_ne_true]
          omega
        refine ⟨state, valid.1, valid.2, none, offsets, ?_⟩
        unfold Block.variableFor
        rw [if_pos valid, allowed, if_neg Bool.false_ne_true, if_pos rfl]
        rfl
    | some offset =>
        have stands : (block.members model.values)[offset]? = some 1.0 := by
          rw [← mem_trueOffsets_iff, offsets]
          exact List.mem_singleton_self offset
        have inside := (List.getElem?_eq_some_iff.mp stands).choose
        have coded := named offset rfl
        have valid : 0 ≤ code ∧ code < block.cardinality := by
          unfold Block.cardinality
          rw [coded]
          split
          · omega
          · omega
        refine ⟨state, valid.1, valid.2, some offset, offsets, ?_⟩
        unfold Block.variableFor
        rw [if_pos valid, Option.map_some]
        congr 1
        cases exact : block.exactlyOne with
        | true =>
            rw [exact, if_pos rfl] at coded
            rw [if_pos rfl, coded]
        | false =>
            rw [exact, if_neg Bool.false_ne_true] at coded
            rw [if_neg Bool.false_ne_true, if_neg (by omega)]
            congr 1
            omega
  · rw [refused] at read
    cases read
  · rw [refused] at read
    cases read

/-- Positions of one block, counted from either end, have one category. -/
theorem categoryOf_congr {other code : Int} (same : model.blockAt other = model.blockAt position)
    (read : model.categoryOf position = .ok code) : model.categoryOf other = .ok code := by
  unfold categoryOf at read ⊢
  rw [same]
  cases located : model.blockAt position with
  | error fault =>
      rw [located] at read
      cases read
  | ok block =>
      rw [located, Effect.ok_bind] at read
      rw [Effect.ok_bind]
      dsimp only at read ⊢
      split at read
      · cases read
      · rename_i discrete
        rw [if_neg discrete]
        split at read
        · split at read
          · cases read
          · rename_i allowed
            rw [if_neg allowed]
            exact read
        · exact read

end Reading

section Assigning

variable {model : Model Float} {position code : Int} {place : Nat} {block : Block}

theorem exists_place (located : model.blockAt position = .ok block) :
    ∃ place : Nat, model.blocks[place]? = some block := by
  unfold blockAt at located
  split at located
  · rename_i found
    cases located
    obtain ⟨place, _, stands⟩ := elementAt?_eq_some_iff.mp found
    exact ⟨place, stands⟩
  · cases located

/-- Assigning a category settles its block, from whichever end the block is counted. -/
theorem assignCategory_of_located (laidOut : model.LaidOut)
    (located : model.blockAt position = .ok block) (found : model.blocks[place]? = some block)
    (valid : 0 ≤ code ∧ code < block.cardinality) :
    assignCategory position code model =
      .ok () (model.settle (Choice.single place code)) := by
  rw [← laidOut.assignCategory_eq found valid]
  unfold assignCategory
  simp only [Effect.run_bind, Effect.run_get, located, blockAt_natCast_eq_ok_iff.mpr found]

theorem assignCategory_of_invalid (located : model.blockAt position = .ok block)
    (invalid : ¬(0 ≤ code ∧ code < block.cardinality)) :
    assignCategory position code model =
      .error (.categoryOutOfRange code block.cardinality) model := by
  unfold assignCategory Block.variableFor
  simp only [Effect.run_bind, Effect.run_get, located, Effect.run_ofExcept_ok, if_neg invalid,
    Effect.run_ofExcept_error]

theorem isInState_settle (laidOut : model.LaidOut) (place : Nat) (code : Int) :
    IsInState (model.settle (Choice.single place code)) place code := by
  have again : (model.settle (Choice.single place code)).settle (Choice.single place code) =
      model.settle (Choice.single place code) := by
    rw [laidOut.settle_settle, Choice.followedBy_of_covered fun _ uncoded => uncoded]
  refine (settled_eq_values_iff (laidOut_settle laidOut _) (Choice.single place code)).mp ?_
    place code (if_pos rfl)
  exact congrArg Model.values again

/-- Assigning the category that is read from a block writes zero over its negative zeros, and
nothing else. -/
theorem settled_of_categoryOf (laidOut : model.LaidOut)
    (located : model.blockAt position = .ok block) (found : model.blocks[place]? = some block)
    (read : model.categoryOf position = .ok code) (offset : Nat) :
    (model.settled (Choice.single place code))[offset]? = model.values[offset]? ∨
      model.values[offset]? = some (-0.0) ∧
        (model.settled (Choice.single place code))[offset]? = some 0.0 := by
  obtain ⟨lower, nonempty, upper⟩ := laidOut.bounds found
  obtain ⟨state, _, _, chosen, offsets, named⟩ := variableFor_of_categoryOf located
    (length_members lower nonempty upper) (by unfold Block.size; omega) read
  rw [laidOut.settled_single found named offset]
  by_cases within : block.start ≤ offset ∧ offset < block.stop
  · have inside : offset < model.values.length := by omega
    have cell : (block.members model.values)[offset - block.start.toNat]? =
        some model.values[offset] := by
      rw [getElem?_members lower within, List.getElem?_eq_getElem inside]
    have isOne : model.values[offset] = 1.0 ↔
        chosen.map (fun (offset : Nat) => block.start + (offset : Int)) = some (offset : Int) := by
      have listed : offset - block.start.toNat ∈ trueOffsets (block.members model.values) ↔ _ :=
        mem_trueOffsets_iff
      rw [cell, Option.some.injEq, offsets, Option.mem_toList] at listed
      rw [← listed]
      cases chosen with
      | none => exact iff_of_false nofun nofun
      | some first =>
          rw [Option.map_some, Option.some.injEq, Option.some.injEq]
          omega
    rw [if_pos within, List.getElem?_eq_getElem inside]
    by_cases one : model.values[offset] = 1.0
    · rw [if_pos (isOne.mp one), one]
      exact Or.inl rfl
    · rw [if_neg fun named => one (isOne.mpr named)]
      rcases state.discrete _ (List.mem_of_getElem? cell) with zero | negative | isTrue
      · rw [zero]
        exact Or.inl rfl
      · rw [negative]
        exact Or.inr ⟨rfl, rfl⟩
      · exact absurd isTrue one
  · rw [if_neg within]
    exact Or.inl rfl

end Assigning

/-- What the category codes of a block and its states have to do with each other: a code is read
exactly from the states, assigning it again rewrites negative zeros only, every code of the block
is read back once it is assigned, and other codes are refused. -/
structure Model.CodesStates (model : Model Float) (position : Int) (block : Block) : Prop where
  reads : (∃ code, model.categoryOf position = .ok code) ↔
    block.HasState (block.members model.values)
  refuses : ¬block.HasState (block.members model.values) →
    model.categoryOf position = .error (.notDiscrete position (block.members model.values)) ∨
      model.categoryOf position = .error (.noTrueMember position)
  rewrites : ∀ code, model.categoryOf position = .ok code →
    0 ≤ code ∧ code < block.cardinality ∧ ∃ values,
      assignCategory position code model = .ok () { model with values } ∧
      ∀ offset : Nat, values[offset]? = model.values[offset]? ∨
        model.values[offset]? = some (-0.0) ∧ values[offset]? = some 0.0
  rereads : ∀ code, 0 ≤ code → code < block.cardinality → ∃ values,
    assignCategory position code model = .ok () { model with values } ∧
      Model.categoryOf { model with values } position = .ok code ∧
      ∀ offset : Nat, ¬(block.start ≤ offset ∧ offset < block.stop) →
        values[offset]? = model.values[offset]?
  others : ∀ code, ¬(0 ≤ code ∧ code < block.cardinality) →
    assignCategory position code model = .error (.categoryOutOfRange code block.cardinality) model

theorem codesStates_of_laidOut {model : Model Float} (laidOut : model.LaidOut) {position : Int}
    {block : Block} (located : model.blockAt position = .ok block) :
    model.CodesStates position block := by
  obtain ⟨place, found⟩ := exists_place located
  obtain ⟨lower, nonempty, upper⟩ := laidOut.bounds found
  refine ⟨?_, ?_, ?_, ?_, fun code => assignCategory_of_invalid located⟩
  · rcases categoryOf_cases located with ⟨state, code, _, read, _⟩ | ⟨noState, refused | refused⟩
    · exact iff_of_true ⟨code, read⟩ state
    · refine iff_of_false ?_ noState
      rintro ⟨code, read⟩
      cases refused.symm.trans read
    · refine iff_of_false ?_ noState
      rintro ⟨code, read⟩
      cases refused.symm.trans read
  · intro noState
    rcases categoryOf_cases located with ⟨state, _⟩ | ⟨_, refused⟩
    · exact absurd state noState
    · exact refused
  · intro code read
    obtain ⟨_, lowerCode, upperCode, _⟩ := variableFor_of_categoryOf located
      (length_members lower nonempty upper) (by unfold Block.size; omega) read
    exact ⟨lowerCode, upperCode, _,
      assignCategory_of_located laidOut located found ⟨lowerCode, upperCode⟩,
      settled_of_categoryOf laidOut located found read⟩
  · intro code lowerCode upperCode
    refine ⟨_, assignCategory_of_located laidOut located found ⟨lowerCode, upperCode⟩, ?_, ?_⟩
    · have stays : (model.settle (Choice.single place code)).blockAt position =
          (model.settle (Choice.single place code)).blockAt place :=
        located.trans (blockAt_natCast_eq_ok_iff.mpr found).symm
      exact categoryOf_congr stays ((laidOut_settle laidOut _).categoryOf_of_state found
        ⟨lowerCode, upperCode⟩ (isInState_settle laidOut place code))
    · intro offset outside
      conv_rhs => rw [← settled_nothing model]
      exact laidOut.settled_outside found outside fun other different => if_neg different

end HingeField
