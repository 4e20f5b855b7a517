import HingeField.Proofs.Categories
import HingeField.Proofs.Enumeration
import HingeField.Proofs.Sequence
import HingeField.Table

/-!
What the building of a table comes to. Putting an assignment into the blocks
of a scope settles just these blocks, so that an entry of a table is the
potential of the rule over a settled arena, whatever was evaluated before it.
Main statement: building a table computes these entries and leaves the model
as it was, whether it succeeds or fails.
-/

namespace HingeField.Model

section Assigning

variable {α : Type} [Scalar α]

theorem LaidOut.applyAssignment_eq {model : Model α} (laidOut : model.LaidOut)
    {scope digits : List Nat}
    (valid : ∀ position digit, (position, digit) ∈ scope.zip digits →
      ∃ block, model.blocks[position]? = some block ∧ (digit : Int) < block.cardinality) :
    applyAssignment (scope.map Int.ofNat) (digits.map Int.ofNat) model =
      .ok () (model.settle (Choice.assigned (scope.zip (digits.map Int.ofNat)))) := by
  have paired : (scope.map Int.ofNat).zip (digits.map Int.ofNat) =
      (scope.zip (digits.map Int.ofNat)).map fun pair => (Int.ofNat pair.1, pair.2) := by
    rw [List.zip_map_left]
    rfl
  unfold applyAssignment
  rw [paired]
  refine (congrFun List.forM_map model).trans ?_
  apply laidOut.forM_assignCategory
  intro position code listed
  rw [List.zip_map_right, List.mem_map] at listed
  obtain ⟨⟨place, digit⟩, member, same⟩ := listed
  cases same
  obtain ⟨block, found, below⟩ := valid place digit member
  exact ⟨block, found, Int.natCast_nonneg digit, below⟩

end Assigning

section Scope

variable {α : Type} {model : Model α} {rule : Rule α} {scope : List Nat}

theorem scopeOf_eq_ok_iff :
    model.scopeOf rule = .ok scope ↔
      ∃ owners, rule.body.atoms.mapM model.blockOf = .ok owners ∧
        (owners.filterMap id).eraseDups.mergeSort = scope := by
  unfold scopeOf
  cases rule.body.atoms.mapM model.blockOf with
  | error fault =>
      constructor
      · intro impossible
        cases impossible
      · rintro ⟨_, impossible, _⟩
        cases impossible
  | ok owners =>
      constructor
      · intro success
        cases success
        exact ⟨owners, rfl, rfl⟩
      · rintro ⟨_, same, rfl⟩
        cases same
        rfl

theorem nodup_scope (success : model.scopeOf rule = .ok scope) : scope.Nodup := by
  obtain ⟨owners, _, rfl⟩ := scopeOf_eq_ok_iff.mp success
  exact (List.mergeSort_perm _ _).nodup_iff.mpr (nodup_eraseDups _)

/-- The scope of a rule holds the owners of its atoms. -/
theorem mem_scope_of_owner (success : model.scopeOf rule = .ok scope) {atom : Int}
    (member : atom ∈ rule.atoms) :
    ∃ owner, model.blockOf atom = .ok owner ∧
      ∀ position, owner = some position → position ∈ scope := by
  obtain ⟨owners, owned, rfl⟩ := scopeOf_eq_ok_iff.mp success
  obtain ⟨place, found⟩ := List.getElem?_of_mem member
  obtain ⟨owner, stands, computed⟩ := getElem?_of_mapM owned found
  refine ⟨owner, computed, ?_⟩
  rintro position rfl
  rw [List.mem_mergeSort, List.mem_eraseDups, List.mem_filterMap]
  exact ⟨some position, List.mem_of_getElem? stands, rfl⟩

theorem blocksAt_congr {other : Model α} (sameBlocks : other.blocks = model.blocks)
    (scope : List Int) : other.blocksAt scope = model.blocksAt scope := by
  have sameBlock : other.blockAt = model.blockAt := by
    funext position
    unfold blockAt
    rw [sameBlocks]
  unfold blocksAt
  rw [sameBlock]

theorem length_of_blocksAt {blocks : List Block}
    (success : model.blocksAt (scope.map Int.ofNat) = .ok blocks) :
    blocks.length = scope.length := by
  rw [length_of_mapM success, List.length_map]

theorem getElem?_blocksAt {blocks : List Block}
    (success : model.blocksAt (scope.map Int.ofNat) = .ok blocks) {place position : Nat}
    (listed : scope[place]? = some position) :
    ∃ block, blocks[place]? = some block ∧ model.blocks[position]? = some block := by
  unfold blocksAt at success
  rw [mapM_map] at success
  obtain ⟨block, stands, located⟩ := getElem?_of_mapM success listed
  exact ⟨block, stands, blockAt_natCast_eq_ok_iff.mp located⟩

end Scope

section Tables

variable {model : Model Float} {scope : List Nat} {blocks : List Block}

/-- The exponent and the potential of a rule over the arena that an assignment settles. -/
def entry (model : Model Float) (rule : Rule Float) (scope digits : List Nat) :
    Except Fault (Float × Float) := do
  let settled := model.settled (Choice.assigned (scope.zip (digits.map Int.ofNat)))
  let exponent ← rule.logPotential settled
  let potential ← exponential exponent
  return (exponent, potential)

/-- The table of a rule, each of its entries computed for itself. -/
def table (model : Model Float) (rule : Rule Float) : Except Fault PotentialTable := do
  let scope ← model.scopeOf rule
  let blocks ← model.blocksAt (scope.map Int.ofNat)
  let cardinalities := blocks.map (·.cardinality)
  checkRoom (Assignment.count cardinalities).toNat
  let entries ← (Assignment.all cardinalities).mapM (model.entry rule scope)
  return {
    scope
    cardinalities
    logPotentials := entries.map (·.1)
    potentials := entries.map (·.2) }

theorem cardinality_pos (laidOut : model.LaidOut) {block : Block} (member : block ∈ model.blocks) :
    0 < block.cardinality := by
  have nonempty := laidOut.nonempty block member
  unfold Block.cardinality Block.size
  split
  · omega
  · omega

theorem cardinality_pos_of_blocksAt (laidOut : model.LaidOut)
    (found : model.blocksAt (scope.map Int.ofNat) = .ok blocks) {cardinality : Int}
    (member : cardinality ∈ blocks.map (·.cardinality)) : 0 < cardinality := by
  obtain ⟨block, listed, rfl⟩ := List.mem_map.mp member
  obtain ⟨position, _, located⟩ := exists_of_mem_mapM found listed
  exact cardinality_pos laidOut (mem_blocks_of_blockAt located)

/-- A model with some blocks of a scope settled. -/
def IsSettledWithin (model : Model Float) (scope : List Nat) (state : Model Float) : Prop :=
  ∃ choice : Choice, (∀ position, position ∉ scope → choice position = none) ∧
    state = model.settle choice

/-- An entry is that of the settled arena, whatever was settled before. -/
theorem LaidOut.tableEntry_eq (laidOut : model.LaidOut) (rule : Rule Float)
    (found : model.blocksAt (scope.map Int.ofNat) = .ok blocks) {digits : List Nat}
    (assigned : Assignment.IsAssignment (blocks.map (·.cardinality)) digits)
    {state : Model Float} (within : model.IsSettledWithin scope state) :
    ∃ finish, model.IsSettledWithin scope finish ∧
      tableEntry rule (scope.map Int.ofNat) digits state =
        Effect.ofExcept (model.entry rule scope digits) finish := by
  obtain ⟨choice, outside, rfl⟩ := within
  have count := length_of_blocksAt found
  have sameLength := assigned.length_eq
  rw [List.length_map, count] at sameLength
  have listed : (scope.zip (digits.map Int.ofNat)).map (·.1) = scope := by
    apply List.map_fst_zip
    exact Nat.le_of_eq (by rw [List.length_map, sameLength])
  have covered : choice.followedBy (Choice.assigned (scope.zip (digits.map Int.ofNat))) =
      Choice.assigned (scope.zip (digits.map Int.ofNat)) := by
    apply Choice.followedBy_of_covered
    intro position uncoded
    rw [Choice.assigned_eq_none_iff, listed] at uncoded
    exact outside position uncoded
  have settles : applyAssignment (scope.map Int.ofNat) (digits.map Int.ofNat)
      (model.settle choice) =
      .ok () (model.settle (Choice.assigned (scope.zip (digits.map Int.ofNat)))) := by
    rw [← covered, ← laidOut.settle_settle]
    apply (laidOut_settle laidOut choice).applyAssignment_eq
    intro position digit paired
    obtain ⟨place, stands⟩ := List.getElem?_of_mem paired
    obtain ⟨scopeAt, digitAt⟩ := List.getElem?_zip_eq_some.mp stands
    obtain ⟨block, blockAt, inModel⟩ := getElem?_blocksAt found scopeAt
    refine ⟨block, inModel, ?_⟩
    apply (Assignment.isAssignment_iff.mp assigned).2 place block.cardinality digit _ digitAt
    rw [List.getElem?_map, blockAt]
    rfl
  refine ⟨model.settle (Choice.assigned (scope.zip (digits.map Int.ofNat))),
    ⟨_, ?_, rfl⟩, ?_⟩
  · intro position unlisted
    rw [Choice.assigned_eq_none_iff, listed]
    exact unlisted
  · unfold tableEntry entry
    rw [Effect.run_bind, settles]
    generalize Choice.assigned (scope.zip (digits.map Int.ofNat)) = named
    have sameArena : rule.logPotential (model.settle named).values =
        rule.logPotential (model.settled named) := rfl
    simp only [Effect.run_bind, Effect.run_get, sameArena]
    cases rule.logPotential (model.settled named) with
    | error fault => rfl
    | ok exponent =>
        simp only [Effect.run_ofExcept_ok, Effect.ok_bind]
        cases exponential exponent with
        | error fault => rfl
        | ok potential => rfl

/-- Putting the old members back takes the codes away from the blocks of the scope. -/
theorem LaidOut.putBack_eq (laidOut : model.LaidOut)
    (found : model.blocksAt (scope.map Int.ofNat) = .ok blocks) (choice : Choice) :
    ∃ rest : Choice,
      (∀ position, rest position = if position ∈ scope then none else choice position) ∧
      putBack (blocks.map fun block => (block, block.members model.values))
        (model.settle choice) = .ok () (model.settle rest) := by
  induction scope generalizing blocks choice with
  | nil =>
      cases mapM_nil_eq_ok_iff.mp found
      refine ⟨choice, ?_, rfl⟩
      intro position
      rw [if_neg List.not_mem_nil]
  | cons position scope ih =>
      obtain ⟨block, others, located, foundOthers, rfl⟩ := mapM_cons_eq_ok_iff.mp found
      obtain ⟨rest, cleared, restored⟩ := ih foundOthers (choice.without position)
      refine ⟨rest, ?_, ?_⟩
      · intro asked
        rw [cleared asked, Choice.without]
        by_cases same : asked = position
        · simp only [same, if_true, ite_self, List.mem_cons_self]
        · simp only [same, if_false, List.mem_cons, false_or]
      · refine (Effect.run_bind (model.settle choice)
          (putMembers block (block.members model.values)) fun _ => putBack _).trans ?_
        rw [laidOut.putMembers_settle (blockAt_natCast_eq_ok_iff.mp located)]
        exact restored

/-- All entries, evaluated one after the other on the model itself. -/
theorem LaidOut.tableEntries_eq (laidOut : model.LaidOut) (rule : Rule Float)
    (found : model.blocksAt (scope.map Int.ofNat) = .ok blocks) :
    ∃ finish, model.IsSettledWithin scope finish ∧
      (Assignment.all (blocks.map (·.cardinality))).mapM
          (tableEntry rule (scope.map Int.ofNat)) model =
        Effect.ofExcept
          ((Assignment.all (blocks.map (·.cardinality))).mapM (model.entry rule scope))
          finish := by
  have positive : ∀ cardinality ∈ blocks.map (·.cardinality), 0 < cardinality :=
    fun cardinality member => cardinality_pos_of_blocksAt laidOut found member
  apply Effect.mapM_of_invariant
  · intro digits member state within
    exact laidOut.tableEntry_eq rule found
      (Assignment.isAssignment_of_mem_all positive member) within
  · exact ⟨Choice.nothing, fun _ _ => rfl, (settle_nothing model).symm⟩

/-- Putting the old members back undoes all that was settled within the scope. -/
theorem LaidOut.putBack_of_within (laidOut : model.LaidOut)
    (found : model.blocksAt (scope.map Int.ofNat) = .ok blocks) {state : Model Float}
    (within : model.IsSettledWithin scope state) :
    putBack (blocks.map fun block => (block, block.members model.values)) state =
      .ok () model := by
  obtain ⟨choice, outside, rfl⟩ := within
  obtain ⟨rest, cleared, restored⟩ := laidOut.putBack_eq found choice
  have nothingLeft : rest = Choice.nothing := by
    funext position
    rw [cleared position]
    split
    · rfl
    · rename_i unlisted
      exact outside position unlisted
  rw [restored, nothingLeft, settle_nothing]

/-- Building a table evaluates its entries and leaves the model as it was. -/
theorem LaidOut.buildTable_eq (laidOut : model.LaidOut) (rule : Rule Float) :
    buildTable rule model = Effect.ofExcept (model.table rule) model := by
  unfold buildTable table
  simp only [Effect.run_bind, Effect.run_get]
  cases model.scopeOf rule with
  | error fault => rfl
  | ok scope =>
      simp only [Effect.run_ofExcept_ok, Effect.ok_bind]
      cases found : model.blocksAt (scope.map Int.ofNat) with
      | error fault => rfl
      | ok blocks =>
          simp only [Effect.run_ofExcept_ok, Effect.ok_bind]
          cases checkRoom (Assignment.count (blocks.map (·.cardinality))).toNat with
          | error fault => rfl
          | ok granted =>
              obtain ⟨state, within, evaluated⟩ := laidOut.tableEntries_eq rule found
              have restored := laidOut.putBack_of_within found within
              simp only [Effect.run_ofExcept_ok, Effect.ok_bind, Effect.outcome, evaluated]
              cases (Assignment.all (blocks.map (·.cardinality))).mapM
                  (model.entry rule scope) with
              | error fault =>
                  simp only [Effect.run_ofExcept_error, restored, Effect.error_bind]
              | ok entries =>
                  simp only [Effect.run_ofExcept_ok, restored, Effect.ok_bind, Effect.run_pure]
                  rfl

end Tables

end HingeField.Model
