import HingeField.Proofs.BlockStates

/-!
Violations and unreadable categories. A block is reported as violated by a
count of its true members, and its category is refused by a search for them.
Main statement: on an arena whose block members are zeros and ones the reported
blocks are those without a category, whatever layout a history left; and if
none is reported, the categories of all blocks can be applied as a solution,
which rewrites negative zeros and nothing else.
-/

namespace HingeField

open Model Solution

section Counting

variable {model : Model Float} {place : Nat} {block : Block}

theorem violations_ascending (model : Model Float) : model.violations.Pairwise (· < ·) :=
  places_ascending model.blocks _

theorem mem_violations_iff :
    place ∈ model.violations ↔ ∃ block, model.blocks[place]? = some block ∧
      (1 < (block.members model.values).count 1.0 ∨
        block.exactlyOne = true ∧ (block.members model.values).count 1.0 ≠ 1) := by
  unfold violations
  simp only [mem_places_iff, length_trueOffsets, Bool.or_eq_true, Bool.and_eq_true,
    decide_eq_true_eq, bne_iff_ne]

/-- A block of zeros and ones is in a state if its number of ones is allowed. -/
theorem hasState_iff_of_discrete
    (discrete : ∀ value ∈ block.members model.values, value = 0.0 ∨ value = -0.0 ∨ value = 1.0) :
    block.HasState (block.members model.values) ↔
      ¬(1 < (block.members model.values).count 1.0 ∨
        block.exactlyOne = true ∧ (block.members model.values).count 1.0 ≠ 1) := by
  constructor
  · rintro ⟨_, atMostOne, atLeastOne⟩ (many | ⟨exact, other⟩)
    · omega
    · have filled := atLeastOne exact
      omega
  · intro allowed
    rw [not_or, not_and, not_not] at allowed
    exact ⟨discrete, by omega, fun exact => by have one := allowed.2 exact; omega⟩

theorem categoryOf_error_iff (found : model.blocks[place]? = some block) :
    (∃ fault, model.categoryOf place = .error fault) ↔
      ¬block.HasState (block.members model.values) := by
  rcases categoryOf_cases (blockAt_natCast_eq_ok_iff.mpr found) with
    ⟨state, code, _, read, _⟩ | ⟨noState, refused | refused⟩
  · simp [state, read]
  · simp [noState, refused]
  · simp [noState, refused]

theorem mem_violations_iff_error
    (discrete : ∀ block ∈ model.blocks, ∀ value ∈ block.members model.values,
      value = 0.0 ∨ value = -0.0 ∨ value = 1.0) :
    place ∈ model.violations ↔
      place < model.blocks.length ∧ ∃ fault, model.categoryOf place = .error fault := by
  rw [mem_violations_iff]
  constructor
  · rintro ⟨block, found, counted⟩
    have bits := discrete block (List.mem_of_getElem? found)
    refine ⟨(List.getElem?_eq_some_iff.mp found).choose, (categoryOf_error_iff found).mpr ?_⟩
    rw [hasState_iff_of_discrete bits, not_not]
    exact counted
  · rintro ⟨inside, refused⟩
    have found := List.getElem?_eq_getElem inside
    have bits := discrete _ (List.mem_of_getElem? found)
    have noState := (categoryOf_error_iff found).mp refused
    rw [hasState_iff_of_discrete bits, not_not] at noState
    exact ⟨_, found, noState⟩

end Counting

section Applying

variable {model : Model Float} {codes : List Int}

/-- The categories of all blocks, in order. -/
def Model.categories (model : Model Float) : Except Fault (List Int) :=
  (List.range model.blocks.length).mapM fun place => model.categoryOf (place : Nat)

theorem categories_eq_ok_iff :
    model.categories = .ok codes ↔ codes.length = model.blocks.length ∧
      ∀ (place : Nat) (code : Int), codes[place]? = some code →
        model.categoryOf place = .ok code := by
  unfold Model.categories
  constructor
  · intro read
    refine ⟨(length_of_mapM read).trans List.length_range, ?_⟩
    intro place code listed
    obtain ⟨other, ranged, computed⟩ := exists_of_getElem?_mapM read listed
    obtain ⟨_, same⟩ := List.getElem?_eq_some_iff.mp ranged
    rw [List.getElem_range] at same
    rw [same]
    exact computed
  · rintro ⟨sameLength, each⟩
    rw [mapM_eq_ok_iff_map]
    apply List.ext_getElem
    · simp [sameLength]
    · intro place _ inside
      rw [List.length_map] at inside
      simpa using each place _ (List.getElem?_eq_getElem inside)

theorem exists_categories_of_unviolated
    (discrete : ∀ block ∈ model.blocks, ∀ value ∈ block.members model.values,
      value = 0.0 ∨ value = -0.0 ∨ value = 1.0)
    (unviolated : model.violations = []) : ∃ codes, model.categories = .ok codes := by
  apply mapM_total
  intro place listed
  have inside := List.mem_range.mp listed
  cases read : model.categoryOf (place : Nat) with
  | ok code => exact ⟨code, rfl⟩
  | error fault =>
      have reported := (mem_violations_iff_error discrete).mpr ⟨inside, fault, read⟩
      rw [unviolated] at reported
      cases reported

theorem fits_categories (laidOut : model.LaidOut) (read : model.categories = .ok codes) :
    Fits model.blocks codes := by
  obtain ⟨sameLength, each⟩ := categories_eq_ok_iff.mp read
  refine ⟨Nat.le_of_eq sameLength, ?_⟩
  intro place block code found listed
  obtain ⟨lower, nonempty, upper⟩ := laidOut.bounds found
  obtain ⟨_, atLeastZero, small, _⟩ := variableFor_of_categoryOf
    (blockAt_natCast_eq_ok_iff.mpr found) (length_members lower nonempty upper)
    (by unfold Block.size; omega) (each place code listed)
  exact ⟨atLeastZero, small⟩

/-- Settling all blocks in their own categories writes zero over negative zeros, and nothing else. -/
theorem settled_categories (laidOut : model.LaidOut) (read : model.categories = .ok codes)
    (offset : Nat) :
    (model.settled (Choice.ofCodes codes))[offset]? = model.values[offset]? ∨
      model.values[offset]? = some (-0.0) ∧
        (model.settled (Choice.ofCodes codes))[offset]? = some 0.0 := by
  obtain ⟨sameLength, each⟩ := categories_eq_ok_iff.mp read
  cases owner : (model.owners[offset]?).join with
  | none =>
      left
      rw [getElem?_settled, chosenAt_eq_none_of_free owner]
      exact Option.map_id'
  | some place =>
      obtain ⟨block, found, within⟩ := laidOut.block_of_owner owner
      have inside : place < codes.length := by
        rw [sameLength]
        exact (List.getElem?_eq_some_iff.mp found).choose
      have listed := List.getElem?_eq_getElem inside
      -- at this cell the list of codes says what the code of the block alone says
      have alone : (model.settled (Choice.ofCodes codes))[offset]? =
          (model.settled (Choice.single place codes[place]))[offset]? := by
        rw [getElem?_settled, getElem?_settled, laidOut.chosenAt_inside found within,
          laidOut.chosenAt_inside found within]
        simp only [Choice.ofCodes, Choice.single, listed, if_true]
      rw [alone]
      exact settled_of_categoryOf laidOut (blockAt_natCast_eq_ok_iff.mpr found) found
        (each place _ listed) offset

end Applying

/-- How the violations of a model and its categories go together: the blocks that are reported are
those whose category is refused, and without them the categories are a solution that leaves the
arena as it is, up to the sign of zeros. -/
structure Model.ChecksAgree (model : Model Float) : Prop where
  ascending : model.violations.Pairwise (· < ·)
  reported : ∀ place : Nat, place ∈ model.violations ↔
    place < model.blocks.length ∧ ∃ fault, model.categoryOf place = .error fault
  applied : model.violations = [] → ∃ codes values, model.categories = .ok codes ∧
    apply codes model = .ok () { model with values } ∧
    ∀ offset : Nat, values[offset]? = model.values[offset]? ∨
      model.values[offset]? = some (-0.0) ∧ values[offset]? = some 0.0

theorem checksAgree_of_laidOut {model : Model Float} (laidOut : model.LaidOut)
    (discrete : ∀ block ∈ model.blocks, ∀ value ∈ block.members model.values,
      value = 0.0 ∨ value = -0.0 ∨ value = 1.0) : model.ChecksAgree := by
  refine ⟨violations_ascending model, fun place => mem_violations_iff_error discrete, ?_⟩
  intro unviolated
  obtain ⟨codes, read⟩ := exists_categories_of_unviolated discrete unviolated
  exact ⟨codes, _, read, (apply_eq_ok_iff laidOut).mpr ⟨fits_categories laidOut read, rfl⟩,
    settled_categories laidOut read⟩

/-- On every arena of zeros and ones the two checks of a block agree, whatever layout a history
left: the blocks with a wrong number of ones are those without a category. -/
theorem violated_blocks_have_no_category (keepsJournal : Bool) (operations : List Operation)
    (arena : Arena Float) :
    let layout := ((Session.start keepsJournal).after operations).model
    arena.length = layout.values.length →
      (∀ block ∈ layout.blocks, ∀ value ∈ block.members arena,
        value = 0.0 ∨ value = -0.0 ∨ value = 1.0) →
      { layout with values := arena }.ChecksAgree := by
  intro layout sameLength discrete
  have laidOut : { layout with values := arena }.LaidOut :=
    (laidOut_after keepsJournal operations).of_sameLayout rfl rfl sameLength
  exact checksAgree_of_laidOut laidOut discrete

/-- Two blocks that require a member and one that does not. In the first arena the block with two
ones is reported; in the second none is, and reading and applying loses the sign of a zero. -/
theorem violated_blocks_have_no_category_pairs :
    let operations : List Operation :=
      [.addBlock 2 true none, .addVariable 0.5, .addBlock 2 false none, .addBlock 2 true none]
    let layout := ((Session.start true).after operations).model
    let crowded : Arena Float := [1.0, 1.0, 0.5, 0.0, -0.0, 1.0, 0.0]
    let settled : Arena Float := [0.0, 1.0, 0.5, 0.0, -0.0, 1.0, 0.0]
    crowded.length = layout.values.length ∧ settled.length = layout.values.length ∧
      (∀ block ∈ layout.blocks, ∀ value ∈ block.members crowded,
        value = 0.0 ∨ value = -0.0 ∨ value = 1.0) ∧
      (∀ block ∈ layout.blocks, ∀ value ∈ block.members settled,
        value = 0.0 ∨ value = -0.0 ∨ value = 1.0) ∧
      { layout with values := crowded }.ChecksAgree ∧
      { layout with values := crowded }.violations = [0] ∧
      { layout with values := settled }.ChecksAgree ∧
      { layout with values := settled }.violations = [] ∧
      { layout with values := settled }.categories = .ok [1, 0, 0] := by
  intro operations layout crowded settled
  have crowdedLength : crowded.length = layout.values.length := by decide +kernel
  have settledLength : settled.length = layout.values.length := by decide +kernel
  have crowdedBits : ∀ block ∈ layout.blocks, ∀ value ∈ block.members crowded,
      value = 0.0 ∨ value = -0.0 ∨ value = 1.0 := by decide +kernel
  have settledBits : ∀ block ∈ layout.blocks, ∀ value ∈ block.members settled,
      value = 0.0 ∨ value = -0.0 ∨ value = 1.0 := by decide +kernel
  have first := violated_blocks_have_no_category true operations crowded crowdedLength crowdedBits
  have second := violated_blocks_have_no_category true operations settled settledLength settledBits
  exact ⟨crowdedLength, settledLength, crowdedBits, settledBits, first, by decide +kernel, second,
    by decide +kernel, rfl⟩

end HingeField
