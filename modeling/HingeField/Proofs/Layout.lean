import HingeField.Proofs.Arena

/-!
The layout of a model. In a laid out model every block has a variable, the
blocks lie one behind the other inside the arena, and the owner of a variable
is the block it lies in. The empty model is laid out, and adding variables and
blocks keeps a model so. Nothing else touches the layout: what the other
operations change is the values of the arena and not their number.
-/

namespace HingeField.Model

variable {α : Type}

structure LaidOut (model : Model α) : Prop where
  ownerPerValue : model.owners.length = model.values.length
  nonempty : ∀ block ∈ model.blocks, block.start < block.stop
  inside : ∀ block ∈ model.blocks, 0 ≤ block.start ∧ block.stop ≤ model.values.length
  ascending : model.blocks.Pairwise fun earlier later => earlier.stop ≤ later.start
  owned : ∀ offset position : Nat, model.owners[offset]? = some (some position) ↔
    ∃ block, model.blocks[position]? = some block ∧ block.start ≤ offset ∧ offset < block.stop

theorem laidOut_empty : ({} : Model α).LaidOut := by
  refine ⟨rfl, ?_, ?_, List.Pairwise.nil, ?_⟩
  · intro block member
    cases member
  · intro block member
    cases member
  · intro offset position
    constructor
    · intro owner
      cases owner
    · rintro ⟨block, found, _⟩
      cases found

/-- The layout is a matter of the owners, the blocks and the size of the arena alone. -/
theorem LaidOut.of_sameLayout {model other : Model α} (laidOut : model.LaidOut)
    (sameOwners : other.owners = model.owners) (sameBlocks : other.blocks = model.blocks)
    (sameSize : other.values.length = model.values.length) : other.LaidOut := by
  refine ⟨?_, ?_, ?_, ?_, ?_⟩
  · rw [sameOwners, sameSize]
    exact laidOut.ownerPerValue
  · rw [sameBlocks]
    exact laidOut.nonempty
  · rw [sameBlocks, sameSize]
    exact laidOut.inside
  · rw [sameBlocks]
    exact laidOut.ascending
  · rw [sameBlocks, sameOwners]
    exact laidOut.owned

theorem blockOf_congr {first second : Model α} (sameOwners : second.owners = first.owners) :
    second.blockOf = first.blockOf := by
  funext index
  unfold blockOf
  rw [sameOwners]

theorem blockAt_natCast_eq_ok_iff {model : Model α} {position : Nat} {block : Block} :
    model.blockAt position = .ok block ↔ model.blocks[position]? = some block := by
  unfold blockAt
  by_cases inside : position < model.blocks.length
  · rw [elementAt?_natCast inside, List.getElem?_eq_getElem inside]
    constructor
    · intro located
      cases located
      rfl
    · intro found
      cases found
      rfl
  · have outside : elementAt? model.blocks (position : Int) = none := by
      unfold elementAt? resolvePosition?
      rw [if_neg (by omega), if_neg (by omega)]
      rfl
    rw [outside, List.getElem?_eq_none (by omega)]
    constructor
    · intro located
      cases located
    · intro found
      cases found

theorem mem_blocks_of_blockAt {model : Model α} {position : Int} {block : Block}
    (located : model.blockAt position = .ok block) : block ∈ model.blocks := by
  unfold blockAt at located
  split at located
  · rename_i found
    cases located
    obtain ⟨offset, _, stands⟩ := elementAt?_eq_some_iff.mp found
    exact List.mem_of_getElem? stands
  · cases located

theorem getElem?_owners_of_blockOf {model : Model α} {index : Int} {owner : Option Nat}
    (owned : model.blockOf index = .ok owner) {offset : Nat}
    (resolved : resolvePosition? model.owners.length index = some offset) :
    model.owners[offset]? = some owner := by
  unfold blockOf at owned
  split at owned
  · rename_i found
    cases owned
    obtain ⟨other, same, stands⟩ := elementAt?_eq_some_iff.mp found
    rw [resolved] at same
    cases same
    exact stands
  · cases owned

namespace InitialValues

/-- A regular array has as many cells as its dimensions say. -/
def IsFilled (values : InitialValues α) : Prop :=
  values.isRegular = true → values.cells.length = values.shape.foldr (· * ·) 1

theorem isFilled_single (value : α) : (single value).IsFilled :=
  fun _ => rfl

theorem commonShape_self (shape : List Nat) : commonShape shape shape = shape := by
  induction shape with
  | nil => rfl
  | cons size shape ih =>
      unfold commonShape
      rw [if_pos rfl, ih]

theorem foldl_commonShape {shape : List Nat} {shapes : List (List Nat)}
    (same : ∀ other ∈ shapes, other = shape) : shapes.foldl commonShape shape = shape := by
  induction shapes with
  | nil => rfl
  | cons next shapes ih =>
      rw [List.foldl_cons, same next List.mem_cons_self, commonShape_self]
      exact ih fun other member => same other (List.mem_cons_of_mem next member)

/-- An array of filled arrays is filled. -/
theorem isFilled_stack {rows : List (InitialValues α)} (filled : ∀ row ∈ rows, row.IsFilled) :
    (stack rows).IsFilled := by
  cases rows with
  | nil => exact fun _ => rfl
  | cons row rows =>
      intro regular
      have alike : ∀ next ∈ row :: rows, next.isRegular = true ∧ next.shape = row.shape := by
        simpa [stack] using regular
      have common : (rows.map (·.shape)).foldl commonShape row.shape = row.shape := by
        apply foldl_commonShape
        intro shape member
        obtain ⟨next, listed, rfl⟩ := List.mem_map.mp member
        exact (alike next (List.mem_cons_of_mem row listed)).2
      have sizes : (row :: rows).map (fun next => next.cells.length) =
          List.replicate (rows.length + 1) (row.shape.foldr (· * ·) 1) := by
        rw [← List.length_cons, ← List.map_const']
        refine List.map_congr_left fun next member => ?_
        rw [filled next member (alike next member).1, (alike next member).2]
      change (((row :: rows).map (·.cells)).flatten).length =
        (rows.length + 1) * ((rows.map (·.shape)).foldl commonShape row.shape).foldr (· * ·) 1
      rw [common, List.length_flatten, List.map_map]
      exact (congrArg List.sum sizes).trans List.sum_replicate_nat

theorem isRegular_of_checkShape {values : InitialValues α} {granted : Unit}
    (checked : values.checkShape = .ok granted) : values.isRegular = true := by
  unfold checkShape at checked
  cases regular : values.isRegular with
  | true => rfl
  | false =>
      rw [regular] at checked
      split at checked <;> cases checked

end InitialValues

section Growth

/-- The owner of an offset behind variables that were appended with one owner. -/
theorem owners_grow (model : Model α) (values : List α) (owner : Option Nat) (offset : Nat) :
    (model.grow values owner).owners[offset]? =
      if offset < model.owners.length then model.owners[offset]?
      else if offset < model.owners.length + values.length then some owner else none := by
  unfold grow
  split
  · rename_i old
    exact List.getElem?_append_left old
  · rename_i fresh
    rw [List.getElem?_append_right (by omega), List.getElem?_replicate]
    congr 1
    simp only [eq_iff_iff]
    omega

theorem LaidOut.grow_free {model : Model α} (laidOut : model.LaidOut) (values : List α) :
    (model.grow values none).LaidOut := by
  have sizes := laidOut.ownerPerValue
  refine ⟨?_, laidOut.nonempty, ?_, laidOut.ascending, ?_⟩
  · simp only [grow, List.length_append, List.length_replicate, sizes]
  · intro block member
    have bounds := laidOut.inside block member
    refine ⟨bounds.1, ?_⟩
    simp only [grow, List.length_append]
    omega
  · intro offset position
    rw [owners_grow, ← show model.blocks = (model.grow values none).blocks from rfl]
    split
    · exact laidOut.owned offset position
    · rename_i fresh
      constructor
      · intro owner
        split at owner <;> cases owner
      · rintro ⟨block, found, _, upper⟩
        have bounds := laidOut.inside block (List.mem_of_getElem? found)
        omega

theorem LaidOut.grow_block {model : Model α} (laidOut : model.LaidOut) {values : List α}
    (filled : values ≠ []) (exactlyOne : Bool) :
    LaidOut
      { model.grow values (some model.blocks.length) with
        blocks := model.blocks ++
          [⟨model.values.length, model.values.length + values.length, exactlyOne⟩] } := by
  have sizes := laidOut.ownerPerValue
  have positive : 0 < values.length := List.length_pos_iff.mpr filled
  refine ⟨?_, ?_, ?_, ?_, ?_⟩
  · simp only [grow, List.length_append, List.length_replicate, sizes]
  · intro block member
    rcases List.mem_append.mp member with old | fresh
    · exact laidOut.nonempty block old
    · cases List.mem_singleton.mp fresh
      change (model.values.length : Int) < model.values.length + values.length
      omega
  · intro block member
    simp only [grow, List.length_append]
    rcases List.mem_append.mp member with old | fresh
    · have bounds := laidOut.inside block old
      omega
    · cases List.mem_singleton.mp fresh
      change (0 : Int) ≤ model.values.length ∧
        (model.values.length + values.length : Int) ≤ (model.values.length + values.length : Nat)
      omega
  · apply List.pairwise_append.mpr
    refine ⟨laidOut.ascending, List.pairwise_singleton _ _, ?_⟩
    intro earlier member later last
    cases List.mem_singleton.mp last
    exact (laidOut.inside earlier member).2
  · intro offset position
    rw [owners_grow model values (some model.blocks.length) offset, List.getElem?_append]
    -- the new block owns just the new offsets, and an old one only old offsets
    by_cases old : offset < model.owners.length
    · rw [if_pos old, laidOut.owned offset position]
      constructor
      · rintro ⟨block, found, within⟩
        rw [if_pos (List.getElem?_eq_some_iff.mp found).choose]
        exact ⟨block, found, within⟩
      · rintro ⟨block, found, within⟩
        split at found
        · exact ⟨block, found, within⟩
        · rename_i last
          cases List.mem_singleton.mp (List.mem_of_getElem? found)
          have lower : (model.values.length : Int) ≤ offset := within.1
          omega
    · rw [if_neg old]
      constructor
      · intro owner
        split at owner
        · rename_i inside
          cases owner
          refine ⟨⟨model.values.length, model.values.length + values.length, exactlyOne⟩,
            ?_, ?_, ?_⟩
          · rw [if_neg (Nat.lt_irrefl _), Nat.sub_self]
            rfl
          · change (model.values.length : Int) ≤ offset
            omega
          · change (offset : Int) < model.values.length + values.length
            omega
        · cases owner
      · rintro ⟨block, found, within⟩
        split at found
        · have bounds := laidOut.inside block (List.mem_of_getElem? found)
          omega
        · rename_i behind
          obtain ⟨first, same⟩ := List.getElem?_eq_some_iff.mp found
          simp only [List.length_singleton] at first
          have upper : offset < model.owners.length + values.length := by
            cases List.mem_singleton.mp (List.mem_of_getElem? found)
            have bound : (offset : Int) < model.values.length + values.length := within.2
            omega
          rw [if_pos upper, show position = model.blocks.length by omega]

variable [Scalar α]

/-- A variable is appended if its value is admissible, and otherwise nothing changes. -/
theorem addVariable_cases (value : α) (model : Model α) :
    (isAdmissible value = true ∧
        addVariable value model = .ok model.variableCount (model.grow [value] none)) ∨
      (isAdmissible value = false ∧ addVariable value model = .error .truthRange model) := by
  unfold addVariable
  cases admissible : isAdmissible value with
  | true =>
      simp only [Effect.run_bind, Effect.run_get, if_true, Effect.run_pure, Effect.run_set,
        true_and, true_or]
  | false =>
      simp only [Effect.run_bind, Effect.run_get, Bool.false_eq_true, if_false,
        Effect.run_throw, true_and, or_true]

theorem LaidOut.addVariable {model grown : Model α} {value : α} {index : Nat}
    (laidOut : model.LaidOut) (success : addVariable value model = .ok index grown) :
    grown.LaidOut := by
  rcases addVariable_cases value model with ⟨_, added⟩ | ⟨_, refused⟩
  · rw [added] at success
    cases success
    exact laidOut.grow_free [value]
  · rw [refused] at success
    cases success

/-- A model with one more block, which has the given values. -/
def withBlock (model : Model α) (size : Int) (exactlyOne : Bool) (values : List α) : Model α :=
  { model.grow values (some model.blocks.length) with
    blocks := model.blocks ++
      [Block.mk model.variableCount (model.variableCount + size) exactlyOne] }

/-- A block is appended if it has a size and admissible values, and otherwise nothing changes. -/
theorem addBlock_cases (size : Int) (exactlyOne : Bool) (initial : Option (InitialValues α))
    (model : Model α) :
    (∃ values, 1 ≤ size ∧ blockValues size initial = .ok values ∧
        addBlock size exactlyOne initial model =
          .ok model.blocks.length (model.withBlock size exactlyOne values)) ∨
      ∃ fault, addBlock size exactlyOne initial model = .error fault model := by
  unfold addBlock
  by_cases tooSmall : size < 1
  · refine Or.inr ⟨.blockSize size, ?_⟩
    simp only [Effect.run_bind, Effect.run_get, if_pos tooSmall, Effect.run_throw]
  · simp only [Effect.run_bind, Effect.run_get, if_neg tooSmall, Effect.run_pure]
    cases given : blockValues size initial with
    | error fault => exact Or.inr ⟨fault, rfl⟩
    | ok values => exact Or.inl ⟨values, by omega, rfl, rfl⟩

/-- The values of a new block are as many as it has variables. -/
theorem length_of_blockValues {size : Int} {initial : Option (InitialValues α)} {values : List α}
    (given : blockValues size initial = .ok values)
    (filled : ∀ array, initial = some array → array.IsFilled) :
    values.length = size.toNat := by
  cases initial with
  | none =>
      unfold blockValues zeros at given
      cases room : checkRoom size.toNat with
      | error fault =>
          rw [room] at given
          cases given
      | ok granted =>
          rw [room] at given
          cases given
          exact List.length_replicate
  | some array =>
      simp only [blockValues] at given
      cases checked : array.checkShape with
      | error fault =>
          rw [checked] at given
          cases given
      | ok granted =>
          rw [checked] at given
          simp only [bind, Except.bind] at given
          split at given
          · cases given
          · rename_i fits
            have shape : array.shape = [size.toNat] := by simpa using fits
            split at given
            · cases given
              rw [filled array rfl (InitialValues.isRegular_of_checkShape checked), shape]
              exact Nat.mul_one size.toNat
            · cases given

omit [Scalar α] in
theorem LaidOut.withBlock {model : Model α} (laidOut : model.LaidOut) {size : Int}
    (positive : 1 ≤ size) (exactlyOne : Bool) {values : List α}
    (count : values.length = size.toNat) : (model.withBlock size exactlyOne values).LaidOut := by
  have stop : (model.values.length : Int) + size = model.values.length + values.length := by omega
  unfold Model.withBlock variableCount
  rw [stop]
  refine laidOut.grow_block ?_ exactlyOne
  intro none
  rw [none, List.length_nil] at count
  omega

theorem LaidOut.addBlock {model grown : Model α} {size : Int} {exactlyOne : Bool}
    {initial : Option (InitialValues α)} {position : Nat} (laidOut : model.LaidOut)
    (filled : ∀ array, initial = some array → array.IsFilled)
    (success : addBlock size exactlyOne initial model = .ok position grown) : grown.LaidOut := by
  rcases addBlock_cases size exactlyOne initial model with
    ⟨values, positive, given, added⟩ | ⟨fault, refused⟩
  · rw [added] at success
    cases success
    exact laidOut.withBlock positive exactlyOne (length_of_blockValues given filled)
  · rw [refused] at success
    cases success

end Growth

end HingeField.Model
