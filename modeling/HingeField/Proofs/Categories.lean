import HingeField.Proofs.Layout

/-!
What an arena holds once some blocks are in the states that category codes
name. Main statements: assigning a category settles one block and leaves the
rest of the arena alone, so does a list of categories for its blocks, a block
settled again keeps its last code only, and putting the old members back
unsettles a block.
-/

namespace HingeField

/-- The value a category code gives to the variable at an offset of the arena. -/
def Block.indicator {α : Type} [Scalar α] (block : Block) (code : Int) (offset : Nat) : α :=
  match block.variableFor code with
  | .ok (some chosen) => if chosen = offset then Scalar.one else Scalar.zero
  | _ => Scalar.zero

namespace Model

/-- Category codes for some of the blocks. -/
abbrev Choice := Nat → Option Int

namespace Choice

def nothing : Choice := fun _ => none

def single (position : Nat) (code : Int) : Choice :=
  fun asked => if asked = position then some code else none

/-- The later choice where it has a code, and the earlier one elsewhere. -/
def followedBy (earlier later : Choice) : Choice :=
  fun position => (later position).or (earlier position)

def without (choice : Choice) (position : Nat) : Choice :=
  fun asked => if asked = position then none else choice asked

/-- The codes of the listed blocks; a block that is listed twice has its last code. -/
def assigned : List (Nat × Int) → Choice
  | [] => nothing
  | (position, code) :: rest => (single position code).followedBy (assigned rest)

theorem assigned_eq_none_iff {pairs : List (Nat × Int)} {position : Nat} :
    assigned pairs position = none ↔ position ∉ pairs.map (·.1) := by
  induction pairs with
  | nil => simp [assigned, nothing]
  | cons pair rest ih =>
      obtain ⟨head, code⟩ := pair
      change (assigned rest position).or (single head code position) = none ↔ _
      rw [Option.or_eq_none_iff, ih, List.map_cons, List.mem_cons, not_or, and_comm]
      simp [single]

theorem assigned_of_mem {pairs : List (Nat × Int)} (distinct : (pairs.map (·.1)).Nodup)
    {position : Nat} {code : Int} (listed : (position, code) ∈ pairs) :
    assigned pairs position = some code := by
  induction pairs with
  | nil => cases listed
  | cons pair rest ih =>
      obtain ⟨head, headCode⟩ := pair
      rw [List.map_cons, List.nodup_cons] at distinct
      change (assigned rest position).or (single head headCode position) = some code
      rcases List.mem_cons.mp listed with same | later
      · cases same
        rw [assigned_eq_none_iff.mpr distinct.1, Option.none_or]
        exact if_pos rfl
      · rw [ih distinct.2 later, Option.some_or]

/-- Codes of some blocks hide all codes that the same blocks had before. -/
theorem followedBy_of_covered {earlier later : Choice}
    (covered : ∀ position, later position = none → earlier position = none) :
    earlier.followedBy later = later := by
  funext position
  change (later position).or (earlier position) = later position
  cases code : later position with
  | none => rw [covered position code, Option.or_none]
  | some code => exact Option.some_or

end Choice

section Settled

variable {α : Type} [Scalar α]

/-- The block that owns an offset, with its code, if it has one. -/
def chosenAt (model : Model α) (choice : Choice) (offset : Nat) : Option (Block × Int) := do
  let position ← (model.owners[offset]?).join
  let block ← model.blocks[position]?
  let code ← choice position
  return (block, code)

/-- The arena with every chosen block in the state of its code. -/
def settled (model : Model α) (choice : Choice) : Arena α :=
  model.values.mapIdx fun offset value =>
    match model.chosenAt choice offset with
    | some (block, code) => block.indicator code offset
    | none => value

/-- The model with every chosen block in the state of its code. -/
def settle (model : Model α) (choice : Choice) : Model α :=
  { model with values := model.settled choice }

@[simp]
theorem length_settled (model : Model α) (choice : Choice) :
    (model.settled choice).length = model.values.length :=
  List.length_mapIdx

theorem getElem?_settled (model : Model α) (choice : Choice) (offset : Nat) :
    (model.settled choice)[offset]? =
      (model.values[offset]?).map fun value =>
        match model.chosenAt choice offset with
        | some (block, code) => block.indicator code offset
        | none => value :=
  List.getElem?_mapIdx

theorem laidOut_settle {model : Model α} (laidOut : model.LaidOut) (choice : Choice) :
    (model.settle choice).LaidOut :=
  laidOut.of_sameLayout rfl rfl (length_settled model choice)

omit [Scalar α] in
theorem chosenAt_eq_none_of_free {model : Model α} {offset : Nat}
    (free : (model.owners[offset]?).join = none) (choice : Choice) :
    model.chosenAt choice offset = none := by
  unfold chosenAt
  rw [free]
  rfl

omit [Scalar α] in
theorem chosenAt_of_owner {model : Model α} {offset position : Nat} {block : Block}
    (owner : (model.owners[offset]?).join = some position)
    (found : model.blocks[position]? = some block) (choice : Choice) :
    model.chosenAt choice offset = (choice position).map fun code => (block, code) := by
  unfold chosenAt
  rw [owner]
  simp only [Option.bind_eq_bind, Option.bind_some, found]
  cases choice position with
  | none => rfl
  | some code => rfl

omit [Scalar α] in
/-- The owner of a variable of a laid out model is one of its blocks. -/
theorem LaidOut.block_of_owner {model : Model α} (laidOut : model.LaidOut) {offset position : Nat}
    (owner : (model.owners[offset]?).join = some position) :
    ∃ block, model.blocks[position]? = some block ∧ block.start ≤ offset ∧
      offset < block.stop := by
  apply (laidOut.owned offset position).mp
  exact Option.join_eq_some_iff.mp owner

theorem settle_nothing (model : Model α) : model.settle Choice.nothing = model := by
  have same : model.settled Choice.nothing = model.values := by
    apply List.ext_getElem?
    intro offset
    have unchosen : model.chosenAt Choice.nothing offset = none := by
      simp [chosenAt, Choice.nothing]
    rw [getElem?_settled, unchosen]
    exact Option.map_id'
  unfold settle
  rw [same]

/-- A block that is settled twice is in the state of its later code. -/
theorem LaidOut.settle_settle {model : Model α} (laidOut : model.LaidOut)
    (earlier later : Choice) :
    (model.settle earlier).settle later = model.settle (earlier.followedBy later) := by
  have same : (model.settle earlier).settled later =
      model.settled (earlier.followedBy later) := by
    apply List.ext_getElem?
    intro offset
    rw [getElem?_settled, getElem?_settled]
    change ((model.settled earlier)[offset]?).map _ = _
    rw [getElem?_settled, Option.map_map]
    congr 1
    funext value
    change (match model.chosenAt later offset with
      | some (block, code) => block.indicator code offset
      | none => match model.chosenAt earlier offset with
        | some (block, code) => block.indicator code offset
        | none => value) = _
    cases owner : (model.owners[offset]?).join with
    | none =>
        simp only [chosenAt_eq_none_of_free owner]
    | some position =>
        obtain ⟨block, found, _⟩ := laidOut.block_of_owner owner
        simp only [chosenAt_of_owner owner found, Choice.followedBy]
        cases later position with
        | none => rfl
        | some code => rfl
  unfold settle at same ⊢
  rw [same]

end Settled

section Members

variable {α : Type}

theorem LaidOut.bounds {model : Model α} (laidOut : model.LaidOut) {position : Nat}
    {block : Block} (found : model.blocks[position]? = some block) :
    0 ≤ block.start ∧ block.start < block.stop ∧ block.stop ≤ model.values.length := by
  have member := List.mem_of_getElem? found
  have inside := laidOut.inside block member
  exact ⟨inside.1, laidOut.nonempty block member, inside.2⟩

/-- A variable lies in a block exactly if the block owns it. -/
theorem LaidOut.owner_iff {model : Model α} (laidOut : model.LaidOut) {position : Nat}
    {block : Block} (found : model.blocks[position]? = some block) (offset : Nat) :
    (model.owners[offset]?).join = some position ↔
      block.start ≤ offset ∧ offset < block.stop := by
  rw [Option.join_eq_some_iff, laidOut.owned offset position]
  constructor
  · rintro ⟨other, same, within⟩
    rw [found] at same
    cases same
    exact within
  · intro within
    exact ⟨block, found, within⟩

/-- Replacing the members of a block changes the cells inside the block only. -/
theorem getElem?_replaceMembers {block : Block} {values new : List α}
    (lower : 0 ≤ block.start) (nonempty : block.start < block.stop)
    (upper : block.stop ≤ values.length) (count : new.length = block.size.toNat)
    (offset : Nat) :
    (block.replaceMembers values new)[offset]? =
      if block.start ≤ offset ∧ offset < block.stop then new[offset - block.start.toNat]?
      else values[offset]? := by
  unfold Block.size at count
  have taken : (values.take block.start.toNat).length = block.start.toNat := by
    rw [List.length_take]
    omega
  unfold Block.replaceMembers
  rw [List.append_assoc]
  by_cases before : (offset : Int) < block.start
  · rw [if_neg (by omega), List.getElem?_append_left (by omega), List.getElem?_take,
      if_pos (by omega)]
  · rw [List.getElem?_append_right (by omega), taken]
    by_cases within : (offset : Int) < block.stop
    · rw [if_pos (by omega), List.getElem?_append_left (by omega)]
    · rw [if_neg (by omega), List.getElem?_append_right (by omega), List.getElem?_drop]
      congr 1
      omega

theorem length_replaceMembers {block : Block} {values new : List α}
    (lower : 0 ≤ block.start) (nonempty : block.start < block.stop)
    (upper : block.stop ≤ values.length) (count : new.length = block.size.toNat) :
    (block.replaceMembers values new).length = values.length := by
  unfold Block.size at count
  unfold Block.replaceMembers
  simp only [List.length_append, List.length_take, List.length_drop]
  omega

theorem getElem?_members {block : Block} {values : List α} {offset : Nat}
    (lower : 0 ≤ block.start) (within : block.start ≤ offset ∧ offset < block.stop) :
    (block.members values)[offset - block.start.toNat]? = values[offset]? := by
  unfold Block.members Block.size
  rw [List.getElem?_take, if_pos (by omega), List.getElem?_drop]
  congr 1
  omega

theorem length_members {block : Block} {values : List α} (lower : 0 ≤ block.start)
    (nonempty : block.start < block.stop) (upper : block.stop ≤ values.length) :
    (block.members values).length = block.size.toNat := by
  unfold Block.members Block.size
  rw [List.length_take, List.length_drop]
  omega

variable [Scalar α]

/-- A category code switches on a variable of its block, if any. -/
theorem variableFor_of_valid {block : Block} {code : Int}
    (valid : 0 ≤ code ∧ code < block.cardinality) :
    ∃ chosen, block.variableFor code = .ok chosen ∧
      ∀ index, chosen = some index → block.start ≤ index ∧ index < block.stop := by
  unfold Block.variableFor
  rw [if_pos valid]
  refine ⟨_, rfl, ?_⟩
  unfold Block.cardinality Block.size at valid
  intro index chosen
  cases exact : block.exactlyOne with
  | true =>
      simp only [exact, if_true, Option.some.injEq] at chosen valid
      omega
  | false =>
      simp only [exact, Bool.false_eq_true, if_false] at chosen valid
      split at chosen
      · cases chosen
      · simp only [Option.some.injEq] at chosen
        omega

theorem Block.indicator_of_named {block : Block} {code : Int} {chosen : Option Int}
    (named : block.variableFor code = .ok chosen) (offset : Nat) :
    (block.indicator code offset : α) =
      if chosen = some (offset : Int) then Scalar.one else Scalar.zero := by
  unfold Block.indicator
  rw [named]
  cases chosen with
  | none => rfl
  | some index => simp only [Option.some.injEq]

omit [Scalar α] in
theorem LaidOut.chosenAt_inside {model : Model α} (laidOut : model.LaidOut) {position : Nat}
    {block : Block} (found : model.blocks[position]? = some block) {offset : Nat}
    (within : block.start ≤ offset ∧ offset < block.stop) (choice : Choice) :
    model.chosenAt choice offset = (choice position).map fun code => (block, code) :=
  chosenAt_of_owner ((laidOut.owner_iff found offset).mpr within) found choice

omit [Scalar α] in
/-- Outside a block the code of the block does not matter. -/
theorem LaidOut.chosenAt_outside {model : Model α} (laidOut : model.LaidOut) {position : Nat}
    {block : Block} (found : model.blocks[position]? = some block) {offset : Nat}
    (outside : ¬(block.start ≤ offset ∧ offset < block.stop)) {first second : Choice}
    (agree : ∀ other, other ≠ position → first other = second other) :
    model.chosenAt first offset = model.chosenAt second offset := by
  have unowned := mt (laidOut.owner_iff found offset).mp outside
  cases owner : (model.owners[offset]?).join with
  | none => rw [chosenAt_eq_none_of_free owner, chosenAt_eq_none_of_free owner]
  | some other =>
      rw [owner] at unowned
      obtain ⟨otherBlock, otherFound, _⟩ := laidOut.block_of_owner owner
      have different : other ≠ position := fun same => unowned (by rw [same])
      rw [chosenAt_of_owner owner otherFound, chosenAt_of_owner owner otherFound,
        agree other different]

/-- Two choices that differ at most in the code of one block settle the cells outside it alike. -/
theorem LaidOut.settled_outside {model : Model α} (laidOut : model.LaidOut) {position : Nat}
    {block : Block} (found : model.blocks[position]? = some block) {offset : Nat}
    (outside : ¬(block.start ≤ offset ∧ offset < block.stop)) {first second : Choice}
    (agree : ∀ other, other ≠ position → first other = second other) :
    (model.settled first)[offset]? = (model.settled second)[offset]? := by
  rw [getElem?_settled, getElem?_settled, laidOut.chosenAt_outside found outside agree]

theorem settled_nothing (model : Model α) : model.settled Choice.nothing = model.values :=
  congrArg Model.values (settle_nothing model)

/-- The cells of a block that a category code puts in place of its members. -/
theorem LaidOut.settled_single {model : Model α} (laidOut : model.LaidOut) {position : Nat}
    {block : Block} {code : Int} {chosen : Option Int}
    (found : model.blocks[position]? = some block)
    (named : block.variableFor code = .ok chosen) (offset : Nat) :
    (model.settled (Choice.single position code))[offset]? =
      if block.start ≤ offset ∧ offset < block.stop then
        some (if chosen = some (offset : Int) then Scalar.one else Scalar.zero)
      else model.values[offset]? := by
  obtain ⟨lower, _, upper⟩ := laidOut.bounds found
  split
  · rename_i within
    have small : offset < model.values.length := by omega
    rw [getElem?_settled, List.getElem?_eq_getElem small,
      laidOut.chosenAt_inside found within]
    simp only [Choice.single, if_pos, Option.map_some, Block.indicator_of_named named]
  · rename_i outside
    rw [← settled_nothing model]
    apply laidOut.settled_outside found outside
    intro other different
    exact if_neg different

/-- Assigning a category puts its block into the named state and changes nothing else. -/
theorem LaidOut.assignCategory_eq {model : Model α} (laidOut : model.LaidOut) {position : Nat}
    {block : Block} {code : Int} (found : model.blocks[position]? = some block)
    (valid : 0 ≤ code ∧ code < block.cardinality) :
    assignCategory position code model =
      .ok () (model.settle (Choice.single position code)) := by
  obtain ⟨lower, nonempty, upper⟩ := laidOut.bounds found
  obtain ⟨chosen, named, within⟩ := variableFor_of_valid valid
  have located := blockAt_natCast_eq_ok_iff.mpr found
  have zeros : (List.replicate block.size.toNat (Scalar.zero : α)).length = block.size.toNat :=
    List.length_replicate
  have cell := getElem?_replaceMembers lower nonempty upper zeros
  have zeroCell (offset : Nat) (inBlock : block.start ≤ offset ∧ offset < block.stop) :
      (List.replicate block.size.toNat (Scalar.zero : α))[offset - block.start.toNat]? =
        some Scalar.zero := by
    rw [List.getElem?_replicate, if_pos]
    unfold Block.size
    omega
  unfold assignCategory clearMembers putMembers settle
  simp only [Effect.run_bind, Effect.run_get, located, named, Effect.run_ofExcept_ok,
    Effect.run_modify]
  cases chosen with
  | none =>
      simp only [Effect.run_pure]
      congr 2
      apply List.ext_getElem?
      intro offset
      rw [cell offset, laidOut.settled_single found named offset]
      split
      · rename_i inBlock
        exact zeroCell offset inBlock
      · rfl
  | some index =>
      have range := within index rfl
      have sameSize := length_replaceMembers lower nonempty upper zeros
      refine (writeValue_of_inside (by omega) ?_ Scalar.one).trans ?_
      · change index.toNat < (block.replaceMembers _ _).length
        rw [sameSize]
        omega
      congr 2
      apply List.ext_getElem?
      intro offset
      rw [List.getElem?_set, cell offset, laidOut.settled_single found named offset, sameSize]
      by_cases same : index.toNat = offset
      · rw [if_pos same, if_pos (by omega), if_pos (by omega), if_pos (by congr 1; omega)]
      · have different : some index ≠ some (offset : Int) := by
          intro equal
          have := Option.some.inj equal
          omega
        rw [if_neg same, if_neg different]
        split
        · rename_i inBlock
          exact zeroCell offset inBlock
        · rfl

/-- Putting the members of the original arena back into a block takes its code away. -/
theorem LaidOut.putMembers_settle {model : Model α} (laidOut : model.LaidOut) {position : Nat}
    {block : Block} (found : model.blocks[position]? = some block) (choice : Choice) :
    putMembers block (block.members model.values) (model.settle choice) =
      .ok () (model.settle (choice.without position)) := by
  obtain ⟨lower, nonempty, upper⟩ := laidOut.bounds found
  have count : (block.members model.values).length = block.size.toNat :=
    length_members lower nonempty upper
  have sameSize : block.stop ≤ (model.settled choice).length := by
    rw [length_settled]
    exact upper
  unfold putMembers settle
  rw [Effect.run_modify]
  congr 2
  apply List.ext_getElem?
  intro offset
  rw [getElem?_replaceMembers lower nonempty sameSize count offset]
  split
  · rename_i inBlock
    rw [getElem?_members lower inBlock, getElem?_settled, laidOut.chosenAt_inside found inBlock]
    simp only [Choice.without, if_pos, Option.map_none]
    exact Option.map_id'.symm
  · rename_i outside
    apply laidOut.settled_outside found outside
    intro other different
    exact (if_neg different).symm

/-- Assigning categories one after the other settles the listed blocks. -/
theorem LaidOut.forM_assignCategory {model : Model α} (laidOut : model.LaidOut)
    {pairs : List (Nat × Int)}
    (valid : ∀ position code, (position, code) ∈ pairs →
      ∃ block, model.blocks[position]? = some block ∧ 0 ≤ code ∧ code < block.cardinality) :
    (pairs.forM fun (position, code) => assignCategory position code) model =
      .ok () (model.settle (Choice.assigned pairs)) := by
  induction pairs generalizing model with
  | nil =>
      change EStateM.Result.ok () model = _
      rw [Choice.assigned, settle_nothing]
  | cons pair rest ih =>
      obtain ⟨position, code⟩ := pair
      obtain ⟨block, found, inside⟩ := valid position code List.mem_cons_self
      have settled := laidOut_settle laidOut (Choice.single position code)
      refine (Effect.run_bind model (assignCategory position code) _).trans ?_
      rw [laidOut.assignCategory_eq found inside]
      refine (ih settled fun other otherCode listed =>
        valid other otherCode (List.mem_cons_of_mem _ listed)).trans ?_
      rw [laidOut.settle_settle]
      rfl

end Members

end Model

end HingeField
