import HingeField.Proofs.History

/-!
The partition of the arena into blocks and free variables. Main statement:
after every history the blocks are disjoint ranges of the arena in ascending
order, a variable is owned by the block it lies in, additions append or change
nothing, and no other operation touches the layout; so that category codes
that name variables name different ones, each owned by its block.
-/

namespace HingeField

namespace Model

variable {α : Type} {model : Model α}

theorem blockOf_natCast_eq_ok_iff {index : Nat} {owner : Option Nat} :
    model.blockOf index = .ok owner ↔ model.owners[index]? = some owner := by
  unfold blockOf
  by_cases inside : index < model.owners.length
  · rw [elementAt?_natCast inside]
    cases model.owners[index]? with
    | none =>
        constructor
        · intro impossible
          cases impossible
        · intro impossible
          cases impossible
    | some found =>
        constructor
        · intro owned
          cases owned
          rfl
        · intro same
          cases same
          rfl
  · have outside : elementAt? model.owners (index : Int) = none := by
      unfold elementAt? resolvePosition?
      rw [if_neg (by omega), if_neg (by omega)]
      rfl
    rw [outside, List.getElem?_eq_none (by omega)]
    constructor
    · intro impossible
      cases impossible
    · intro impossible
      cases impossible

theorem LaidOut.free_iff (laidOut : model.LaidOut) {index : Nat}
    (inside : index < model.values.length) :
    model.owners[index]? = some none ↔
      ∀ block ∈ model.blocks, ¬(block.start ≤ index ∧ index < block.stop) := by
  have owned : index < model.owners.length := by
    rw [laidOut.ownerPerValue]
    exact inside
  rw [List.getElem?_eq_getElem owned]
  constructor
  · intro free block member within
    obtain ⟨position, found⟩ := List.getElem?_of_mem member
    have owner := (laidOut.owned index position).mpr ⟨block, found, within⟩
    rw [List.getElem?_eq_getElem owned, free] at owner
    cases owner
  · intro outside
    cases owner : model.owners[index] with
    | none => rfl
    | some position =>
        have stands : model.owners[index]? = some (some position) := by
          rw [List.getElem?_eq_getElem owned, owner]
        obtain ⟨block, found, within⟩ := (laidOut.owned index position).mp stands
        exact absurd within (outside block (List.mem_of_getElem? found))

/-- The variable that a category code names is owned by its block. -/
theorem LaidOut.owner_of_variableFor (laidOut : model.LaidOut) {position : Nat} {block : Block}
    (found : model.blocks[position]? = some block) {code index : Int}
    (named : block.variableFor code = .ok (some index)) :
    0 ≤ index ∧ model.blockOf index = .ok (some position) := by
  have within := inside_of_variableFor named
  have lower := (laidOut.bounds found).1
  obtain ⟨offset, rfl⟩ := Int.eq_ofNat_of_zero_le (show 0 ≤ index by omega)
  exact ⟨Int.natCast_nonneg offset, blockOf_natCast_eq_ok_iff.mpr
    ((laidOut.owned offset position).mpr ⟨block, found, within⟩)⟩

theorem code_eq_of_variableFor {block : Block} {code other index : Int}
    (named : block.variableFor code = .ok (some index))
    (otherNamed : block.variableFor other = .ok (some index)) : code = other := by
  unfold Block.variableFor at named otherNamed
  split at named
  · split at otherNamed
    · cases exact : block.exactlyOne with
      | true =>
          simp only [exact, if_true, Except.ok.injEq, Option.some.injEq] at named otherNamed
          omega
      | false =>
          simp only [exact, Bool.false_eq_true, if_false, Except.ok.injEq] at named otherNamed
          split at named
          · cases named
          · split at otherNamed
            · cases otherNamed
            · simp only [Option.some.injEq] at named otherNamed
              omega
    · cases otherNamed
  · cases named

end Model

open Model

theorem layout_of_run {session : Session} (laidOut : session.model.LaidOut) {operation : Operation}
    (noVariable : ∀ value, operation ≠ .addVariable value)
    (noBlock : ∀ size exactlyOne initial, operation ≠ .addBlock size exactlyOne initial) :
    let after := (Effect.final (operation.run session)).model
    after.owners = session.model.owners ∧ after.blocks = session.model.blocks ∧
      after.values.length = session.model.values.length := by
  by_cases plain : operation.appends = false
  · have closed : IsClosed fun _ => True := ⟨fun _ _ _ => trivial, fun _ _ => trivial⟩
    have permits : session.model.Permits (fun _ => True) (fun _ => True) :=
      ⟨laidOut, fun _ _ _ _ _ => trivial, trivial, trivial, closed.softened⟩
    have confined := (Operation.keeps_run plain permits closed.unit (fun _ _ _ _ => trivial)
      (fun _ _ => trivial) (fun _ _ => trivial) session
      ⟨confined_self fun _ _ => trivial, fun _ _ _ _ => trivial⟩).model
    exact ⟨confined.sameOwners, confined.sameBlocks, confined.sameSize⟩
  · cases operation with
    | addVariable value => exact absurd rfl (noVariable value)
    | addBlock size exactlyOne initial => exact absurd rfl (noBlock size exactlyOne initial)
    | addRule rule => exact ⟨rfl, rfl, rfl⟩
    | _ => exact absurd rfl plain

/-- The blocks are nonempty disjoint ranges of the arena in ascending order, and the owner of a
variable is the block that it lies in. -/
structure Model.IsPartitioned {α : Type} (model : Model α) : Prop where
  ownerPerValue : model.owners.length = model.values.length
  inside : ∀ block ∈ model.blocks,
    1 ≤ block.size ∧ 0 ≤ block.start ∧ block.stop ≤ model.values.length
  ascending : model.blocks.Pairwise fun earlier later => earlier.stop ≤ later.start
  owned : ∀ index position : Nat, index < model.values.length →
    (model.blockOf index = .ok (some position) ↔
      ∃ block, model.blocks[position]? = some block ∧ block.start ≤ index ∧ index < block.stop)
  free : ∀ index : Nat, index < model.values.length →
    (model.blockOf index = .ok none ↔
      ∀ block ∈ model.blocks, ¬(block.start ≤ index ∧ index < block.stop))
  distinct : ∀ (position other : Nat) (block otherBlock : Block)
    (code otherCode index otherIndex : Int),
    model.blocks[position]? = some block → model.blocks[other]? = some otherBlock →
    block.variableFor code = .ok (some index) →
    otherBlock.variableFor otherCode = .ok (some otherIndex) →
    (position, code) ≠ (other, otherCode) →
      index ≠ otherIndex ∧ model.blockOf index = .ok (some position) ∧
        model.blockOf otherIndex = .ok (some other)

/-- Additions append to the layout or change nothing, and other operations leave it alone. -/
structure Session.GrowsOnly (session : Session) : Prop where
  variableAdded : ∀ value index after, addVariable value session.model = .ok index after →
    index = session.model.values.length ∧ after.values = session.model.values ++ [value] ∧
      after.owners = session.model.owners ++ [none] ∧ after.blocks = session.model.blocks
  variableRefused : ∀ value fault after, addVariable value session.model = .error fault after →
    after = session.model
  blockAdded : ∀ size exactlyOne (initial : Option GivenValues) position after,
    addBlock size exactlyOne (initial.map (·.val)) session.model = .ok position after →
      position = session.model.blocks.length ∧ 1 ≤ size ∧
      (∃ values, (values.length : Int) = size ∧
        after.values = session.model.values ++ values) ∧
      after.owners = session.model.owners ++ List.replicate size.toNat (some position) ∧
      after.blocks = session.model.blocks ++
        [⟨session.model.values.length, session.model.values.length + size, exactlyOne⟩]
  blockRefused : ∀ size exactlyOne (initial : Option GivenValues) fault after,
    addBlock size exactlyOne (initial.map (·.val)) session.model = .error fault after →
      after = session.model
  otherwise : ∀ operation : Operation, (∀ value, operation ≠ .addVariable value) →
    (∀ size exactlyOne initial, operation ≠ .addBlock size exactlyOne initial) →
    let after := (Effect.final (operation.run session)).model
    after.owners = session.model.owners ∧ after.blocks = session.model.blocks ∧
      after.values.length = session.model.values.length

theorem Model.LaidOut.isPartitioned {α : Type} {model : Model α} (laidOut : model.LaidOut) :
    model.IsPartitioned := by
  refine ⟨laidOut.ownerPerValue, ?_, laidOut.ascending, ?_, ?_, ?_⟩
  · intro block member
    have nonempty := laidOut.nonempty block member
    have inside := laidOut.inside block member
    unfold Block.size
    omega
  · intro index position _
    exact blockOf_natCast_eq_ok_iff.trans (laidOut.owned index position)
  · intro index inside
    exact blockOf_natCast_eq_ok_iff.trans (laidOut.free_iff inside)
  · intro position other block otherBlock code otherCode index otherIndex found otherFound named
      otherNamed different
    have owner := laidOut.owner_of_variableFor found named
    have otherOwner := laidOut.owner_of_variableFor otherFound otherNamed
    refine ⟨?_, owner.2, otherOwner.2⟩
    rintro rfl
    cases owner.2.symm.trans otherOwner.2
    cases found.symm.trans otherFound
    exact different (by rw [code_eq_of_variableFor named otherNamed])

theorem growsOnly_of_laidOut {session : Session} (laidOut : session.model.LaidOut) :
    session.GrowsOnly := by
  refine ⟨?_, ?_, ?_, ?_, fun operation => layout_of_run laidOut⟩
  · intro value index after success
    rcases addVariable_cases value session.model with ⟨_, added⟩ | ⟨_, refused⟩
    · rw [added] at success
      cases success
      exact ⟨rfl, rfl, rfl, rfl⟩
    · rw [refused] at success
      cases success
  · intro value fault after failure
    rcases addVariable_cases value session.model with ⟨_, added⟩ | ⟨_, refused⟩
    · rw [added] at failure
      cases failure
    · rw [refused] at failure
      cases failure
      rfl
  · intro size exactlyOne initial position after success
    rcases addBlock_cases size exactlyOne (initial.map (·.val)) session.model with
      ⟨values, positive, given, added⟩ | ⟨fault, refused⟩
    · rw [added] at success
      cases success
      have count : values.length = size.toNat :=
        length_of_blockValues given fun _ => isFilled_of_given
      refine ⟨rfl, positive, ⟨values, by omega, rfl⟩, ?_, rfl⟩
      rw [← count]
      rfl
    · rw [refused] at success
      cases success
  · intro size exactlyOne initial fault after failure
    rcases addBlock_cases size exactlyOne (initial.map (·.val)) session.model with
      ⟨values, _, _, added⟩ | ⟨early, refused⟩
    · rw [added] at failure
      cases failure
    · rw [refused] at failure
      cases failure
      rfl

/-- After any operations on an empty model, whether they succeeded or failed, the blocks partition
the arena, and they go on doing so. -/
theorem blocks_partition_arena (keepsJournal : Bool) (operations : List Operation) :
    let session := (Session.start keepsJournal).after operations
    session.model.IsPartitioned ∧ session.GrowsOnly := by
  intro session
  have closed : IsClosed fun _ => True := ⟨fun _ _ _ => trivial, fun _ _ => trivial⟩
  have sound : session.IsSound fun _ => True :=
    (isSound_start keepsJournal).after closed fun _ _ _ _ _ _ => trivial
  exact ⟨sound.laidOut.isPartitioned, growsOnly_of_laidOut sound.laidOut⟩

end HingeField
