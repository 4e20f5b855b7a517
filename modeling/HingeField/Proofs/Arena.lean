import HingeField.Model

/-!
Reading and writing the arena. An index inside the arena is read and written
at its own offset; what an index reads is settled by the cell that it resolves
to, so that two arenas of one length which agree there read the same.
-/

namespace HingeField

theorem resolvePosition?_of_inside {size : Nat} {position : Int} (lower : 0 ≤ position)
    (upper : position < size) : resolvePosition? size position = some position.toNat := by
  unfold resolvePosition?
  rw [if_pos ⟨lower, upper⟩]

theorem eq_toNat_of_resolved {size offset : Nat} {position : Int} (lower : 0 ≤ position)
    (resolved : resolvePosition? size position = some offset) : offset = position.toNat := by
  have upper := resolvePosition?_lt resolved
  unfold resolvePosition? at resolved
  split at resolved
  · exact (Option.some.inj resolved).symm
  · rw [if_neg (by omega)] at resolved
    cases resolved

theorem elementAt?_eq_some_iff {α : Type} {items : List α} {position : Int} {item : α} :
    elementAt? items position = some item ↔
      ∃ offset, resolvePosition? items.length position = some offset ∧
        items[offset]? = some item := by
  unfold elementAt?
  exact Option.bind_eq_some_iff

namespace Arena

variable {α : Type}

theorem read_of_resolved {arena : Arena α} {index : Int} {offset : Nat}
    (resolved : resolvePosition? arena.length index = some offset)
    (inside : offset < arena.length) : arena.read index = .ok arena[offset] := by
  unfold Arena.read elementAt?
  rw [resolved, Option.bind_some, List.getElem?_eq_getElem inside]

theorem read_of_inside {arena : Arena α} {index : Int} (lower : 0 ≤ index)
    (upper : index.toNat < arena.length) : arena.read index = .ok arena[index.toNat] := by
  apply read_of_resolved _ upper
  exact resolvePosition?_of_inside lower (by omega)

/-- Reading succeeds at the indices of cells. -/
theorem read_eq_ok_iff {arena : Arena α} {index : Int} {value : α} :
    arena.read index = .ok value ↔
      ∃ offset, resolvePosition? arena.length index = some offset ∧
        arena[offset]? = some value := by
  rw [← elementAt?_eq_some_iff]
  unfold Arena.read
  cases elementAt? arena index with
  | none =>
      constructor
      · intro impossible
        cases impossible
      · intro impossible
        cases impossible
  | some found =>
      constructor
      · intro success
        cases success
        rfl
      · intro success
        cases success
        rfl

theorem mem_of_read {arena : Arena α} {index : Int} {value : α}
    (success : arena.read index = .ok value) : value ∈ arena := by
  obtain ⟨offset, _, stands⟩ := read_eq_ok_iff.mp success
  exact List.mem_of_getElem? stands

/-- What an index reads depends only on the length of the arena and the cell it resolves to. -/
theorem read_congr {first second : Arena α} {index : Int}
    (sameLength : first.length = second.length)
    (sameCell : ∀ offset, resolvePosition? first.length index = some offset →
      first[offset]? = second[offset]?) :
    first.read index = second.read index := by
  unfold Arena.read elementAt?
  rw [← sameLength]
  cases resolved : resolvePosition? first.length index with
  | none => rfl
  | some offset =>
      simp only [Option.bind_some]
      rw [sameCell offset resolved]

/-- An index does not see what is written at an offset that it does not resolve to. -/
theorem read_set_of_unresolved {arena : Arena α} {offset : Nat} {position : Int}
    (unresolved : resolvePosition? arena.length position ≠ some offset) (value : α) :
    Arena.read (arena.set offset value) position = arena.read position := by
  apply read_congr List.length_set
  intro other resolved
  rw [List.length_set] at resolved
  have different : offset ≠ other := fun same => unresolved (same ▸ resolved)
  exact List.getElem?_set_ne different

theorem read_set_of_ne {arena : Arena α} {index position : Int} (lower : 0 ≤ index)
    (positionLower : 0 ≤ position) (different : position ≠ index) (value : α) :
    Arena.read (arena.set index.toNat value) position = arena.read position := by
  apply read_set_of_unresolved
  intro resolved
  have same := eq_toNat_of_resolved positionLower resolved
  omega

end Arena

/-- Whether all listed variables have cells in an arena of the given size. -/
def Resolves (size : Nat) (listed : List Int) : Prop :=
  ∀ index ∈ listed, ∃ offset, resolvePosition? size index = some offset

theorem resolves_of_inside {size : Nat} {listed : List Int}
    (inside : ∀ index ∈ listed, 0 ≤ index ∧ index < size) : Resolves size listed := by
  intro index member
  obtain ⟨lower, upper⟩ := inside index member
  exact ⟨index.toNat, resolvePosition?_of_inside lower upper⟩

namespace Model

variable {α : Type}

section Cells

variable {model : Model α} {index : Int} {offset : Nat}

theorem readValue_of_resolved {current : α}
    (resolved : resolvePosition? model.values.length index = some offset)
    (stands : model.values[offset]? = some current) :
    readValue index model = .ok current model := by
  unfold readValue Arena.read elementAt?
  simp only [Effect.run_bind, Effect.run_get, resolved, Option.bind_some, stands,
    Effect.run_ofExcept_ok]

theorem readValue_of_unresolved (unresolved : resolvePosition? model.values.length index = none) :
    readValue index model = .error (indexFault index model.values.length) model := by
  unfold readValue Arena.read elementAt?
  simp only [Effect.run_bind, Effect.run_get, unresolved, Option.bind_none,
    Effect.run_ofExcept_error]

theorem writeValue_of_resolved
    (resolved : resolvePosition? model.values.length index = some offset) (value : α) :
    writeValue index value model =
      .ok () { model with values := model.values.set offset value } := by
  unfold writeValue Arena.write
  simp only [Effect.run_bind, Effect.run_get, resolved, Effect.run_ofExcept_ok, Effect.run_set]

end Cells

theorem readValue_of_inside {model : Model α} {index : Int} (lower : 0 ≤ index)
    (upper : index.toNat < model.values.length) :
    readValue index model = .ok model.values[index.toNat] model :=
  readValue_of_resolved (resolvePosition?_of_inside lower (by omega))
    (List.getElem?_eq_getElem upper)

theorem writeValue_of_inside {model : Model α} {index : Int} (lower : 0 ≤ index)
    (upper : index.toNat < model.values.length) (value : α) :
    writeValue index value model =
      .ok () { model with values := model.values.set index.toNat value } :=
  writeValue_of_resolved (resolvePosition?_of_inside lower (by omega)) value

theorem commit_of_inside {model : Model α} {index : Int} (lower : 0 ≤ index)
    (upper : index.toNat < model.values.length) :
    commit index model =
      .ok ()
        { model with
          committed := Keyed.put model.committed index model.values[index.toNat]
          journal :=
            if model.keepsJournal then model.journal ++ [⟨index, model.values[index.toNat]⟩]
            else model.journal } := by
  unfold commit
  simp only [Effect.run_bind, readValue_of_inside lower upper, Effect.run_modify]

end Model

end HingeField
