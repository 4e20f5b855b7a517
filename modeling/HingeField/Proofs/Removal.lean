import HingeField.Solver.FileSystem

/-!
Paths that are no paths at all. Main statements: an operation on a path is
refused for an embedded null only because of the text of the path, whatever
the files are, so that a path which was accepted once is never refused so.
Removals at several paths can be tried in turn, each whatever became of those
before it.
-/

namespace HingeField.FileSystem

def HasNull (path : Path) : Prop :=
  path.text.contains '\x00' = true

instance (path : Path) : Decidable (HasNull path) :=
  inferInstanceAs (Decidable (path.text.contains '\x00' = true))

section Refusal

variable {α β : Type} {fault : FileFault}

private theorem bind_eq_error_iff {first : Except FileFault α} {next : α → Except FileFault β}
    (neverNext : ∀ value, next value ≠ .error fault) :
    (first >>= next) = .error fault ↔ first = .error fault := by
  cases first with
  | ok value =>
      constructor
      · intro refused
        exact absurd refused (neverNext value)
      · intro impossible
        cases impossible
  | error other =>
      constructor
      · intro refused
        cases refused
        rfl
      · intro same
        cases same
        rfl

private theorem bind_ne_error {first : Except FileFault α} {next : α → Except FileFault β}
    (neverFirst : first ≠ .error fault) (neverNext : ∀ value, next value ≠ .error fault) :
    (first >>= next) ≠ .error fault :=
  fun refused => neverFirst ((bind_eq_error_iff neverNext).mp refused)

private theorem foldlM_ne_error {step : β → α → Except FileFault β}
    (never : ∀ state item, step state item ≠ .error fault) (items : List α) (start : β) :
    items.foldlM step start ≠ .error fault := by
  induction items generalizing start with
  | nil =>
      intro impossible
      cases impossible
  | cons item items ih =>
      rw [List.foldlM_cons]
      exact bind_ne_error (never start item) ih

end Refusal

theorem step_ne_embeddedNull (files : FileSystem) (location : Location) (name : String) :
    files.step location name ≠ .error .embeddedNull := by
  unfold step
  split
  · split
    · nofun
    · nofun
  · nofun
  · nofun

theorem goalOf_ne_embeddedNull (files : FileSystem) (links : Nat) (location : Location) :
    files.goalOf links location ≠ .error .embeddedNull := by
  induction links generalizing location with
  | zero => nofun
  | succ links ih =>
      unfold goalOf
      split
      · apply bind_ne_error
        · apply foldlM_ne_error
          intro state name
          exact bind_ne_error (ih state) fun goal => step_ne_embeddedNull files goal name
        · exact ih
      · nofun

theorem locate_eq_embeddedNull_iff (files : FileSystem) (path : Path) :
    files.locate path = .error .embeddedNull ↔ HasNull path := by
  unfold locate HasNull
  constructor
  · intro refused
    split at refused
    · assumption
    · split at refused
      · cases refused
      · refine absurd refused (foldlM_ne_error ?_ _ _)
        intro location name
        exact bind_ne_error (goalOf_ne_embeddedNull files maximalLinks location) fun goal =>
          step_ne_embeddedNull files goal name
  · intro null
    rw [if_pos null]

theorem remove_eq_embeddedNull_iff (files : FileSystem) (path : Path) :
    files.remove path = .error .embeddedNull ↔ HasNull path := by
  rw [← locate_eq_embeddedNull_iff files path]
  unfold remove
  apply bind_eq_error_iff
  intro location
  split
  · intro impossible
    cases impossible
  · intro impossible
    cases impossible
  · intro impossible
    cases impossible

theorem removeIfPresent_eq_embeddedNull_iff (files : FileSystem) (path : Path) :
    files.removeIfPresent path = .error .embeddedNull ↔ HasNull path := by
  rw [← remove_eq_embeddedNull_iff files path]
  unfold removeIfPresent
  split
  · rename_i missing
    rw [missing]
    exact iff_of_false nofun nofun
  · exact Iff.rfl

/-- A path that was written to has no null in it. -/
theorem not_hasNull_of_write {files written : FileSystem} {path : Path} {content : ByteArray}
    (success : files.write path content = .ok written) : ¬HasNull path := by
  intro null
  have refused := (locate_eq_embeddedNull_iff files path).mpr null
  unfold write goal at success
  rw [refused] at success
  cases success

section Discarding

/-- Tries to remove what is at each of the paths, one after the other. A refused removal changes
nothing, and it is counted. -/
def discard : FileSystem → List Path → FileSystem × Nat
  | files, [] => (files, 0)
  | files, path :: later =>
      match files.removeIfPresent path with
      | .ok after => after.discard later
      | .error _ => ((files.discard later).1, (files.discard later).2 + 1)

theorem discard_cons_of_ok {files after : FileSystem} {path : Path}
    (removed : files.removeIfPresent path = .ok after) (later : List Path) :
    files.discard (path :: later) = after.discard later := by
  rw [discard, removed]

theorem discard_cons_of_error {files : FileSystem} {path : Path} {refusal : FileFault}
    (refused : files.removeIfPresent path = .error refusal) (later : List Path) :
    files.discard (path :: later) = ((files.discard later).1, (files.discard later).2 + 1) := by
  rw [discard, refused]

theorem discard_append (files : FileSystem) (first second : List Path) :
    files.discard (first ++ second) =
      (((files.discard first).1.discard second).1,
        (files.discard first).2 + ((files.discard first).1.discard second).2) := by
  induction first generalizing files with
  | nil =>
      rw [List.nil_append, discard, Nat.zero_add]
  | cons path later ih =>
      rw [List.cons_append]
      cases removal : files.removeIfPresent path with
      | ok after => rw [discard_cons_of_ok removal, discard_cons_of_ok removal, ih after]
      | error refusal =>
          rw [discard_cons_of_error removal, discard_cons_of_error removal, ih files,
            Nat.add_right_comm]

/-- A single removal that is refused leaves the files alone. -/
theorem discard_single (files : FileSystem) (path : Path) :
    (files.discard [path]).1 = (files.settle (files.removeIfPresent path)).1 := by
  cases removal : files.removeIfPresent path with
  | ok after =>
      rw [discard_cons_of_ok removal]
      rfl
  | error refusal =>
      rw [discard_cons_of_error removal]
      rfl

end Discarding

end HingeField.FileSystem
