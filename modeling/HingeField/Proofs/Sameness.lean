import HingeField.Proofs.Ways

/-!
File systems with the same entries, however these are stored. Main statement:
every operation treats them alike, down to the reason of a refusal, and leaves
file systems with the same entries again.
-/

namespace HingeField.FileSystem

variable {files other : FileSystem} {location : Location} {path : Path}

structure Same (files other : FileSystem) : Prop where
  here : other.here = files.here
  entries : ∀ location, other.entryAt location = files.entryAt location

/-- Two results are both refused for one reason, or both leave files that are related. -/
def Agree (related : FileSystem → FileSystem → Prop) :
    Except FileFault FileSystem → Except FileFault FileSystem → Prop
  | .ok files, .ok other => related files other
  | .error fault, .error otherFault => fault = otherFault
  | _, _ => False

theorem Agree.cases {related : FileSystem → FileSystem → Prop}
    {first second : Except FileFault FileSystem} (agree : Agree related first second) :
    (∃ files other, first = .ok files ∧ second = .ok other ∧ related files other) ∨
      ∃ fault, first = .error fault ∧ second = .error fault := by
  cases first with
  | ok files =>
      cases second with
      | ok other => exact Or.inl ⟨files, other, rfl, rfl, agree⟩
      | error fault => exact agree.elim
  | error fault =>
      cases second with
      | ok other => exact agree.elim
      | error other =>
          cases agree
          exact Or.inr ⟨fault, rfl, rfl⟩

theorem Agree.mono {related weaker : FileSystem → FileSystem → Prop}
    {first second : Except FileFault FileSystem} (agree : Agree related first second)
    (weaken : ∀ files other, related files other → weaker files other) :
    Agree weaker first second := by
  cases first with
  | ok files =>
      cases second with
      | ok other => exact weaken files other agree
      | error fault => exact agree
  | error fault =>
      cases second with
      | ok other => exact agree
      | error other => exact agree

namespace Same

theorem refl (files : FileSystem) : Same files files :=
  ⟨rfl, fun _ => rfl⟩

theorem symm (same : Same files other) : Same other files :=
  ⟨same.here.symm, fun location => (same.entries location).symm⟩

section Ways

variable (same : Same files other)
include same

theorem step (location : Location) (name : String) :
    other.step location name = files.step location name := by
  unfold FileSystem.step
  rw [same.entries]

theorem goalOf (links : Nat) (location : Location) :
    other.goalOf links location = files.goalOf links location := by
  induction links generalizing location with
  | zero => rfl
  | succ links ih =>
      have way : (fun location name => do other.step (← other.goalOf links location) name) =
          (fun location name => do files.step (← files.goalOf links location) name) := by
        funext location name
        simp only [ih, same.step]
      unfold FileSystem.goalOf
      rw [same.entries, way]
      simp only [ih]

theorem follow (location : Location) : other.follow location = files.follow location :=
  same.goalOf maximalLinks location

theorem locate (path : Path) : other.locate path = files.locate path := by
  have enter : other.enter = files.enter := by
    funext location name
    unfold FileSystem.enter
    simp only [same.follow, same.step]
  unfold FileSystem.locate
  rw [enter, same.here]

theorem goal (path : Path) : other.goal path = files.goal path := by
  unfold FileSystem.goal
  simp only [same.locate, same.follow]

theorem status (path : Path) : other.status path = files.status path := by
  unfold FileSystem.status
  simp only [same.goal, same.entries]

theorem contains (path : Path) : other.contains path = files.contains path := by
  unfold FileSystem.contains
  rw [same.status]

theorem isDirectory (path : Path) : other.isDirectory path = files.isDirectory path := by
  unfold FileSystem.isDirectory
  rw [same.status]

theorem read (path : Path) : other.read path = files.read path := by
  unfold FileSystem.read
  simp only [same.goal, same.entries]

end Ways

section Changes

variable (same : Same files other)
include same

theorem store (location : Location) (entry : Entry) :
    Same (files.store location entry) (other.store location entry) := by
  refine ⟨same.here, fun asked => ?_⟩
  by_cases stored : asked = location
  · subst stored
    by_cases root : asked = []
    · subst root
      rfl
    · rw [entryAt_store_self other root, entryAt_store_self files root]
  · rw [entryAt_store_of_ne other stored, entryAt_store_of_ne files stored]
    exact same.entries asked

theorem erase (location : Location) : Same (files.erase location) (other.erase location) := by
  refine ⟨same.here, fun asked => ?_⟩
  by_cases erased : asked = location
  · subst erased
    by_cases root : asked = []
    · subst root
      rfl
    · rw [entryAt_erase_self root, entryAt_erase_self root]
  · rw [entryAt_erase_of_ne erased, entryAt_erase_of_ne erased]
    exact same.entries asked

theorem write (path : Path) (content : ByteArray) :
    Agree Same (files.write path content) (other.write path content) := by
  unfold FileSystem.write
  rw [same.goal]
  cases files.goal path with
  | error fault => rfl
  | ok goal =>
      simp only [bind, Except.bind, same.entries]
      cases files.entryAt goal with
      | some entry =>
          cases entry with
          | directory => rfl
          | file old executable => exact same.store goal _
          | link path => rfl
      | none =>
          dsimp only
          cases files.entryAt goal.dropLast with
          | none => rfl
          | some entry =>
              cases entry with
              | directory => exact same.store goal _
              | file old executable => rfl
              | link path => rfl

theorem remove (path : Path) : Agree Same (files.remove path) (other.remove path) := by
  unfold FileSystem.remove
  rw [same.locate]
  cases files.locate path with
  | error fault => rfl
  | ok location =>
      simp only [bind, Except.bind, same.entries]
      cases files.entryAt location with
      | none => rfl
      | some entry =>
          cases entry with
          | directory => rfl
          | file old executable => exact same.erase location
          | link path => exact same.erase location

theorem removeIfPresent (path : Path) :
    Agree Same (files.removeIfPresent path) (other.removeIfPresent path) := by
  unfold FileSystem.removeIfPresent
  rcases (same.remove path).cases with ⟨changed, otherChanged, first, second, after⟩ |
    ⟨fault, first, second⟩
  · rw [first, second]
    exact after
  · rw [first, second]
    cases fault with
    | notFound => exact same
    | _ => rfl

theorem makeDirectory (path : Path) :
    Agree Same (files.makeDirectory path) (other.makeDirectory path) := by
  unfold FileSystem.makeDirectory
  rw [same.locate]
  cases files.locate path with
  | error fault => rfl
  | ok location =>
      simp only [bind, Except.bind, same.entries]
      cases files.entryAt location with
      | none => exact same.store location .directory
      | some entry => rfl

theorem ensureDirectory (path : Path) :
    Agree Same (files.ensureDirectory path) (other.ensureDirectory path) := by
  unfold FileSystem.ensureDirectory
  rcases (same.makeDirectory path).cases with ⟨changed, otherChanged, first, second, after⟩ |
    ⟨fault, first, second⟩
  · rw [first, second]
    exact after
  · rw [first, second, same.isDirectory]
    cases files.isDirectory path with
    | error overlong =>
        cases fault with
        | _ => rfl
    | ok isDirectory =>
        cases isDirectory with
        | true =>
            cases fault with
            | notFound => rfl
            | _ => exact same
        | false =>
            cases fault with
            | _ => rfl

theorem settle {result otherResult : Except FileFault FileSystem}
    (agree : Agree Same result otherResult) :
    Same (files.settle result).1 (other.settle otherResult).1 ∧
      (files.settle result).2 = (other.settle otherResult).2 := by
  rcases agree.cases with ⟨changed, otherChanged, rfl, rfl, after⟩ | ⟨fault, rfl, rfl⟩
  · exact ⟨after, rfl⟩
  · exact ⟨same, rfl⟩

end Changes

theorem ensureParts (same : Same files other) (root : String) (parts : List String) :
    Same (FileSystem.ensureParts root parts files).1
        (FileSystem.ensureParts root parts other).1 ∧
      (FileSystem.ensureParts root parts files).2 =
        (FileSystem.ensureParts root parts other).2 := by
  induction parts generalizing files other with
  | nil => exact same.settle (same.ensureDirectory _)
  | cons last before ih =>
      rw [ensureParts_cons, ensureParts_cons]
      rcases (same.ensureDirectory ⟨root, (last :: before).reverse⟩).cases with
        ⟨changed, otherChanged, first, second, after⟩ | ⟨fault, first, second⟩
      · rw [first, second]
        exact ⟨after, rfl⟩
      · rw [first, second]
        cases fault with
        | notFound =>
            have above := ih same
            cases firstAbove : FileSystem.ensureParts root before files with
            | mk parents refusal =>
                cases secondAbove : FileSystem.ensureParts root before other with
                | mk otherParents otherRefusal =>
                    rw [firstAbove, secondAbove] at above
                    obtain ⟨sameParents, rfl⟩ := above
                    cases refusal with
                    | none => exact sameParents.settle (sameParents.ensureDirectory _)
                    | some fault => exact ⟨sameParents, rfl⟩
        | _ => exact ⟨same, rfl⟩

theorem ensureDirectories (same : Same files other) (path : Path) :
    Same (files.ensureDirectories path).1 (other.ensureDirectories path).1 ∧
      (files.ensureDirectories path).2 = (other.ensureDirectories path).2 :=
  same.ensureParts path.root path.parts.reverse


end Same

end HingeField.FileSystem
