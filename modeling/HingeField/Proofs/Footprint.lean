import HingeField.Proofs.Ways

/-!
What each operation on files leaves alone. Main statements: writing through a
path changes at most the place that the path leads to, if no link stands there;
removing takes away at most what stands at that place, even a link; and making
a directory with those above it only fills places where nothing was.
-/

namespace HingeField.FileSystem

variable {files before after : FileSystem} {location : Location} {path : Path}
  {paths : List Path} {content : ByteArray}

/-- A place that one of the paths leads to. -/
def Led (files : FileSystem) (paths : List Path) (location : Location) : Prop :=
  ∃ path ∈ paths, files.locate path = .ok location

structure Untouched (places : Location → Prop) (before after : FileSystem) : Prop where
  here : after.here = before.here
  entries : ∀ location, ¬places location → after.entryAt location = before.entryAt location

/-- The paths lead to different places, and no link stands at any of them. -/
structure Apart (files : FileSystem) (paths : List Path) : Prop where
  distinct : paths.Pairwise fun path other =>
    ∀ location, files.locate path = .ok location → files.locate other ≠ .ok location
  unlinked : ∀ location, files.Led paths location →
    ∀ goal, files.entryAt location ≠ some (.link goal)

theorem AlikeBut.untouched {places : Location → Prop} (alike : AlikeBut places before after) :
    Untouched places before after := by
  refine ⟨alike.here, fun location elsewhere => ?_⟩
  rcases alike.entries location with same | ⟨listed, _⟩
  · exact same
  · exact absurd listed elsewhere

section Writing

/-- Whether a file can be run. -/
def isExecutable : Option Entry → Bool
  | some (.file _ executable) => executable
  | _ => false

/-- A file is written behind links, and one that was there keeps its mode. -/
theorem write_eq_ok (success : files.write path content = .ok after) :
    ∃ goal, files.goal path = .ok goal ∧ goal ≠ [] ∧ IsPlain (files.entryAt goal) ∧
      after = files.store goal (.file content (isExecutable (files.entryAt goal))) := by
  obtain ⟨goal, reached, stored⟩ := except_bind_eq_ok_iff.mp success
  have below : IsPlain (files.entryAt goal) → goal ≠ [] := by
    rintro plain rfl
    exact plain
  refine ⟨goal, reached, ?_⟩
  cases present : files.entryAt goal with
  | none =>
      rw [present] at below
      simp only [present] at stored
      refine ⟨below trivial, trivial, ?_⟩
      split at stored <;> cases stored
      rfl
  | some entry =>
      rw [present] at below
      simp only [present] at stored
      cases entry with
      | directory => cases stored
      | link goal => cases stored
      | file old executable =>
          cases stored
          exact ⟨below trivial, trivial, rfl⟩

theorem goal_of_unlinked (located : files.locate path = .ok location)
    (unlinked : ∀ goal, files.entryAt location ≠ some (.link goal)) :
    files.goal path = .ok location :=
  except_bind_eq_ok_iff.mpr ⟨location, located, follow_of_unlinked unlinked⟩

theorem content?_of_file {executable : Bool} (located : files.locate path = .ok location)
    (present : files.entryAt location = some (.file content executable)) :
    files.content? path = some content := by
  have unlinked : ∀ goal, files.entryAt location ≠ some (.link goal) := by
    intro goal linked
    rw [present] at linked
    cases linked
  unfold content? entry?
  rw [goal_of_unlinked located unlinked]
  simp only [present]

/-- A file is written at the place its path leads to, if no link stands there. -/
theorem write_eq_ok_of_unlinked
    (unlinked : ∀ location, files.locate path = .ok location →
      ∀ goal, files.entryAt location ≠ some (.link goal))
    (success : files.write path content = .ok after) :
    ∃ location, files.locate path = .ok location ∧ location ≠ [] ∧
      IsPlain (files.entryAt location) ∧
      after = files.store location (.file content (isExecutable (files.entryAt location))) := by
  obtain ⟨goal, reached, rest⟩ := write_eq_ok success
  obtain ⟨location, located, followed⟩ := except_bind_eq_ok_iff.mp reached
  rw [follow_of_unlinked (unlinked location located)] at followed
  cases followed
  exact ⟨goal, located, rest⟩

end Writing

section Apart

variable (apart : files.Apart paths)
include apart

theorem Apart.unlinked_of_alike (alike : AlikeBut (files.Led paths) files before)
    (member : path ∈ paths) (location : Location) (located : before.locate path = .ok location)
    (goal : Path) : before.entryAt location ≠ some (.link goal) := by
  rcases alike.opens.entries location with same | ⟨_, unlinked⟩
  · rw [same]
    exact apart.unlinked location ⟨path, member, alike.locate_iff.mp located⟩ goal
  · exact unlinked goal

/-- Writing through one of the paths stores a file at its place. -/
theorem Apart.write (alike : AlikeBut (files.Led paths) files before) (member : path ∈ paths)
    (success : before.write path content = .ok after) :
    AlikeBut (files.Led paths) files after ∧
      ∃ location executable, files.locate path = .ok location ∧ location ≠ [] ∧
        after = before.store location (.file content executable) := by
  obtain ⟨location, located, below, plain, rfl⟩ :=
    write_eq_ok_of_unlinked (apart.unlinked_of_alike alike member) success
  have led := alike.locate_iff.mp located
  refine ⟨⟨alike.here, fun asked => ?_⟩, location, _, led, below, rfl⟩
  by_cases same : asked = location
  · subst same
    rw [entryAt_store_self before below]
    exact Or.inr ⟨⟨path, member, led⟩, alike.isPlain_iff.mp plain, trivial⟩
  · rw [entryAt_store_of_ne before same]
    exact alike.entries asked

/-- Removing through one of the paths erases a file at its place, if one is there. -/
theorem Apart.remove (alike : AlikeBut (files.Led paths) files before) (member : path ∈ paths)
    (success : before.removeIfPresent path = .ok after) :
    AlikeBut (files.Led paths) files after ∧ after.Absent path ∧
      ∀ location, files.locate path ≠ .ok location →
        after.entryAt location = before.entryAt location := by
  obtain ⟨absent, rfl | ⟨location, located, standing, rfl⟩⟩ := removeIfPresent_eq_ok success
  · exact ⟨alike, absent, fun _ _ => rfl⟩
  have led := alike.locate_iff.mp located
  refine ⟨⟨alike.here, fun asked => ?_⟩, absent, ?_⟩
  · rcases entryAt_erase before location asked with same | ⟨rfl, missing⟩
    · rw [same]
      exact alike.entries asked
    · have plain := isPlain_iff.mpr
        ⟨standing, apart.unlinked_of_alike alike member asked located⟩
      rw [missing]
      exact Or.inr ⟨⟨path, member, led⟩, alike.isPlain_iff.mp plain, trivial⟩
  · intro asked elsewhere
    apply entryAt_erase_of_ne
    rintro rfl
    exact elsewhere led

end Apart

section Removing

/-- Nothing has changed but that some of the paths have lost what they led to. Whatever stands at
the places may be a link, which other paths then no longer go through. -/
structure Pruned (paths : List Path) (before after : FileSystem) : Prop where
  here : after.here = before.here
  located : ∀ path, after.locate path = before.locate path ∨
    after.locate path = .error .notFound
  entries : ∀ location, after.entryAt location = before.entryAt location ∨
    after.entryAt location = none ∧ before.Led paths location

theorem Pruned.refl (paths : List Path) (files : FileSystem) : Pruned paths files files :=
  ⟨rfl, fun _ => Or.inl rfl, fun _ => Or.inl rfl⟩

theorem Pruned.untouched (pruned : Pruned paths before after) :
    Untouched (before.Led paths) before after := by
  refine ⟨pruned.here, fun location elsewhere => ?_⟩
  rcases pruned.entries location with same | ⟨_, led⟩
  · exact same
  · exact absurd led elsewhere

theorem Pruned.remove (pruned : Pruned paths files before) (member : path ∈ paths)
    (success : before.removeIfPresent path = .ok after) : Pruned paths files after := by
  obtain ⟨_, rfl | ⟨location, located, _, rfl⟩⟩ := removeIfPresent_eq_ok success
  · exact pruned
  refine ⟨pruned.here, fun asked => ?_, fun asked => ?_⟩
  · rcases locate_erase before location asked with same | cut
    · rw [same]
      exact pruned.located asked
    · exact Or.inr cut
  · rcases entryAt_erase before location asked with same | ⟨rfl, missing⟩
    · rw [same]
      exact pruned.entries asked
    · refine Or.inr ⟨missing, path, member, ?_⟩
      rcases pruned.located path with same | cut
      · exact same.symm.trans located
      · rw [cut] at located
        cases located

theorem Absent.remove {other : Path} (absent : before.Absent path)
    (success : before.removeIfPresent other = .ok after) : after.Absent path := by
  obtain ⟨_, rfl | ⟨location, _, _, rfl⟩⟩ := removeIfPresent_eq_ok success
  · exact absent
  · exact absent.erase location

end Removing

section Growing

/-- Nothing has changed but that new directories stand where nothing was. -/
structure Grown (before after : FileSystem) : Prop where
  here : after.here = before.here
  entries : ∀ location, after.entryAt location = before.entryAt location ∨
    before.entryAt location = none ∧ after.entryAt location = some .directory

theorem Grown.refl (files : FileSystem) : Grown files files :=
  ⟨rfl, fun _ => Or.inl rfl⟩

theorem Grown.trans (first : Grown files before) (second : Grown before after) :
    Grown files after := by
  refine ⟨second.here.trans first.here, fun location => ?_⟩
  rcases second.entries location with same | ⟨missing, made⟩
  · rw [same]
    exact first.entries location
  · rcases first.entries location with same | ⟨_, made⟩
    · rw [same] at missing
      exact Or.inr ⟨missing, made⟩
    · rw [made] at missing
      cases missing

theorem makeDirectory_eq_ok (success : files.makeDirectory path = .ok after) :
    ∃ location, files.locate path = .ok location ∧ files.entryAt location = none ∧
      after = files.store location .directory := by
  obtain ⟨location, located, made⟩ := except_bind_eq_ok_iff.mp success
  refine ⟨location, located, ?_⟩
  cases missing : files.entryAt location with
  | some entry =>
      rw [missing] at made
      cases made
  | none =>
      rw [missing] at made
      cases made
      exact ⟨rfl, rfl⟩

theorem grown_store (missing : files.entryAt location = none) :
    Grown files (files.store location .directory) := by
  refine ⟨rfl, fun asked => ?_⟩
  by_cases same : asked = location
  · subst same
    refine Or.inr ⟨missing, entryAt_store_self files ?_ .directory⟩
    rintro rfl
    cases missing
  · exact Or.inl (entryAt_store_of_ne files same .directory)

theorem ensureDirectory_eq_ok (success : files.ensureDirectory path = .ok after) :
    after = files ∨ files.makeDirectory path = .ok after := by
  unfold ensureDirectory at success
  split at success
  · cases success
  · obtain ⟨isDirectory, _, success⟩ := except_bind_eq_ok_iff.mp success
    split at success
    · cases success
      exact Or.inl rfl
    · cases success
  · rename_i made
    cases success
    exact Or.inr made

theorem grown_ensureDirectory (success : files.ensureDirectory path = .ok after) :
    Grown files after := by
  rcases ensureDirectory_eq_ok success with rfl | made
  · exact Grown.refl after
  · obtain ⟨location, _, missing, rfl⟩ := makeDirectory_eq_ok made
    exact grown_store missing

theorem grown_settle (path : Path) :
    Grown files (files.settle (files.ensureDirectory path)).1 := by
  unfold settle
  cases made : files.ensureDirectory path with
  | error fault => exact Grown.refl files
  | ok changed => exact grown_ensureDirectory made

theorem grown_ensureParts (root : String) (parts : List String) (files : FileSystem) :
    Grown files (ensureParts root parts files).1 := by
  induction parts generalizing files with
  | nil => exact grown_settle _
  | cons last before ih =>
      rw [ensureParts_cons]
      split
      · have above := ih files
        split
        · rename_i parents made
          rw [made] at above
          exact above.trans (grown_settle _)
        · exact above
      · exact grown_settle _

theorem grown_ensureDirectories (files : FileSystem) (path : Path) :
    Grown files (files.ensureDirectories path).1 :=
  grown_ensureParts path.root path.parts.reverse files

end Growing

end HingeField.FileSystem
