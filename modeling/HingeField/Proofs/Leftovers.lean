import HingeField.Proofs.Footprint
import HingeField.Proofs.Naming
import HingeField.Proofs.Sameness

/-!
Files that an earlier run has left over at the places of the model and of the
results. They can hide each other: while one is a file, no path leads through
it. Main statements: making a directory in both of two file systems that differ
in leftovers keeps the difference; writing the model removes it, except at the
place of the results, and removing the results removes the rest.
-/

namespace HingeField.FileSystem

variable {files other base after : FileSystem} {path modelPath outputPath : Path}
  {place location : Location} {content : ByteArray}

section Trees

/-- Whatever there is stands in a directory, and paths start in one. -/
structure IsTree (files : FileSystem) : Prop where
  here : files.entryAt files.here = some .directory
  parent : ∀ location, files.entryAt location ≠ none →
    files.entryAt location.dropLast = some .directory

private theorem foldlM_invariant {ε α β : Type} {holds : β → Prop} {step : β → α → Except ε β}
    (keeps : ∀ state item result, step state item = .ok result → holds result)
    {items : List α} {start finish : β} (first : holds start)
    (success : items.foldlM step start = .ok finish) : holds finish := by
  induction items generalizing start with
  | nil =>
      cases success
      exact first
  | cons item items ih =>
      rw [List.foldlM_cons] at success
      obtain ⟨middle, head, tail⟩ := except_bind_eq_ok_iff.mp success
      exact ih (keeps start item middle head) tail

/-- A place is a directory, or it is in one. -/
def IsInside (files : FileSystem) (location : Location) : Prop :=
  files.entryAt location ≠ some .directory → files.entryAt location.dropLast = some .directory

theorem IsTree.inside_of_step (tree : files.IsTree) {name : String} {next : Location}
    (stepped : files.step location name = .ok next) : files.IsInside next := by
  obtain ⟨directory, _, rfl⟩ := step_eq_ok_iff.mp stepped
  intro notDirectory
  split at notDirectory
  · have present : files.entryAt location ≠ none := by
      rw [directory]
      nofun
    exact absurd (tree.parent location present) notDirectory
  · rename_i down
    rw [if_neg down, List.dropLast_concat]
    exact directory

theorem IsTree.inside_of_locate (tree : files.IsTree)
    (located : files.locate path = .ok location) : files.IsInside location := by
  obtain ⟨_, way⟩ := locate_eq_ok_iff.mp located
  have start : files.IsInside (if path.isAbsolute then [] else files.here) := by
    intro notDirectory
    split at notDirectory
    · exact absurd rfl notDirectory
    · exact absurd tree.here notDirectory
  refine foldlM_invariant ?_ start way
  intro state name next entered
  obtain ⟨behind, _, stepped⟩ := except_bind_eq_ok_iff.mp entered
  exact tree.inside_of_step stepped

/-- A directory may be given anything new, or another file in the place of one. -/
theorem IsTree.store (tree : files.IsTree) (plain : IsPlain (files.entryAt location))
    (inside : files.entryAt location.dropLast = some .directory) (entry : Entry) :
    (files.store location entry).IsTree := by
  have below : location ≠ [] := by
    rintro rfl
    exact plain.ne_directory rfl
  have kept : ∀ asked, files.entryAt asked = some .directory →
      (files.store location entry).entryAt asked = some .directory := by
    intro asked directory
    rw [entryAt_store_of_ne files ?_, directory]
    rintro rfl
    exact plain.ne_directory directory
  refine ⟨kept files.here tree.here, fun asked present => kept asked.dropLast ?_⟩
  by_cases stored : asked = location
  · subst stored
    exact inside
  · rw [entryAt_store_of_ne files stored] at present
    exact tree.parent asked present

end Trees

/-! ### Making the directory -/

section Making

theorem isDirectory_of_plain (located : files.locate path = .ok location)
    (plain : IsPlain (files.entryAt location)) : files.isDirectory path = .ok false := by
  unfold isDirectory status
  rw [goal_of_unlinked located plain.ne_link]
  dsimp only
  cases entry : files.entryAt location with
  | none => rfl
  | some found =>
      cases found with
      | directory => exact absurd entry plain.ne_directory
      | file content executable => rfl
      | link goal => rfl

theorem isDirectory_eq_error {fault : FileFault}
    (refused : files.isDirectory path = .error fault) : fault = .nameTooLong := by
  unfold isDirectory at refused
  cases found : files.status path with
  | ok entry =>
      rw [found] at refused
      simp only [bind, Except.bind] at refused
      split at refused
      · cases refused
      · cases refused
  | error wrong =>
      rw [found] at refused
      cases refused
      unfold status at found
      split at found
      · cases found
      · cases found
        rfl
      · cases found

/-- A directory is made at a place where nothing is, and elsewhere there must be one already. -/
theorem ensureDirectory_of_locate (located : files.locate path = .ok location) :
    files.ensureDirectory path =
      match files.entryAt location with
      | none => .ok (files.store location .directory)
      | some _ =>
          files.isDirectory path >>= fun isDirectory =>
            if isDirectory then .ok files else .error .alreadyExists := by
  unfold ensureDirectory makeDirectory
  rw [located]
  simp only [bind, Except.bind]
  cases files.entryAt location with
  | none => rfl
  | some entry => rfl

theorem ensureDirectory_of_error {fault : FileFault} (unlocated : files.locate path = .error fault) :
    files.ensureDirectory path = .error fault := by
  unfold ensureDirectory makeDirectory isDirectory status goal
  rw [unlocated]
  cases fault with
  | _ => rfl

variable {places : Location → Prop} {made otherMade : FileSystem}

theorem store_of_ensureDirectory (located : files.locate path = .ok location)
    (plain : IsPlain (files.entryAt location)) (success : files.ensureDirectory path = .ok made) :
    made = files.store location .directory := by
  rw [ensureDirectory_of_locate located, isDirectory_of_plain located plain] at success
  cases entry : files.entryAt location with
  | none =>
      rw [entry] at success
      cases success
      rfl
  | some found =>
      rw [entry] at success
      cases success

theorem AlikeBut.store (alike : AlikeBut places files other) (location : Location)
    (entry : Entry) : AlikeBut places (files.store location entry) (other.store location entry) := by
  refine ⟨alike.here, fun asked => ?_⟩
  by_cases stored : asked = location
  · subst stored
    by_cases root : asked = []
    · subst root
      exact Or.inl rfl
    · rw [entryAt_store_self other root, entryAt_store_self files root]
      exact Or.inl rfl
  · rw [entryAt_store_of_ne other stored, entryAt_store_of_ne files stored]
    exact alike.entries asked

theorem AlikeBut.ensureDirectory (alike : AlikeBut places files other)
    (success : files.ensureDirectory path = .ok made)
    (otherSuccess : other.ensureDirectory path = .ok otherMade) :
    AlikeBut places made otherMade := by
  cases located : files.locate path with
  | error fault =>
      rw [ensureDirectory_of_error located] at success
      cases success
  | ok location =>
      have otherLocated := alike.locate_iff.mpr located
      rcases alike.entries location with same | ⟨_, plain, otherPlain⟩
      · rw [ensureDirectory_of_locate located] at success
        rw [ensureDirectory_of_locate otherLocated, same] at otherSuccess
        cases entry : files.entryAt location with
        | none =>
            rw [entry] at success otherSuccess
            cases success
            cases otherSuccess
            exact alike.store location .directory
        | some found =>
            rw [entry] at success otherSuccess
            obtain ⟨_, _, success⟩ := except_bind_eq_ok_iff.mp success
            obtain ⟨_, _, otherSuccess⟩ := except_bind_eq_ok_iff.mp otherSuccess
            split at success
            · split at otherSuccess
              · cases success
                cases otherSuccess
                exact alike
              · cases otherSuccess
            · cases success
      · rw [store_of_ensureDirectory located plain success,
          store_of_ensureDirectory otherLocated otherPlain otherSuccess]
        exact alike.store location .directory

theorem located_of_ensureDirectory (success : files.ensureDirectory path = .ok made) :
    ∃ location, files.locate path = .ok location := by
  cases located : files.locate path with
  | error fault =>
      rw [ensureDirectory_of_error located] at success
      cases success
  | ok location => exact ⟨location, rfl⟩

theorem ensureDirectory_ne_notFound (located : files.locate path = .ok location) :
    files.ensureDirectory path ≠ .error .notFound := by
  rw [ensureDirectory_of_locate located]
  split
  · nofun
  · cases asked : files.isDirectory path with
    | error fault =>
        rw [isDirectory_eq_error asked]
        nofun
    | ok isDirectory =>
        cases isDirectory with
        | true => nofun
        | false => nofun

theorem settle_made {result : Except FileFault FileSystem}
    (made : (files.settle result).2 = none) :
    ∃ changed, result = .ok changed ∧ files.settle result = (changed, none) := by
  cases result with
  | error fault => cases made
  | ok changed => exact ⟨changed, rfl, rfl⟩

/-- Directories that can be made are made at once, or after those above them. -/
theorem ensureParts_made {root last : String} {before : List String}
    (made : (FileSystem.ensureParts root (last :: before) files).2 = none) :
    ∃ changed, FileSystem.ensureParts root (last :: before) files = (changed, none) ∧
      (files.ensureDirectory ⟨root, (last :: before).reverse⟩ = .ok changed ∨
        files.ensureDirectory ⟨root, (last :: before).reverse⟩ = .error .notFound ∧
        (FileSystem.ensureParts root before files).2 = none ∧
        (FileSystem.ensureParts root before files).1.ensureDirectory
          ⟨root, (last :: before).reverse⟩ = .ok changed) := by
  rw [ensureParts_cons] at made ⊢
  cases directly : files.ensureDirectory ⟨root, (last :: before).reverse⟩ with
  | ok changed => exact ⟨changed, rfl, Or.inl rfl⟩
  | error fault =>
      rw [directly] at made
      cases fault with
      | notFound =>
          cases above : FileSystem.ensureParts root before files with
          | mk parents refusal =>
              rw [above] at made
              cases refusal with
              | some fault => cases made
              | none =>
                  obtain ⟨changed, success, same⟩ := settle_made made
                  exact ⟨changed, same, Or.inr ⟨rfl, rfl, success⟩⟩
      | _ => cases made

/-- Where the directories can all be made in both of two file systems, they leave the same
difference. -/
theorem AlikeBut.ensureParts (alike : AlikeBut places files other) (root : String)
    (parts : List String) (made : (FileSystem.ensureParts root parts files).2 = none)
    (otherMade : (FileSystem.ensureParts root parts other).2 = none) :
    AlikeBut places (FileSystem.ensureParts root parts files).1
      (FileSystem.ensureParts root parts other).1 := by
  induction parts generalizing files other with
  | nil =>
      obtain ⟨changed, success, same⟩ := settle_made made
      obtain ⟨otherChanged, otherSuccess, otherSame⟩ := settle_made otherMade
      unfold FileSystem.ensureParts
      rw [same, otherSame]
      exact alike.ensureDirectory success otherSuccess
  | cons last before ih =>
      obtain ⟨changed, same, way⟩ := ensureParts_made made
      obtain ⟨otherChanged, otherSame, otherWay⟩ := ensureParts_made otherMade
      rw [same, otherSame]
      -- a place for the directory in one of the two is a place for it in the other
      rcases way with directly | ⟨missing, above, after⟩
      · rcases otherWay with otherDirectly | ⟨otherMissing, _, _⟩
        · exact alike.ensureDirectory directly otherDirectly
        · obtain ⟨location, located⟩ := located_of_ensureDirectory directly
          exact absurd otherMissing (ensureDirectory_ne_notFound (alike.locate_iff.mpr located))
      · rcases otherWay with otherDirectly | ⟨_, otherAbove, otherAfter⟩
        · obtain ⟨location, located⟩ := located_of_ensureDirectory otherDirectly
          exact absurd missing (ensureDirectory_ne_notFound (alike.locate_iff.mp located))
        · exact (ih alike above otherAbove).ensureDirectory after otherAfter

theorem AlikeBut.ensureDirectories (alike : AlikeBut places files other) (path : Path)
    (made : (files.ensureDirectories path).2 = none)
    (otherMade : (other.ensureDirectories path).2 = none) :
    AlikeBut places (files.ensureDirectories path).1 (other.ensureDirectories path).1 :=
  alike.ensureParts path.root path.parts.reverse made otherMade

end Making

/-! ### Writing and removing -/

section Plain

theorem write_of_plain (reached : files.goal path = .ok location)
    (plain : IsPlain (files.entryAt location))
    (inside : files.entryAt location.dropLast = some .directory) (content : ByteArray) :
    files.write path content =
      .ok (files.store location (.file content (isExecutable (files.entryAt location)))) := by
  unfold write
  rw [reached]
  simp only [bind, Except.bind]
  cases entry : files.entryAt location with
  | none =>
      simp only [inside]
      rfl
  | some found =>
      cases found with
      | directory => exact absurd entry plain.ne_directory
      | file old executable => rfl
      | link goal => exact absurd entry (plain.ne_link goal)

theorem write_of_directory (reached : files.goal path = .ok location)
    (directory : files.entryAt location = some .directory) (content : ByteArray) :
    files.write path content = .error .isDirectory := by
  unfold write
  rw [reached]
  simp only [bind, Except.bind, directory]
  rfl

theorem removeIfPresent_of_plain (located : files.locate path = .ok location)
    (plain : IsPlain (files.entryAt location)) :
    ∃ after, files.removeIfPresent path = .ok after ∧ after.here = files.here ∧
      after.entryAt location = none ∧
      ∀ asked, asked ≠ location → after.entryAt asked = files.entryAt asked := by
  unfold removeIfPresent remove
  rw [located]
  simp only [bind, Except.bind]
  cases entry : files.entryAt location with
  | none => exact ⟨files, rfl, rfl, entry, fun _ _ => rfl⟩
  | some found =>
      have below : location ≠ [] := by
        rintro rfl
        exact plain.ne_directory rfl
      have erased : ∀ asked, asked ≠ location →
          (files.erase location).entryAt asked = files.entryAt asked :=
        fun asked elsewhere => entryAt_erase_of_ne elsewhere
      cases found with
      | directory => exact absurd entry plain.ne_directory
      | file content executable =>
          exact ⟨files.erase location, rfl, rfl, entryAt_erase_self below, erased⟩
      | link goal => exact absurd entry (plain.ne_link goal)

theorem removeIfPresent_of_directory (located : files.locate path = .ok location)
    (directory : files.entryAt location = some .directory) :
    files.removeIfPresent path = .error .isDirectory := by
  unfold removeIfPresent remove
  rw [located]
  simp only [bind, Except.bind, directory]
  rfl

end Plain

/-! ### The difference that leftovers make -/

section Difference

/-- The place of the model file, where no link stands and a file can be made. -/
structure IsGround (base : FileSystem) (modelPath : Path) (place : Location) : Prop where
  located : base.locate modelPath = .ok place
  unlinked : ∀ goal, base.entryAt place ≠ some (.link goal)
  inside : base.IsInside place

/-- Two file systems differ from one only in files at the places of the model and the results. -/
structure Strays (base : FileSystem) (outputPath : Path) (place : Location)
    (files other : FileSystem) : Prop where
  first : AlikeBut (fun spot => spot = place ∨ base.locate outputPath = .ok spot) base files
  second : AlikeBut (fun spot => spot = place ∨ base.locate outputPath = .ok spot) base other

/-- They do not differ from each other in the model file. -/
structure Settled (base : FileSystem) (outputPath : Path) (place : Location)
    (files other : FileSystem) : Prop extends Strays base outputPath place files other where
  model : other.entryAt place = files.entryAt place

variable {places : Location → Prop}

/-- Where a file is allowed to differ, it may be written. -/
theorem AlikeBut.storeFile (alike : AlikeBut places base files) (allowed : places place)
    (plain : IsPlain (base.entryAt place)) (executable : Bool) :
    AlikeBut places base (files.store place (.file content executable)) := by
  refine ⟨alike.here, fun asked => ?_⟩
  by_cases stored : asked = place
  · subst stored
    have below : asked ≠ [] := by
      rintro rfl
      exact plain.ne_directory rfl
    rw [entryAt_store_self files below]
    exact Or.inr ⟨allowed, plain, trivial⟩
  · rw [entryAt_store_of_ne files stored]
    exact alike.entries asked

/-- Where a file is allowed to differ, it may be taken away. -/
theorem AlikeBut.withoutFile (alike : AlikeBut places base files) (allowed : places place)
    (plain : IsPlain (base.entryAt place)) (here : after.here = files.here)
    (missing : after.entryAt place = none)
    (elsewhere : ∀ asked, asked ≠ place → after.entryAt asked = files.entryAt asked) :
    AlikeBut places base after := by
  refine ⟨here.trans alike.here, fun asked => ?_⟩
  by_cases erased : asked = place
  · subst erased
    rw [missing]
    exact Or.inr ⟨allowed, plain, trivial⟩
  · rw [elsewhere asked erased]
    exact alike.entries asked

theorem AlikeBut.entry_of_directory (alike : AlikeBut places base files)
    (directory : base.entryAt place = some .directory) :
    files.entryAt place = some .directory := by
  rcases alike.entries place with same | ⟨_, plain, _⟩
  · exact same.trans directory
  · exact absurd directory plain.ne_directory

variable (ground : base.IsGround modelPath place)
include ground

theorem IsGround.goal_of_alike (alike : AlikeBut places base files) :
    files.goal modelPath = .ok place := by
  apply goal_of_unlinked (alike.locate_iff.mpr ground.located)
  rcases alike.opens.entries place with same | ⟨_, unlinked⟩
  · rw [same]
    exact ground.unlinked
  · exact unlinked

theorem IsGround.inside_of_alike (alike : AlikeBut places base files)
    (plain : IsPlain (base.entryAt place)) :
    files.entryAt place.dropLast = some .directory := by
  have directory := ground.inside plain.ne_directory
  rcases alike.entries place.dropLast with same | ⟨_, plainAbove, _⟩
  · exact same.trans directory
  · exact absurd directory plainAbove.ne_directory

theorem IsGround.entry_cases :
    IsPlain (base.entryAt place) ∨ base.entryAt place = some .directory := by
  by_cases directory : base.entryAt place = some .directory
  · exact Or.inr directory
  · exact Or.inl (isPlain_iff.mpr ⟨directory, ground.unlinked⟩)

/-- Writing the model makes its file the same, if it has one mode in both. -/
theorem IsGround.write (strays : Strays base outputPath place files other)
    (mode : isExecutable (other.entryAt place) = isExecutable (files.entryAt place))
    (content : ByteArray) :
    Agree (Settled base outputPath place) (files.write modelPath content)
      (other.write modelPath content) := by
  have reached := ground.goal_of_alike strays.first
  have otherReached := ground.goal_of_alike strays.second
  rcases ground.entry_cases with plain | directory
  · rw [write_of_plain reached (strays.first.isPlain_iff.mpr plain)
        (ground.inside_of_alike strays.first plain),
      write_of_plain otherReached (strays.second.isPlain_iff.mpr plain)
        (ground.inside_of_alike strays.second plain), mode]
    have below : place ≠ [] := by
      rintro rfl
      exact plain.ne_directory rfl
    refine ⟨⟨strays.first.storeFile (Or.inl rfl) plain _,
      strays.second.storeFile (Or.inl rfl) plain _⟩, ?_⟩
    rw [entryAt_store_self files below, entryAt_store_self other below]
  · rw [write_of_directory reached (strays.first.entry_of_directory directory),
      write_of_directory otherReached (strays.second.entry_of_directory directory)]
    rfl

/-- Removing the model makes its file the same as well, as far as it can be removed. -/
theorem IsGround.removeModel (strays : Strays base outputPath place files other) :
    Settled base outputPath place (files.settle (files.removeIfPresent modelPath)).1
      (other.settle (other.removeIfPresent modelPath)).1 := by
  have located := strays.first.locate_iff.mpr ground.located
  have otherLocated := strays.second.locate_iff.mpr ground.located
  rcases ground.entry_cases with plain | directory
  · obtain ⟨after, removed, here, missing, elsewhere⟩ :=
      removeIfPresent_of_plain located (strays.first.isPlain_iff.mpr plain)
    obtain ⟨otherAfter, otherRemoved, otherHere, otherMissing, otherElsewhere⟩ :=
      removeIfPresent_of_plain otherLocated (strays.second.isPlain_iff.mpr plain)
    rw [removed, otherRemoved]
    exact ⟨⟨strays.first.withoutFile (Or.inl rfl) plain here missing elsewhere,
      strays.second.withoutFile (Or.inl rfl) plain otherHere otherMissing otherElsewhere⟩,
      otherMissing.trans missing.symm⟩
  · have stands := strays.first.entry_of_directory directory
    have otherStands := strays.second.entry_of_directory directory
    rw [removeIfPresent_of_directory located stands,
      removeIfPresent_of_directory otherLocated otherStands]
    exact ⟨strays, otherStands.trans stands.symm⟩

omit ground in
/-- Once the model is the same, only a file at the place of the results can differ. -/
theorem Settled.cases (settled : Settled base outputPath place files other) :
    Same files other ∨
      ∃ spot, files.locate outputPath = .ok spot ∧ other.locate outputPath = .ok spot ∧
        IsPlain (files.entryAt spot) ∧ IsPlain (other.entryAt spot) ∧
        ∀ asked, asked ≠ spot → other.entryAt asked = files.entryAt asked := by
  have here : other.here = files.here := settled.second.here.trans settled.first.here.symm
  have agree : ∀ asked, base.locate outputPath ≠ .ok asked →
      other.entryAt asked = files.entryAt asked := by
    intro asked elsewhere
    by_cases atModel : asked = place
    · subst atModel
      exact settled.model
    · have unlisted : ¬(asked = place ∨ base.locate outputPath = .ok asked) :=
        fun listed => listed.elim atModel elsewhere
      rw [settled.first.untouched.entries asked unlisted,
        settled.second.untouched.entries asked unlisted]
  cases located : base.locate outputPath with
  | error fault => exact Or.inl ⟨here, fun asked => agree asked (by rw [located]; nofun)⟩
  | ok spot =>
      have elsewhere : ∀ asked, asked ≠ spot → other.entryAt asked = files.entryAt asked := by
        intro asked different
        refine agree asked fun same => different ?_
        rw [located] at same
        exact (Except.ok.inj same).symm
      by_cases plain : IsPlain (base.entryAt spot)
      · exact Or.inr ⟨spot, settled.first.locate_iff.mpr located,
          settled.second.locate_iff.mpr located, settled.first.isPlain_iff.mpr plain,
          settled.second.isPlain_iff.mpr plain, elsewhere⟩
      · refine Or.inl ⟨here, fun asked => ?_⟩
        by_cases atSpot : asked = spot
        · subst atSpot
          rcases settled.first.entries asked with same | ⟨_, standing, _⟩
          · rcases settled.second.entries asked with otherSame | ⟨_, standing, _⟩
            · exact otherSame.trans same.symm
            · exact absurd standing plain
          · exact absurd standing plain
        · exact elsewhere asked atSpot

omit ground in
/-- Removing the results takes the last difference away. -/
theorem Settled.removeResults (settled : Settled base outputPath place files other) :
    Agree Same (files.removeIfPresent outputPath) (other.removeIfPresent outputPath) ∧
      Same (files.settle (files.removeIfPresent outputPath)).1
        (other.settle (other.removeIfPresent outputPath)).1 := by
  rcases settled.cases with same | ⟨spot, located, otherLocated, plain, otherPlain, elsewhere⟩
  · have removed := same.removeIfPresent outputPath
    exact ⟨removed, (same.settle removed).1⟩
  · obtain ⟨after, removed, here, missing, kept⟩ := removeIfPresent_of_plain located plain
    obtain ⟨otherAfter, otherRemoved, otherHere, otherMissing, otherKept⟩ :=
      removeIfPresent_of_plain otherLocated otherPlain
    have same : Same after otherAfter := by
      refine ⟨?_, fun asked => ?_⟩
      · rw [here, otherHere]
        exact settled.second.here.trans settled.first.here.symm
      · by_cases atSpot : asked = spot
        · subst atSpot
          exact otherMissing.trans missing.symm
        · rw [kept asked atSpot, otherKept asked atSpot]
          exact elsewhere asked atSpot
    rw [removed, otherRemoved]
    exact ⟨same, same⟩

end Difference

/-! ### Leftovers of an earlier run -/

section Leftovers

/-- The second file system differs from the first in files at the places of the model and the
results only. No link stands at the place of the model, and the model file has one mode in both,
where a file that is not there counts as one that cannot be run. -/
structure Leftovers (modelPath outputPath : Path) (first second : FileSystem) : Prop where
  alike : AlikeBut (first.Led [modelPath, outputPath]) first second
  unlinked : ∀ place, first.locate modelPath = .ok place →
    ∀ goal, first.entryAt place ≠ some (.link goal)
  mode : ∀ place, first.locate modelPath = .ok place →
    isExecutable (second.entryAt place) = isExecutable (first.entryAt place)

theorem Grown.opens (grown : Grown files other) : Opens files other := by
  refine ⟨grown.here, fun location => ?_⟩
  rcases grown.entries location with same | ⟨missing, made⟩
  · exact Or.inl same
  · rw [missing, made]
    exact Or.inr ⟨trivial, nofun⟩

theorem Grown.isExecutable_eq (grown : Grown files other) (location : Location) :
    isExecutable (other.entryAt location) = isExecutable (files.entryAt location) := by
  rcases grown.entries location with same | ⟨missing, made⟩
  · rw [same]
  · rw [missing, made]
    rfl

theorem Grown.inside (grown : Grown files other) (inside : files.IsInside location) :
    other.IsInside location := by
  intro notDirectory
  have before : files.entryAt location ≠ some .directory := by
    intro directory
    rcases grown.entries location with same | ⟨missing, _⟩
    · exact notDirectory (same.trans directory)
    · rw [missing] at directory
      cases directory
  rcases grown.entries location.dropLast with same | ⟨_, made⟩
  · exact same.trans (inside before)
  · exact made

/-- Where the model and the results can be told apart at all, the model has a place. -/
theorem Leftovers.same_or_located (leftovers : Leftovers modelPath outputPath files other)
    (beside : modelPath.Beside outputPath) :
    Same files other ∨ ∃ place, files.locate modelPath = .ok place := by
  by_cases same : ∀ location, other.entryAt location = files.entryAt location
  · exact Or.inl ⟨leftovers.alike.here, same⟩
  · obtain ⟨location, different⟩ := Classical.not_forall.mp same
    refine Or.inr ?_
    rcases leftovers.alike.entries location with equal | ⟨⟨path, member, located⟩, _, _⟩
    · exact absurd equal different
    · rcases List.mem_cons.mp member with rfl | later
      · exact ⟨location, located⟩
      · cases List.mem_singleton.mp later
        exact located_beside beside located

/-- In a directory that could be made the leftovers are the only difference still. -/
theorem Leftovers.strays {work : Path} (leftovers : Leftovers modelPath outputPath files other)
    (tree : files.IsTree) (located : files.locate modelPath = .ok place)
    (made : (files.ensureDirectories work).2 = none)
    (otherMade : (other.ensureDirectories work).2 = none) :
    (files.ensureDirectories work).1.IsGround modelPath place ∧
      Strays (files.ensureDirectories work).1 outputPath place
        (files.ensureDirectories work).1 (other.ensureDirectories work).1 ∧
      isExecutable ((other.ensureDirectories work).1.entryAt place) =
        isExecutable ((files.ensureDirectories work).1.entryAt place) := by
  have grown := grown_ensureDirectories files work
  have alike := leftovers.alike.ensureDirectories work made otherMade
  refine ⟨⟨grown.opens.locate located, ?_, grown.inside (tree.inside_of_locate located)⟩,
    ⟨AlikeBut.refl _, ⟨alike.here, fun spot => ?_⟩⟩, ?_⟩
  · intro goal linked
    rcases grown.entries place with same | ⟨_, directory⟩
    · exact leftovers.unlinked place located goal (same.symm.trans linked)
    · rw [directory] at linked
      cases linked
  · rcases alike.entries spot with same | ⟨⟨path, member, there⟩, plain, otherPlain⟩
    · exact Or.inl same
    · refine Or.inr ⟨?_, plain, otherPlain⟩
      rcases List.mem_cons.mp member with rfl | later
      · rw [located] at there
        exact Or.inl (Except.ok.inj there).symm
      · cases List.mem_singleton.mp later
        exact Or.inr (grown.opens.locate there)
  · rw [grown.isExecutable_eq, (grown_ensureDirectories other work).isExecutable_eq]
    exact leftovers.mode place located

end Leftovers

end HingeField.FileSystem
