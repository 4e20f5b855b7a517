import HingeField.Solver.FileSystem

/-!
Where paths lead. A path is followed through directories and links, and it ends
as soon as it comes to a file or to nothing. Main statements: file systems that
differ only in files lead every path to the same place; file systems with the
same entries follow every path alike, refusals included; and an entry that is
removed can only cut a path off.
-/

namespace HingeField

section Results

variable {ε α β : Type}

theorem except_bind_eq_ok_iff {first : Except ε α} {next : α → Except ε β} {result : β} :
    (first >>= next) = .ok result ↔ ∃ value, first = .ok value ∧ next value = .ok result := by
  cases first with
  | error fault =>
      constructor
      · intro impossible
        cases impossible
      · rintro ⟨_, impossible, _⟩
        cases impossible
  | ok value =>
      constructor
      · intro success
        exact ⟨value, rfl, success⟩
      · rintro ⟨_, same, success⟩
        cases same
        exact success

theorem foldlM_ok_of_step {step other : β → α → Except ε β}
    (each : ∀ state item result, step state item = .ok result → other state item = .ok result)
    {items : List α} {start finish : β} (success : items.foldlM step start = .ok finish) :
    items.foldlM other start = .ok finish := by
  induction items generalizing start with
  | nil => exact success
  | cons item items ih =>
      rw [List.foldlM_cons] at success ⊢
      obtain ⟨middle, head, tail⟩ := except_bind_eq_ok_iff.mp success
      exact except_bind_eq_ok_iff.mpr ⟨middle, each start item middle head, ih tail⟩

end Results

namespace FileSystem

variable {files other : FileSystem} {location asked : Location} {path : Path}

/-- What ends every path: a file, or nothing. -/
def IsPlain : Option Entry → Prop
  | none => True
  | some (.file _ _) => True
  | some _ => False

theorem IsPlain.ne_directory {entry : Option Entry} (plain : IsPlain entry) :
    entry ≠ some .directory := by
  rintro rfl
  exact plain

theorem IsPlain.ne_link {entry : Option Entry} (plain : IsPlain entry) (goal : Path) :
    entry ≠ some (.link goal) := by
  rintro rfl
  exact plain

theorem isPlain_iff {entry : Option Entry} :
    IsPlain entry ↔ entry ≠ some .directory ∧ ∀ goal, entry ≠ some (.link goal) := by
  constructor
  · intro plain
    exact ⟨plain.ne_directory, plain.ne_link⟩
  · rintro ⟨notDirectory, notLink⟩
    match entry with
    | none => trivial
    | some (.file _ _) => trivial
    | some .directory => exact absurd rfl notDirectory
    | some (.link goal) => exact absurd rfl (notLink goal)

theorem step_eq_ok_iff {name : String} {next : Location} :
    files.step location name = .ok next ↔
      files.entryAt location = some .directory ∧ name.utf8ByteSize ≤ maximalNameSize ∧
        next = if name = ".." then location.dropLast else location ++ [name] := by
  unfold step
  split
  · rename_i directory
    rw [directory]
    split
    · simp
      omega
    · simp [eq_comm]
      omega
  · rename_i notDirectory present
    simp only [present, Option.some.injEq]
    exact iff_of_false nofun fun success => notDirectory success.1
  · rename_i missing
    simp [missing]

theorem locate_eq_ok_iff :
    files.locate path = .ok location ↔
      (path.text.contains '\x00' = false ∧ path.text.utf8ByteSize ≤ maximalPathSize) ∧
        path.parts.foldlM files.enter (if path.isAbsolute then [] else files.here) =
          .ok location := by
  unfold locate
  by_cases null : path.text.contains '\x00' = true
  · simp only [null, if_true]
    exact iff_of_false nofun fun located => nomatch located.1.1
  · by_cases long : maximalPathSize < path.text.utf8ByteSize
    · simp only [null, long, if_true]
      exact iff_of_false nofun fun located => absurd located.1.2 (by omega)
    · simp only [null, long, if_false]
      exact ⟨fun located => ⟨⟨by simp, by omega⟩, located⟩, fun both => both.2⟩

/-- The goal of a place that no link stands at is the place. -/
theorem follow_of_unlinked (unlinked : ∀ goal, files.entryAt location ≠ some (.link goal)) :
    files.follow location = .ok location := by
  unfold follow maximalLinks goalOf
  split
  · rename_i goal linked
    exact absurd linked (unlinked goal)
  · rfl

section Opening

/-- Whatever leads on in the first file system leads on to the same place in the other. -/
structure Opens (files other : FileSystem) : Prop where
  here : other.here = files.here
  entries : ∀ location, other.entryAt location = files.entryAt location ∨
    IsPlain (files.entryAt location) ∧ ∀ goal, other.entryAt location ≠ some (.link goal)

namespace Opens

theorem step (opens : Opens files other) {name : String} {next : Location}
    (success : files.step location name = .ok next) : other.step location name = .ok next := by
  obtain ⟨directory, rest⟩ := step_eq_ok_iff.mp success
  rcases opens.entries location with same | ⟨plain, _⟩
  · exact step_eq_ok_iff.mpr ⟨same.trans directory, rest⟩
  · exact absurd directory plain.ne_directory

theorem goalOf (opens : Opens files other) {links : Nat} {goal : Location}
    (success : files.goalOf links location = .ok goal) :
    other.goalOf links location = .ok goal := by
  induction links generalizing location goal with
  | zero => cases success
  | succ links ih =>
      unfold FileSystem.goalOf at success ⊢
      rcases opens.entries location with same | ⟨plain, unlinked⟩
      · rw [same]
        split
        · rename_i path linked
          simp only [linked] at success
          obtain ⟨middle, way, rest⟩ := except_bind_eq_ok_iff.mp success
          refine except_bind_eq_ok_iff.mpr ⟨middle, ?_, ih rest⟩
          refine foldlM_ok_of_step ?_ way
          intro state name next entered
          obtain ⟨behind, followed, stepped⟩ := except_bind_eq_ok_iff.mp entered
          exact except_bind_eq_ok_iff.mpr ⟨behind, ih followed, opens.step stepped⟩
        · rename_i unlinked
          split at success
          · rename_i path linked
            exact absurd linked (unlinked path)
          · exact success
      · split
        · rename_i path linked
          exact absurd linked (unlinked path)
        · split at success
          · rename_i path linked
            exact absurd linked (plain.ne_link path)
          · exact success

theorem locate (opens : Opens files other) (success : files.locate path = .ok location) :
    other.locate path = .ok location := by
  obtain ⟨valid, way⟩ := locate_eq_ok_iff.mp success
  rw [← opens.here] at way
  refine locate_eq_ok_iff.mpr ⟨valid, foldlM_ok_of_step ?_ way⟩
  intro state name next entered
  obtain ⟨behind, followed, stepped⟩ := except_bind_eq_ok_iff.mp entered
  exact except_bind_eq_ok_iff.mpr ⟨behind, opens.goalOf followed, opens.step stepped⟩

end Opens

end Opening

/-! ### File systems that differ in files only -/

/-- The entries of two file systems are the same, but for files at some of the given places. -/
structure AlikeBut (places : Location → Prop) (files other : FileSystem) : Prop where
  here : other.here = files.here
  entries : ∀ location, other.entryAt location = files.entryAt location ∨
    places location ∧ IsPlain (files.entryAt location) ∧ IsPlain (other.entryAt location)

namespace AlikeBut

variable {places : Location → Prop}

theorem refl (files : FileSystem) : AlikeBut places files files :=
  ⟨rfl, fun _ => Or.inl rfl⟩

theorem symm (alike : AlikeBut places files other) : AlikeBut places other files := by
  refine ⟨alike.here.symm, fun location => ?_⟩
  rcases alike.entries location with same | ⟨listed, plain, plainOther⟩
  · exact Or.inl same.symm
  · exact Or.inr ⟨listed, plainOther, plain⟩

theorem opens (alike : AlikeBut places files other) : Opens files other := by
  refine ⟨alike.here, fun location => ?_⟩
  rcases alike.entries location with same | ⟨_, plain, plainOther⟩
  · exact Or.inl same
  · exact Or.inr ⟨plain, plainOther.ne_link⟩

theorem locate_iff (alike : AlikeBut places files other) :
    other.locate path = .ok location ↔ files.locate path = .ok location :=
  ⟨alike.symm.opens.locate, alike.opens.locate⟩

theorem isPlain_iff (alike : AlikeBut places files other) :
    IsPlain (other.entryAt location) ↔ IsPlain (files.entryAt location) := by
  rcases alike.entries location with same | ⟨_, plain, plainOther⟩
  · rw [same]
  · exact iff_of_true plainOther plain

end AlikeBut

/-! ### Erasing -/

section Erasing

theorem entryAt_erase_self (below : location ≠ []) :
    (files.erase location).entryAt location = none := by
  unfold entryAt erase
  rw [if_neg (by simpa using below), List.lookup_eq_none_iff]
  intro entry member
  have kept := (List.mem_filter.mp member).2
  rw [bne_iff_ne] at kept ⊢
  exact kept.symm

theorem entryAt_erase_of_ne (different : asked ≠ location) :
    (files.erase location).entryAt asked = files.entryAt asked := by
  unfold entryAt erase
  split
  · rfl
  · induction files.entries with
    | nil => rfl
    | cons entry rest ih =>
        obtain ⟨place, stored⟩ := entry
        by_cases erased : place = location
        · subst erased
          simp [List.lookup_cons, beq_false_of_ne different, ih]
        · simp [List.lookup_cons, erased, ih]

/-- Erasing takes an entry away or changes nothing. -/
theorem entryAt_erase (files : FileSystem) (location asked : Location) :
    (files.erase location).entryAt asked = files.entryAt asked ∨
      asked = location ∧ (files.erase location).entryAt asked = none := by
  by_cases same : asked = location
  · subst same
    by_cases root : asked = []
    · subst root
      exact Or.inl rfl
    · exact Or.inr ⟨rfl, entryAt_erase_self root⟩
  · exact Or.inl (entryAt_erase_of_ne same)

theorem step_erase (files : FileSystem) (erased location : Location) (name : String) :
    (files.erase erased).step location name = files.step location name ∨
      (files.erase erased).step location name = .error .notFound := by
  unfold step
  rcases entryAt_erase files erased location with same | ⟨_, missing⟩
  · rw [same]
    exact Or.inl rfl
  · rw [missing]
    exact Or.inr rfl

private theorem foldlM_or_notFound {α β : Type} {step other : β → α → Except FileFault β}
    (each : ∀ state item, other state item = step state item ∨
      other state item = .error .notFound) (items : List α) (start : β) :
    items.foldlM other start = items.foldlM step start ∨
      items.foldlM other start = .error .notFound := by
  induction items generalizing start with
  | nil => exact Or.inl rfl
  | cons item items ih =>
      rw [List.foldlM_cons, List.foldlM_cons]
      rcases each start item with same | missing
      · rw [same]
        cases step start item with
        | error fault => exact Or.inl rfl
        | ok middle => exact ih middle
      · rw [missing]
        exact Or.inr rfl

/-- A step behind links, when the links may now end where an entry was erased. -/
private theorem enter_erase {erased : Location} (name : String)
    {goal goalErased : Except FileFault Location}
    (followed : goalErased = goal ∨ goalErased = .error .notFound ∨
      ∃ dead, goalErased = .ok dead ∧ (files.erase erased).entryAt dead = none) :
    (goalErased >>= fun behind => (files.erase erased).step behind name) =
        (goal >>= fun behind => files.step behind name) ∨
      (goalErased >>= fun behind => (files.erase erased).step behind name) =
        .error .notFound := by
  rcases followed with rfl | rfl | ⟨dead, rfl, missing⟩
  · cases goalErased with
    | error fault => exact Or.inl rfl
    | ok behind => exact step_erase files erased behind name
  · exact Or.inr rfl
  · refine Or.inr ?_
    change (files.erase erased).step dead name = _
    unfold step
    rw [missing]

/-- Behind an erased entry links end where it was. -/
theorem goalOf_erase (files : FileSystem) (erased : Location) (links : Nat)
    (location : Location) :
    (files.erase erased).goalOf links location = files.goalOf links location ∨
      (files.erase erased).goalOf links location = .error .notFound ∨
        ∃ dead, (files.erase erased).goalOf links location = .ok dead ∧
          (files.erase erased).entryAt dead = none := by
  induction links generalizing location with
  | zero => exact Or.inl rfl
  | succ links ih =>
      unfold goalOf
      rcases entryAt_erase files erased location with same | ⟨_, missing⟩
      · rw [same]
        split
        · rename_i path linked
          have ways := foldlM_or_notFound (fun state name =>
            enter_erase name (ih state)) path.parts
              (if path.isAbsolute then [] else location.dropLast)
          rcases ways with sameWay | cut
          · simp only [sameWay]
            cases path.parts.foldlM (fun location name => do
                files.step (← files.goalOf links location) name)
                (if path.isAbsolute then [] else location.dropLast) with
            | error fault => exact Or.inl rfl
            | ok goal => exact ih goal
          · simp only [cut]
            exact Or.inr (Or.inl rfl)
        · exact Or.inl rfl
      · refine Or.inr (Or.inr ⟨location, ?_, missing⟩)
        rw [missing]

/-- An entry that is erased can only cut a path off. -/
theorem locate_erase (files : FileSystem) (erased : Location) (path : Path) :
    (files.erase erased).locate path = files.locate path ∨
      (files.erase erased).locate path = .error .notFound := by
  unfold locate
  split
  · exact Or.inl rfl
  · split
    · exact Or.inl rfl
    · apply foldlM_or_notFound
      intro state name
      exact enter_erase name (goalOf_erase files erased maximalLinks state)

end Erasing

/-! ### Removing -/

section Removing

/-- Nothing is at the place a path leads to, not even a link, if it leads to a place. -/
def Absent (files : FileSystem) (path : Path) : Prop :=
  ∀ location, files.locate path = .ok location → files.entryAt location = none

theorem Absent.erase (absent : files.Absent path) (erased : Location) :
    (files.erase erased).Absent path := by
  intro location located
  have before : files.locate path = .ok location := by
    rcases locate_erase files erased path with same | cut
    · exact same.symm.trans located
    · rw [cut] at located
      cases located
  rcases entryAt_erase files erased location with same | ⟨_, missing⟩
  · exact same.trans (absent location before)
  · exact missing

theorem absent_erase_of_locate (located : files.locate path = .ok location)
    (below : location ≠ []) : (files.erase location).Absent path := by
  intro place found
  rcases locate_erase files location path with same | cut
  · rw [same, located] at found
    cases found
    exact entryAt_erase_self below
  · rw [cut] at found
    cases found

/-- Removing erases what a path leads to, if it leads to something. -/
theorem removeIfPresent_of_located {location : Location} (located : files.locate path = .ok location) :
    files.removeIfPresent path =
      match (match files.entryAt location with
        | some .directory => Except.error FileFault.isDirectory
        | some _ => Except.ok (files.erase location)
        | none => Except.error FileFault.notFound) with
      | .error .notFound => .ok files
      | result => result := by
  unfold removeIfPresent remove
  rw [located]
  rfl

theorem removeIfPresent_eq_ok {after : FileSystem}
    (success : files.removeIfPresent path = .ok after) :
    after.Absent path ∧
      (after = files ∨ ∃ location, files.locate path = .ok location ∧
        files.entryAt location ≠ some .directory ∧ after = files.erase location) := by
  cases located : files.locate path with
  | error fault =>
      unfold removeIfPresent remove at success
      rw [located] at success
      have same : after = files := by
        cases fault <;> cases success
        rfl
      subst same
      refine ⟨?_, Or.inl rfl⟩
      intro location found
      rw [located] at found
      cases found
  | ok location =>
      rw [removeIfPresent_of_located located] at success
      cases present : files.entryAt location with
      | none =>
          rw [present] at success
          cases success
          refine ⟨?_, Or.inl rfl⟩
          intro place found
          rw [located] at found
          cases found
          exact present
      | some entry =>
          have standing : entry ≠ .directory := by
            rintro rfl
            rw [present] at success
            cases success
          have below : location ≠ [] := by
            rintro rfl
            cases present
            exact standing rfl
          have erased : after = files.erase location := by
            rw [present] at success
            cases entry <;> cases success <;> rfl
          subst erased
          refine ⟨absent_erase_of_locate located below, Or.inr ⟨location, rfl, ?_, rfl⟩⟩
          rw [present]
          exact fun same => standing (Option.some.inj same)

end Removing

/-- A directory is made after those above it, if it cannot be made at once. -/
theorem ensureParts_cons (root last : String) (before : List String) (files : FileSystem) :
    ensureParts root (last :: before) files =
      match files.ensureDirectory ⟨root, (last :: before).reverse⟩ with
      | .error .notFound =>
          match ensureParts root before files with
          | (above, none) =>
              above.settle (above.ensureDirectory ⟨root, (last :: before).reverse⟩)
          | refused => refused
      | result => files.settle result :=
  rfl

end FileSystem

end HingeField
