import HingeField.Proofs.Removal
import HingeField.Proofs.Ways
import HingeField.Solver.Config

/-!
The results file is named after the model file. Main statements: the two paths
go through the same directories, so that wherever the path of the results leads
to a place, the path of the model does so too; and a null is in the one exactly
if it is in the other.
-/

namespace HingeField

namespace Text

variable {isBreak : Char → Bool}

theorem pieces_of_unbroken {text : List Char} (unbroken : ∀ c ∈ text, isBreak c = false) :
    pieces isBreak text = [text] := by
  induction text with
  | nil => rfl
  | cons c rest ih =>
      have later := ih fun other member => unbroken other (List.mem_cons_of_mem c member)
      unfold pieces at later ⊢
      rw [List.foldr_cons, later, unbroken c List.mem_cons_self]
      rfl

/-- A text without breaks goes on with the last piece of the text before it. -/
theorem pieces_append {suffix : List Char} (unbroken : ∀ c ∈ suffix, isBreak c = false)
    (text : List Char) :
    ∃ before last, pieces isBreak text = before ++ [last] ∧
      pieces isBreak (text ++ suffix) = before ++ [last ++ suffix] := by
  induction text with
  | nil => exact ⟨[], [], rfl, pieces_of_unbroken unbroken⟩
  | cons c text ih =>
      obtain ⟨before, last, alone, extended⟩ := ih
      unfold pieces at alone extended ⊢
      rw [List.cons_append, List.foldr_cons, List.foldr_cons, alone, extended]
      cases isBreak c with
      | true => exact ⟨[] :: before, last, rfl, rfl⟩
      | false =>
          cases before with
          | nil => exact ⟨[], c :: last, rfl, rfl⟩
          | cons piece before => exact ⟨(c :: piece) :: before, last, rfl, rfl⟩

/-- Cutting a text loses nothing but the breaks. -/
theorem mem_pieces_iff (isBreak : Char → Bool) {c : Char} (unbroken : isBreak c = false)
    (text : List Char) : (∃ piece ∈ pieces isBreak text, c ∈ piece) ↔ c ∈ text := by
  induction text with
  | nil => simp [pieces]
  | cons first text ih =>
      unfold pieces at ih ⊢
      rw [List.foldr_cons, List.mem_cons, ← ih]
      cases breaks : isBreak first with
      | true =>
          have different : c ≠ first := by
            rintro rfl
            rw [unbroken] at breaks
            cases breaks
          simp [different]
      | false =>
          cases List.foldr _ [[]] text with
          | nil => simp
          | cons piece later => simp [or_assoc]

end Text

namespace Path

/-- A path stands beside another one if it differs from it in its last name only, which is longer;
the other path may lack its last name. -/
def Beside (path other : Path) : Prop :=
  other.root = path.root ∧ ∃ before name suffix,
    other.parts = before ++ [name ++ suffix] ∧
      (path.parts = before ++ [name] ∨ path.parts = before)

theorem rootOf_append {suffix : List Char} (unbroken : ∀ c ∈ suffix, (c == '/') = false)
    (text : List Char) : rootOf (text ++ suffix) = rootOf text := by
  have none : suffix.takeWhile (· == '/') = [] := by
    cases suffix with
    | nil => rfl
    | cons c rest => rw [List.takeWhile_cons, unbroken c List.mem_cons_self]; rfl
  have same : (text ++ suffix).takeWhile (· == '/') = text.takeWhile (· == '/') := by
    induction text with
    | nil => exact none
    | cons c text ih =>
        rw [List.cons_append, List.takeWhile_cons, List.takeWhile_cons, ih]
  unfold rootOf
  rw [same]

/-- A suffix in one piece makes the last name longer. -/
theorem beside_ofString {suffix : String} (unbroken : ∀ c ∈ suffix.toList, (c == '/') = false)
    (long : 2 ≤ suffix.toList.length) (text : String) :
    (ofString text).Beside (ofString (text ++ suffix)) := by
  obtain ⟨before, last, alone, extended⟩ := Text.pieces_append unbroken text.toList
  have kept : (String.ofList last ++ suffix != "" && String.ofList last ++ suffix != ".") =
      true := by
    have size : (String.ofList last ++ suffix).toList.length =
        last.length + suffix.toList.length := by
      rw [String.toList_append, List.length_append, String.toList_ofList]
    rw [Bool.and_eq_true, bne_iff_ne, bne_iff_ne]
    constructor
    · intro same
      rw [same] at size
      change 0 = _ at size
      omega
    · intro same
      rw [same] at size
      change 1 = _ at size
      omega
  refine ⟨?_, (before.map String.ofList).filter fun piece => piece != "" && piece != ".",
    String.ofList last, suffix, ?_, ?_⟩
  · unfold ofString
    rw [String.toList_append]
    exact rootOf_append unbroken text.toList
  · unfold ofString
    simp only [String.toList_append, extended, List.map_append, List.filter_append, List.map_cons,
      List.map_nil, String.ofList_append, String.ofList_toList, List.filter_cons, kept, if_true,
      List.filter_nil]
  · unfold ofString
    simp only [alone, List.map_append, List.filter_append, List.map_cons, List.map_nil,
      List.filter_cons, List.filter_nil]
    split
    · exact Or.inl rfl
    · exact Or.inr (List.append_nil _)

theorem beside_join {path other : Path} (beside : path.Beside other) (base : Path) :
    (base.join path).Beside (base.join other) := by
  obtain ⟨sameRoot, before, name, suffix, longer, rest⟩ := beside
  unfold join
  rw [sameRoot]
  by_cases rootless : path.root = ""
  · rw [if_pos rootless, if_pos rootless]
    refine ⟨rfl, base.parts ++ before, name, suffix, ?_, ?_⟩
    · simp [longer]
    · rcases rest with same | same
      · exact Or.inl (by simp [same])
      · exact Or.inr (by simp [same])
  · rw [if_neg rootless, if_neg rootless]
    exact ⟨sameRoot, before, name, suffix, longer, rest⟩

/-- The text of a path before an empty one is replaced. -/
def joined (path : Path) : String :=
  path.root ++ String.intercalate "/" path.parts

theorem joined_beside {path other : Path} (beside : path.Beside other) :
    ∃ rest, other.joined = path.joined ++ rest := by
  obtain ⟨sameRoot, before, name, suffix, longer, rest⟩ := beside
  unfold joined
  rw [sameRoot, longer]
  rcases rest with same | same
  · refine ⟨suffix, ?_⟩
    rw [same]
    cases before with
    | nil => simp [String.append_assoc]
    | cons first before =>
        rw [String.intercalate_append_of_ne_nil (by simp) (by simp),
          String.intercalate_append_of_ne_nil (by simp) (by simp)]
        simp [String.append_assoc]
  · rw [same]
    cases before with
    | nil => exact ⟨name ++ suffix, by simp⟩
    | cons first before =>
        refine ⟨"/" ++ (name ++ suffix), ?_⟩
        rw [String.intercalate_append_of_ne_nil (by simp) (by simp)]
        simp [String.append_assoc]

section Nulls

open FileSystem

theorem mem_joined_iff {c : Char} (inside : c ≠ '/') (path : Path) :
    c ∈ path.joined.toList ↔ c ∈ path.root.toList ∨ ∃ part ∈ path.parts, c ∈ part.toList := by
  unfold joined
  rw [String.toList_append, List.mem_append]
  refine or_congr Iff.rfl ?_
  induction path.parts with
  | nil => simp
  | cons part parts ih =>
      cases parts with
      | nil => simp
      | cons next parts =>
          rw [String.intercalate_cons_cons, String.toList_append, String.toList_append,
            List.mem_append, List.mem_append, ih]
          simp [inside]

theorem hasNull_iff (path : Path) : HasNull path ↔ '\x00' ∈ path.joined.toList := by
  unfold HasNull
  rw [String.contains_char_eq, decide_eq_true_iff]
  by_cases empty : path.joined.isEmpty = true
  · have text : path.text = "." := if_pos empty
    rw [text]
    rw [String.isEmpty_iff] at empty
    rw [empty]
    simp
  · have text : path.text = path.joined := if_neg empty
    rw [text]

theorem not_mem_rootOf (text : List Char) : '\x00' ∉ (rootOf text).toList := by
  unfold rootOf
  split
  · simp
  · simp
  · simp

/-- The pieces that a path drops from a text have no null in them. -/
theorem hasNull_ofString_iff (text : String) : HasNull (ofString text) ↔ '\x00' ∈ text.toList := by
  rw [hasNull_iff, mem_joined_iff (by decide),
    ← Text.mem_pieces_iff (· == '/') (by decide) text.toList]
  have rootless : '\x00' ∉ (ofString text).root.toList := not_mem_rootOf text.toList
  rw [or_iff_right rootless]
  constructor
  · rintro ⟨part, member, null⟩
    obtain ⟨piece, cut, rfl⟩ := List.mem_map.mp (List.mem_filter.mp member).1
    exact ⟨piece, cut, by rwa [String.toList_ofList] at null⟩
  · rintro ⟨piece, cut, null⟩
    refine ⟨String.ofList piece, List.mem_filter.mpr ⟨List.mem_map_of_mem cut, ?_⟩, ?_⟩
    · rw [Bool.and_eq_true, bne_iff_ne, bne_iff_ne]
      constructor
      · intro same
        rw [← String.toList_ofList (l := piece), same] at null
        simp at null
      · intro same
        rw [← String.toList_ofList (l := piece), same] at null
        simp at null
    · rwa [String.toList_ofList]

theorem hasNull_join_iff (base next : Path) :
    HasNull (base.join next) ↔ HasNull next ∨ next.root = "" ∧ HasNull base := by
  unfold join
  by_cases rootless : next.root = ""
  · rw [if_pos rootless]
    simp only [hasNull_iff, mem_joined_iff (c := '\x00') (by decide), List.mem_append, rootless,
      or_and_right, exists_or, String.toList_empty, List.not_mem_nil, false_or, true_and]
    rw [← or_assoc, or_comm]
  · rw [if_neg rootless]
    simp [rootless]

end Nulls

end Path

namespace FileSystem

variable {files : FileSystem} {path other : Path} {location : Location}

/-- A path that another one goes on from is valid if the other one is. -/
theorem valid_of_longer {rest : String} (longer : other.joined = path.joined ++ rest)
    (valid : other.text.contains '\x00' = false ∧ other.text.utf8ByteSize ≤ maximalPathSize) :
    path.text.contains '\x00' = false ∧ path.text.utf8ByteSize ≤ maximalPathSize := by
  by_cases empty : path.joined.isEmpty = true
  · have text : path.text = "." := if_pos empty
    rw [text]
    exact ⟨by simp, by decide⟩
  · have text : path.text = path.joined := if_neg empty
    have otherText : other.text = path.joined ++ rest := by
      rw [← longer]
      refine if_neg fun otherEmpty => empty ?_
      rw [String.isEmpty_iff] at otherEmpty ⊢
      change other.joined = "" at otherEmpty
      rw [otherEmpty] at longer
      exact (String.append_eq_empty_iff.mp longer.symm).1
    rw [otherText, String.contains_char_eq, String.toList_append,
      String.utf8ByteSize_append] at valid
    rw [text, String.contains_char_eq]
    obtain ⟨unbroken, short⟩ := valid
    rw [decide_eq_false_iff_not] at unbroken ⊢
    exact ⟨fun member => unbroken (List.mem_append_left _ member), by omega⟩

/-- Where a path leads to a place, so does every path that it stands beside. -/
theorem located_beside (beside : path.Beside other) (located : files.locate other = .ok location) :
    ∃ place, files.locate path = .ok place := by
  obtain ⟨validOther, way⟩ := locate_eq_ok_iff.mp located
  obtain ⟨rest, joined⟩ := Path.joined_beside beside
  obtain ⟨sameRoot, before, name, suffix, longer, parts⟩ := beside
  have valid := valid_of_longer joined validOther
  have sameStart : other.isAbsolute = path.isAbsolute := by
    unfold Path.isAbsolute
    rw [sameRoot]
  rw [sameStart, longer, List.foldlM_append] at way
  obtain ⟨middle, walked, last⟩ := except_bind_eq_ok_iff.mp way
  rcases parts with same | same
  · rw [List.foldlM_cons] at last
    obtain ⟨_, entered, _⟩ := except_bind_eq_ok_iff.mp last
    obtain ⟨behind, followed, stepped⟩ := except_bind_eq_ok_iff.mp entered
    obtain ⟨directory, size, _⟩ := step_eq_ok_iff.mp stepped
    rw [String.utf8ByteSize_append] at size
    obtain ⟨place, stepped⟩ : ∃ place, files.step behind name = .ok place :=
      ⟨_, step_eq_ok_iff.mpr ⟨directory, by omega, rfl⟩⟩
    have entered : files.enter middle name = .ok place :=
      except_bind_eq_ok_iff.mpr ⟨behind, followed, stepped⟩
    refine ⟨place, locate_eq_ok_iff.mpr ⟨valid, ?_⟩⟩
    rw [same, List.foldlM_append, walked]
    change List.foldlM files.enter middle [name] = _
    rw [List.foldlM_cons, entered]
    rfl
  · exact ⟨middle, locate_eq_ok_iff.mpr ⟨valid, same ▸ walked⟩⟩

end FileSystem

namespace Solver.Config

theorem modelPath_beside_outputPath {config : Config} {modelPath outputPath : Path}
    (modelNamed : config.modelPath = .ok modelPath)
    (outputNamed : config.outputPath = .ok outputPath) : modelPath.Beside outputPath := by
  unfold Config.modelPath at modelNamed
  unfold Config.outputPath at outputNamed
  cases worked : config.workPath with
  | error fault =>
      rw [worked] at modelNamed
      cases modelNamed
  | ok work =>
      rw [worked] at modelNamed outputNamed
      cases named : config.modelFile with
      | text name =>
          rw [named] at modelNamed outputNamed
          cases modelNamed
          cases outputNamed
          apply Path.beside_join
          change (Path.ofString name).Beside (Path.ofString (name ++ "." ++ config.task.name))
          rw [String.append_assoc]
          apply Path.beside_ofString
          · cases config.task <;> simp [Task.name]
          · cases config.task <;> simp [Task.name]
      | _ =>
          rw [named] at modelNamed
          cases modelNamed

/-- The path of the results holds a null only where that of the model does. -/
theorem hasNull_outputPath_iff {config : Config} {modelPath outputPath : Path}
    (modelNamed : config.modelPath = .ok modelPath)
    (outputNamed : config.outputPath = .ok outputPath) :
    FileSystem.HasNull outputPath ↔ FileSystem.HasNull modelPath := by
  unfold Config.modelPath at modelNamed
  unfold Config.outputPath at outputNamed
  cases worked : config.workPath with
  | error fault =>
      rw [worked] at modelNamed
      cases modelNamed
  | ok work =>
      rw [worked] at modelNamed outputNamed
      cases named : config.modelFile with
      | text name =>
          rw [named] at modelNamed outputNamed
          cases modelNamed
          cases outputNamed
          have unbroken : ∀ c ∈ ("." ++ config.task.name).toList, (c == '/') = false := by
            cases config.task <;> simp [Task.name]
          have plain : '\x00' ∉ ("." ++ config.task.name).toList := by
            cases config.task <;> simp [Task.name]
          have sameRoot : (Path.ofString (name ++ "." ++ config.task.name)).root =
              (Path.ofString name).root := by
            unfold Path.ofString
            rw [String.append_assoc, String.toList_append]
            exact Path.rootOf_append unbroken name.toList
          change FileSystem.HasNull
            (work.join (Path.ofString (name ++ "." ++ config.task.name))) ↔ _
          rw [Path.hasNull_join_iff, Path.hasNull_join_iff, sameRoot, Path.hasNull_ofString_iff,
            Path.hasNull_ofString_iff, String.append_assoc, String.toList_append, List.mem_append,
            or_iff_left plain]
      | _ =>
          rw [named] at modelNamed
          cases modelNamed

end Solver.Config

end HingeField
