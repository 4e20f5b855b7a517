import HingeField.Proofs.Sequence
import HingeField.Results

/-!
The grammar of results texts. Behind the header a text is cut into parts: a
separator is a line of its own, and a solution is a marker line together with
the line behind it, whatever that line holds. Which of the two a line is
depends on the lines before it, but a list of lines has at most one cut.

Main statement: reading succeeds exactly for the texts of the grammar, with the
integers of the last solution, and every other text is refused as badly formed.
-/

namespace HingeField.Results

/-- A part of a results text behind its header. -/
inductive Part where
  | separator (line : String)
  | solution (marker line : String)

namespace Part

def lines : Part → List String
  | separator line => [line]
  | solution marker line => [marker, line]

def IsWellFormed : Part → Prop
  | separator line =>
      Text.strip line.toList = [] ∨ Text.strip line.toList = "-BEGIN-".toList
  | solution marker _ => Text.strip marker.toList = "1".toList

instance (part : Part) : Decidable part.IsWellFormed :=
  match part with
  | separator _ => inferInstanceAs (Decidable (_ ∨ _))
  | solution _ _ => inferInstanceAs (Decidable (_ = _))

/-- The line of a solution that holds its codes. -/
def assignment? : Part → Option String
  | separator _ => none
  | solution _ line => some line

end Part

/-- The parts make up the lines, one behind the other. -/
structure IsCut (lines : List String) (parts : List Part) : Prop where
  joined : parts.flatMap Part.lines = lines
  wellFormed : ∀ part ∈ parts, part.IsWellFormed

def lastAssignment? (parts : List Part) : Option String :=
  (parts.filterMap Part.assignment?).getLast?

section Cuts

variable {line : String} {lines rest : List String} {part : Part} {parts : List Part}

theorem isCut_nil : IsCut [] [] :=
  ⟨rfl, fun _ member => absurd member List.not_mem_nil⟩

theorem isCut_cons_iff :
    IsCut lines (part :: parts) ↔
      ∃ rest, lines = part.lines ++ rest ∧ part.IsWellFormed ∧ IsCut rest parts := by
  constructor
  · rintro ⟨joined, wellFormed⟩
    rw [List.flatMap_cons] at joined
    refine ⟨_, joined.symm, wellFormed part List.mem_cons_self, rfl, ?_⟩
    intro other member
    exact wellFormed other (List.mem_cons_of_mem part member)
  · rintro ⟨rest, rfl, first, others⟩
    refine ⟨by rw [List.flatMap_cons, others.joined], ?_⟩
    intro other member
    rcases List.mem_cons.mp member with rfl | later
    · exact first
    · exact others.wellFormed other later

theorem lastAssignment?_separator :
    lastAssignment? (.separator line :: parts) = lastAssignment? parts := by
  simp [lastAssignment?, Part.assignment?]

theorem lastAssignment?_solution (marker : String) :
    lastAssignment? (.solution marker line :: parts) =
      some ((lastAssignment? parts).getD line) := by
  simp [lastAssignment?, Part.assignment?, List.getLast?_cons]

theorem not_marker_of_separator (separator : (Part.separator line).IsWellFormed) :
    Text.strip line.toList ≠ "1".toList := by
  rcases separator with blank | begins
  · rw [blank]
    decide
  · rw [begins]
    decide

theorem IsCut.unique {others : List Part} (first : IsCut lines parts)
    (second : IsCut lines others) : parts = others := by
  induction parts generalizing lines others with
  | nil =>
      cases others with
      | nil => rfl
      | cons other others =>
          obtain ⟨rest, same, _⟩ := isCut_cons_iff.mp second
          rw [← first.joined] at same
          cases other <;> cases same
  | cons part parts ih =>
      obtain ⟨rest, rfl, formed, cut⟩ := isCut_cons_iff.mp first
      cases others with
      | nil =>
          have same := second.joined
          cases part <;> cases same
      | cons other others =>
          obtain ⟨rest', same, formedOther, cutOther⟩ := isCut_cons_iff.mp second
          cases part with
          | separator line =>
              cases other with
              | separator other =>
                  cases same
                  rw [ih cut cutOther]
              | solution marker solution =>
                  obtain ⟨rfl, _⟩ := List.cons.inj same
                  exact absurd formedOther (not_marker_of_separator formed)
          | solution marker solution =>
              cases other with
              | separator other =>
                  obtain ⟨rfl, _⟩ := List.cons.inj same
                  exact absurd formed (not_marker_of_separator formedOther)
              | solution otherMarker other =>
                  cases same
                  rw [ih cut cutOther]

end Cuts

section Reading

variable {number : Nat} {found : Option (Nat × String)} {line : String} {lines : List String}

theorem isSeparator_iff :
    isSeparator (Text.strip line.toList) = true ↔ (Part.separator line).IsWellFormed := by
  unfold isSeparator Part.IsWellFormed
  rw [Bool.or_eq_true, List.isEmpty_iff, beq_iff_eq]

theorem lastSolution_separator (separator : (Part.separator line).IsWellFormed) :
    lastSolution number found (line :: lines) = lastSolution (number + 1) found lines := by
  rw [lastSolution.eq_def]
  exact if_pos (isSeparator_iff.mpr separator)

theorem lastSolution_solution {marker : String}
    (marked : (Part.solution marker line).IsWellFormed) :
    lastSolution number found (marker :: line :: lines) =
      lastSolution (number + 2) (some (number + 1, line)) lines := by
  have unseparated : ¬isSeparator (Text.strip marker.toList) = true := by
    intro separator
    exact not_marker_of_separator (isSeparator_iff.mp separator) marked
  rw [lastSolution.eq_def]
  exact (if_neg unseparated).trans (if_neg fun unmarked => unmarked marked)

/-- The lines of a cut are read to its last solution. -/
theorem lastSolution_of_cut (number : Nat) (found : Option (Nat × String)) {parts : List Part}
    (cut : IsCut lines parts) :
    ∃ result, lastSolution number found lines = .ok result ∧
      result.map (·.2) = (lastAssignment? parts).or (found.map (·.2)) := by
  induction parts generalizing lines number found with
  | nil =>
      cases cut.joined
      exact ⟨found, rfl, rfl⟩
  | cons part parts ih =>
      obtain ⟨rest, rfl, formed, others⟩ := isCut_cons_iff.mp cut
      cases part with
      | separator line =>
          obtain ⟨result, read, last⟩ := ih (number + 1) found others
          refine ⟨result, (lastSolution_separator formed).trans read, ?_⟩
          rw [last, lastAssignment?_separator]
      | solution marker line =>
          obtain ⟨result, read, last⟩ :=
            ih (number + 2) (some (number + 1, line)) others
          refine ⟨result, (lastSolution_solution formed).trans read, ?_⟩
          rw [last, lastAssignment?_solution]
          cases lastAssignment? parts with
          | none => rfl
          | some later => rfl

/-- Lines that can be read to their end have a cut, and other lines are badly formed. -/
theorem cut_or_format (number : Nat) (found : Option (Nat × String)) (lines : List String) :
    (∃ parts, IsCut lines parts) ∨
      ∃ defect, lastSolution number found lines = .error (.format defect) := by
  fun_induction lastSolution number found lines with
  | case1 => exact Or.inl ⟨[], isCut_nil⟩
  | case2 number found line rest trimmed separator ih =>
      rcases ih with ⟨parts, cut⟩ | refused
      · refine Or.inl ⟨.separator line :: parts, isCut_cons_iff.mpr ⟨rest, rfl, ?_, cut⟩⟩
        exact isSeparator_iff.mp separator
      · exact Or.inr refused
  | case3 => exact Or.inr ⟨_, rfl⟩
  | case4 => exact Or.inr ⟨_, rfl⟩
  | case5 number found line trimmed unseparated marked solution rest ih =>
      rcases ih with ⟨parts, cut⟩ | refused
      · refine Or.inl ⟨.solution line solution :: parts,
          isCut_cons_iff.mpr ⟨rest, rfl, ?_, cut⟩⟩
        exact Classical.not_not.mp marked
      · exact Or.inr refused

end Reading

section Codes

variable {α β ε ε' : Type} {codes : List Int}

private theorem map_eq_map_ok_congr {f : α → Except ε β} (g : α → Except ε' β)
    (same : ∀ x value, f x = .ok value ↔ g x = .ok value) (xs : List α) (results : List β) :
    xs.map f = results.map .ok ↔ xs.map g = results.map .ok := by
  induction xs generalizing results with
  | nil => simp
  | cons x xs ih =>
      cases results with
      | nil => simp
      | cons first rest => simp [same, ih]

theorem codesOf_eq_ok_iff (number : Nat) (solution : String) :
    codesOf number solution = .ok codes ↔
      ∃ first words, Text.words solution.toList = first :: words ∧
        words.map Decimal.integer = codes.map .ok := by
  unfold codesOf
  cases Text.words solution.toList with
  | nil => simp
  | cons first words =>
      rw [mapM_eq_ok_iff_map]
      refine (map_eq_map_ok_congr Decimal.integer ?_ words codes).trans ?_
      · intro word code
        cases Decimal.integer word <;> simp
      · constructor
        · intro read
          exact ⟨first, words, rfl, read⟩
        · rintro ⟨_, _, same, read⟩
          cases same
          exact read

theorem codesOf_ok_or_format (number : Nat) (solution : String) :
    (∃ codes, codesOf number solution = .ok codes) ∨
      ∃ defect, codesOf number solution = .error (.format defect) := by
  cases read : codesOf number solution with
  | ok codes => exact Or.inl ⟨codes, rfl⟩
  | error fault =>
      refine Or.inr ?_
      unfold codesOf at read
      split at read
      · cases read
        exact ⟨_, rfl⟩
      · obtain ⟨word, _, refused⟩ := exists_of_mapM_error read
        split at refused
        · cases refused
        · cases refused
          exact ⟨_, rfl⟩

end Codes

section Texts

variable {header task : String} {lines rest : List String} {parts : List Part} {codes : List Int}

/-- Under the header of its task a text with a cut is read by its last solution. -/
theorem parse_of_cut (named : Text.stripEnd header.toList = task.toList)
    (cut : IsCut rest parts) :
    parse (header :: rest) task = .ok codes ↔
      ∃ solution first words, lastAssignment? parts = some solution ∧
        Text.words solution.toList = first :: words ∧
        words.map Decimal.integer = codes.map .ok := by
  obtain ⟨result, read, last⟩ := lastSolution_of_cut 2 none cut
  rw [Option.map_none, Option.or_none] at last
  rw [← last]
  simp only [parse, named, ne_eq, not_true_eq_false, if_false, read]
  cases result with
  | none =>
      constructor
      · intro impossible
        cases impossible
      · rintro ⟨_, _, _, impossible, _⟩
        cases impossible
  | some found =>
      refine (codesOf_eq_ok_iff found.1 found.2).trans ?_
      simp

theorem parse_of_other_header (rest : List String)
    (unnamed : Text.stripEnd header.toList ≠ task.toList) :
    ∃ defect, parse (header :: rest) task = .error (.format defect) := by
  simp only [parse, ne_eq, unnamed, not_false_eq_true, if_true]
  exact ⟨_, rfl⟩

theorem parse_ok_or_format (lines : List String) (task : String) :
    (∃ codes, parse lines task = .ok codes) ∨
      ∃ defect, parse lines task = .error (.format defect) := by
  cases lines with
  | nil => exact Or.inr ⟨_, rfl⟩
  | cons header rest =>
      by_cases named : Text.stripEnd header.toList = task.toList
      · simp only [parse, named, ne_eq, not_true_eq_false, if_false]
        cases read : lastSolution 2 none rest with
        | error fault =>
            obtain ⟨parts, cut⟩ | ⟨defect, refused⟩ := cut_or_format 2 none rest
            · obtain ⟨_, success, _⟩ := lastSolution_of_cut 2 none cut
              rw [read] at success
              cases success
            · rw [read] at refused
              cases refused
              exact Or.inr ⟨defect, rfl⟩
        | ok result =>
            cases result with
            | none => exact Or.inr ⟨_, rfl⟩
            | some found => exact codesOf_ok_or_format found.1 found.2
      · exact Or.inr (parse_of_other_header rest named)

theorem parse_eq_ok_iff :
    parse lines task = .ok codes ↔
      ∃ header rest parts solution first words,
        lines = header :: rest ∧ Text.stripEnd header.toList = task.toList ∧
        IsCut rest parts ∧ lastAssignment? parts = some solution ∧
        Text.words solution.toList = first :: words ∧
        words.map Decimal.integer = codes.map .ok := by
  constructor
  · intro success
    cases lines with
    | nil => cases success
    | cons header rest =>
        have named : Text.stripEnd header.toList = task.toList := by
          refine Decidable.byContradiction fun unnamed => ?_
          obtain ⟨defect, refused⟩ := parse_of_other_header rest unnamed
          rw [success] at refused
          cases refused
        obtain ⟨parts, cut⟩ | ⟨defect, refused⟩ := cut_or_format 2 none rest
        · obtain ⟨solution, first, words, last, held, read⟩ :=
            (parse_of_cut named cut).mp success
          exact ⟨header, rest, parts, solution, first, words, rfl, named, cut, last, held, read⟩
        · simp only [parse, named, ne_eq, not_true_eq_false, if_false, refused] at success
          cases success
  · rintro ⟨header, rest, parts, solution, first, words, rfl, named, cut, last, held, read⟩
    exact (parse_of_cut named cut).mpr ⟨solution, first, words, last, held, read⟩

/-- A text is read exactly if it is of the grammar, and otherwise refused as badly formed. The cut
of its lines is unique, and only the last solution counts: texts with the same one read alike. -/
theorem parse_accepts_grammar (task : String) :
    (∀ lines codes, parse lines task = .ok codes ↔
      ∃ header rest parts solution first words,
        lines = header :: rest ∧ Text.stripEnd header.toList = task.toList ∧
        IsCut rest parts ∧ lastAssignment? parts = some solution ∧
        Text.words solution.toList = first :: words ∧
        words.map Decimal.integer = codes.map .ok) ∧
      (∀ lines, (∃ codes, parse lines task = .ok codes) ∨
        ∃ defect, parse lines task = .error (.format defect)) ∧
      (∀ lines parts others, IsCut lines parts → IsCut lines others → parts = others) ∧
      (∀ header rest other parts others codes,
        Text.stripEnd header.toList = task.toList → IsCut rest parts → IsCut other others →
        lastAssignment? parts = lastAssignment? others →
        (parse (header :: rest) task = .ok codes ↔ parse (header :: other) task = .ok codes)) := by
  refine ⟨fun lines codes => parse_eq_ok_iff, fun lines => parse_ok_or_format lines task,
    fun lines parts others first second => first.unique second, ?_⟩
  intro header rest other parts others codes named cut cutOther sameLast
  rw [parse_of_cut named cut, parse_of_cut named cutOther, sameLast]

theorem parse_accepts_grammar_improved :
    Text.stripEnd "MPE \n".toList = "MPE".toList ∧
      parse ["MPE \n", "1", "-BEGIN-", "-BEGIN-", "1", "1", " 1", "2 0 1"] "MPE" =
        .ok [0, 1] := by
  refine ⟨by decide, ?_⟩
  refine ((parse_accepts_grammar "MPE").2.2.2 "MPE \n" _ ["1", "2 0 1"]
    [.solution "1" "-BEGIN-", .separator "-BEGIN-", .solution "1" "1", .solution " 1" "2 0 1"]
    [.solution "1" "2 0 1"] [0, 1] (by decide) ⟨rfl, by decide⟩ ⟨rfl, by decide⟩ rfl).mpr ?_
  rfl

end Texts

end HingeField.Results
