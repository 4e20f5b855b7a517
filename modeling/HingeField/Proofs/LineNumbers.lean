import HingeField.Proofs.ResultsFile

/-!
The numbers of lines in faults. The reader of a results text numbers a line by
its place among the lines, whichever way these end. A byte that is no ASCII
character is reported with a number that counts line feeds. Main statement: the
reported number is the number of the line with the byte exactly if no carriage
return stands alone before it, and otherwise too small by one for each that
does.
-/

namespace HingeField

namespace Text

variable {before after body rest : List Char} {c : Char} {passed : Nat}

/-- So many lines end before a character, which stands between two parts of a text. -/
inductive LinesPass : List Char → Char → List Char → Nat → Prop where
  | here {body : List Char} (unended : IsUnended body) (c : Char) (after : List Char) :
      LinesPass body c after 0
  | behind {body ending before after : List Char} {c : Char} {passed : Nat}
      (unended : IsUnended body) (ends : IsLineEnding ending (before ++ c :: after))
      (others : LinesPass before c after passed) :
      LinesPass (body ++ (ending ++ before)) c after (passed + 1)

/-- The carriage returns that no line feed follows. -/
def loneReturns : List Char → Nat
  | [] => 0
  | c :: rest => (if c = '\r' ∧ rest.head? ≠ some '\n' then 1 else 0) + loneReturns rest

section Counting

theorem loneReturns_of_unended (unended : IsUnended body) (rest : List Char) :
    loneReturns (body ++ rest) = loneReturns rest := by
  induction body with
  | nil => rfl
  | cons c body ih =>
      obtain ⟨⟨_, notReturn⟩, others⟩ := isUnended_cons_iff.mp unended
      simp [loneReturns, notReturn, ih others]

theorem count_of_unended (unended : IsUnended body) : body.count '\n' = 0 := by
  rw [List.count_eq_zero]
  intro member
  exact (unended '\n' member).1 rfl

/-- The lines that pass are those that a line feed ends and those that a lone return does. -/
theorem LinesPass.eq_count (pass : LinesPass before c after passed) :
    passed = before.count '\n' + loneReturns before := by
  induction pass with
  | here unended =>
      have none := loneReturns_of_unended unended []
      rw [List.append_nil] at none
      rw [count_of_unended unended, none]
      rfl
  | @behind body ending before after c passed unended ends _ ih =>
      rw [List.count_append, count_of_unended unended, loneReturns_of_unended unended, ih]
      cases ends with
      | feed => simp [loneReturns]; omega
      | both => simp [loneReturns]; omega
      | lone alone =>
          have apart : before.head? ≠ some '\n' := by
            cases before with
            | nil => simp
            | cons first before => simpa using alone
          simp [loneReturns, apart]
          omega

/-- Lines pass before every character that ends none. -/
theorem exists_linesPass (plain : c ≠ '\n' ∧ c ≠ '\r') (after : List Char) :
    (before : List Char) → ∃ passed, LinesPass before c after passed
  | [] => ⟨0, .here (fun _ member => absurd member List.not_mem_nil) c after⟩
  | first :: before => by
      have unended : IsUnended [] := fun _ member => absurd member List.not_mem_nil
      by_cases feeds : first = '\n'
      · subst feeds
        obtain ⟨passed, others⟩ := exists_linesPass plain after before
        exact ⟨_, .behind unended (.feed _) others⟩
      by_cases returns : first = '\r'
      · subst returns
        by_cases alone : before.head? = some '\n'
        · obtain ⟨behind, rfl⟩ := List.head?_eq_some_iff.mp alone
          obtain ⟨passed, others⟩ := exists_linesPass plain after behind
          exact ⟨_, .behind unended (.both _) others⟩
        · obtain ⟨passed, others⟩ := exists_linesPass plain after before
          refine ⟨_, .behind unended (.lone ?_) others⟩
          cases before with
          | nil => simpa using plain.1
          | cons second before => simpa using alone
      · obtain ⟨passed, others⟩ := exists_linesPass plain after before
        have single : IsUnended [first] := isUnended_cons_iff.mpr ⟨⟨feeds, returns⟩, unended⟩
        cases others with
        | here opened =>
            exact ⟨0, .here (isUnended_cons_iff.mpr ⟨⟨feeds, returns⟩, opened⟩) c after⟩
        | @behind body _ _ _ _ _ opened ends others =>
            have longer : IsUnended (first :: body) :=
              isUnended_cons_iff.mpr ⟨⟨feeds, returns⟩, opened⟩
            exact ⟨_, .behind longer ends others⟩

end Counting

section Lines

variable {text line : List Char} {lines : List (List Char)}

theorem HasLines.unique {others : List (List Char)} (first : HasLines text lines)
    (second : HasLines text others) : lines = others :=
  first.eq.symm.trans second.eq

/-- What ends no line, put in front of a text, belongs to its first line. -/
theorem HasLines.append_unended (unended : IsUnended body)
    (hasLines : HasLines text (line :: lines)) :
    HasLines (body ++ text) ((body ++ line) :: lines) := by
  have both {other : List Char} (alsoUnended : IsUnended other) : IsUnended (body ++ other) := by
    intro c member
    exact (List.mem_append.mp member).elim (unended c) (alsoUnended c)
  cases hasLines with
  | last lineUnended nonempty => exact .last (both lineUnended) (by simp [nonempty])
  | ended lineUnended ends others =>
      have longer := HasLines.ended (both lineUnended) ends others
      rwa [List.append_assoc, List.append_assoc] at longer

/-- A character that ends no line begins the first line of the text that it begins. -/
theorem HasLines.of_plain (plain : c ≠ '\n' ∧ c ≠ '\r') (after : List Char) :
    ∃ rest lines, HasLines (c :: after) ((c :: rest) :: lines) := by
  obtain ⟨lines, hasLines⟩ := exists_hasLines after
  have single : IsUnended [c] :=
    isUnended_cons_iff.mpr ⟨plain, fun _ member => absurd member List.not_mem_nil⟩
  cases lines with
  | nil =>
      cases hasLines
      exact ⟨[], [], .last single (List.cons_ne_nil c [])⟩
  | cons line lines => exact ⟨line, lines, hasLines.append_unended single⟩

/-- As many lines stand before the line of a character as pass before it. -/
theorem LinesPass.getElem?_lines (pass : LinesPass before c after passed) (plain : c ≠ '\n' ∧ c ≠ '\r')
    (hasLines : HasLines (before ++ c :: after) lines) :
    ∃ opened rest, lines[passed]? = some (opened ++ c :: rest) ∧ opened <:+ before := by
  induction pass generalizing lines with
  | @here body unended c after =>
      obtain ⟨rest, others, first⟩ := HasLines.of_plain plain after
      rw [hasLines.unique (first.append_unended unended)]
      exact ⟨body, rest, rfl, List.suffix_rfl⟩
  | @behind body ending before after c passed unended ends _ ih =>
      obtain ⟨others, later⟩ := exists_hasLines (before ++ c :: after)
      obtain ⟨opened, rest, stands, suffix⟩ := ih plain later
      rw [List.append_assoc, List.append_assoc] at hasLines
      rw [hasLines.unique (.ended unended ends later), List.getElem?_cons_succ]
      exact ⟨opened, rest, stands, (suffix.trans (List.suffix_append _ _)).trans
        (List.suffix_append _ _)⟩

end Lines

end Text

namespace Results

variable {task : String} {lines : List String} {place : Nat}

/-- The line at a place is the one for which a results text is refused: a header of another task, a
line that is no marker where one has to stand, or a last solution without codes. -/
inductive IsRefusedAt (task : String) : List String → Nat → Prop where
  | header {header : String} (unnamed : Text.stripEnd header.toList ≠ task.toList)
      (rest : List String) : IsRefusedAt task (header :: rest) 0
  | marker {header line : String} {earlier : List String} {parts : List Part}
      (named : Text.stripEnd header.toList = task.toList) (cut : IsCut earlier parts)
      (unseparated : ¬(Part.separator line).IsWellFormed)
      (unmarked : Text.strip line.toList ≠ marker.toList) (later : List String) :
      IsRefusedAt task (header :: (earlier ++ line :: later)) (earlier.length + 1)
  | solution {header marker line : String} {earlier later : List String} {parts others : List Part}
      (named : Text.stripEnd header.toList = task.toList) (cut : IsCut earlier parts)
      (marked : (Part.solution marker line).IsWellFormed) (laterCut : IsCut later others)
      (last : lastAssignment? others = none)
      (unread : ∀ number codes, codesOf number line ≠ .ok codes) :
      IsRefusedAt task (header :: (earlier ++ marker :: line :: later)) (earlier.length + 2)

/-- Lines with a cut are read on the way to what stands behind them. -/
theorem lastSolution_append {earlier : List String} {parts : List Part} (number : Nat)
    (found : Option (Nat × String)) (cut : IsCut earlier parts) (rest : List String) :
    ∃ between, lastSolution number found (earlier ++ rest) =
      lastSolution (number + earlier.length) between rest := by
  induction parts generalizing earlier number found with
  | nil =>
      cases cut.joined
      exact ⟨found, rfl⟩
  | cons part parts ih =>
      obtain ⟨behind, rfl, formed, others⟩ := isCut_cons_iff.mp cut
      cases part with
      | separator line =>
          obtain ⟨between, read⟩ := ih (number + 1) found others
          refine ⟨between, ((lastSolution_separator formed).trans read).trans ?_⟩
          simp only [Part.lines, List.length_append, List.length_singleton]
          congr 1
          omega
      | solution marker line =>
          obtain ⟨between, read⟩ := ih (number + 2) (some (number + 1, line)) others
          refine ⟨between, ((lastSolution_solution formed).trans read).trans ?_⟩
          simp only [Part.lines, List.length_append, List.length_cons, List.length_nil]
          congr 1
          omega

/-- Behind the last solution there are only separators. -/
theorem lastSolution_of_none {others : List Part} (number : Nat) (found : Option (Nat × String))
    (cut : IsCut lines others) (last : lastAssignment? others = none) :
    lastSolution number found lines = .ok found := by
  induction others generalizing lines number with
  | nil =>
      cases cut.joined
      rfl
  | cons part others ih =>
      obtain ⟨rest, rfl, formed, laterCut⟩ := isCut_cons_iff.mp cut
      cases part with
      | separator line =>
          rw [lastAssignment?_separator] at last
          exact (lastSolution_separator formed).trans (ih (number + 1) laterCut last)
      | solution marker line =>
          rw [lastAssignment?_solution] at last
          cases last

theorem lastSolution_unmarked {line : String} (number : Nat) (found : Option (Nat × String))
    (unseparated : ¬(Part.separator line).IsWellFormed)
    (unmarked : Text.strip line.toList ≠ marker.toList) (rest : List String) :
    ∃ defect, lastSolution number found (line :: rest) = .error (.format defect) ∧
      defect.line = some (number : Int) := by
  rw [lastSolution.eq_def]
  exact ⟨_, (if_neg (mt isSeparator_iff.mp unseparated)).trans (if_pos unmarked), rfl⟩

theorem codesOf_error {number : Nat} {solution : String} {fault : Fault}
    (failure : codesOf number solution = .error fault) :
    ∃ defect, fault = .format defect ∧ defect.line = some (number : Int) := by
  unfold codesOf at failure
  split at failure
  · cases failure
    exact ⟨_, rfl, rfl⟩
  · obtain ⟨word, _, refused⟩ := exists_of_mapM_error failure
    split at refused
    · cases refused
    · cases refused
      exact ⟨_, rfl, rfl⟩

/-- The fault of a refused line has the number of the line, counted from one. -/
theorem parse_of_refusedAt (refused : IsRefusedAt task lines place) :
    ∃ defect, parse lines task = .error (.format defect) ∧
      defect.line = some ((place : Int) + 1) := by
  cases refused with
  | header unnamed rest =>
      simp only [parse, ne_eq, unnamed, not_false_eq_true, if_true]
      exact ⟨_, rfl, rfl⟩
  | @marker header line earlier parts named cut unseparated unmarked later =>
      obtain ⟨between, read⟩ := lastSolution_append 2 none cut (line :: later)
      obtain ⟨defect, stops, numbered⟩ :=
        lastSolution_unmarked (2 + earlier.length) between unseparated unmarked later
      simp only [parse, named, ne_eq, not_true_eq_false, if_false, read, stops]
      refine ⟨defect, rfl, numbered.trans (congrArg some ?_)⟩
      omega
  | @solution header marker line earlier later parts others named cut marked laterCut last unread =>
      obtain ⟨between, read⟩ := lastSolution_append 2 none cut (marker :: line :: later)
      have found : lastSolution (2 + earlier.length) between (marker :: line :: later) =
          .ok (some (2 + earlier.length + 1, line)) :=
        (lastSolution_solution marked).trans (lastSolution_of_none _ _ laterCut last)
      simp only [parse, named, ne_eq, not_true_eq_false, if_false, read, found]
      cases computed : codesOf (2 + earlier.length + 1) line with
      | ok codes => exact absurd computed (unread _ codes)
      | error fault =>
          obtain ⟨defect, rfl, numbered⟩ := codesOf_error computed
          refine ⟨defect, computed, numbered.trans (congrArg some ?_)⟩
          omega

end Results

namespace Solution

open Text (LinesPass HasLines loneReturns)

variable {bytes before after : List UInt8} {byte : UInt8}

theorem toNat_character (byte : UInt8) : (Char.ofNat byte.toNat).toNat = byte.toNat := by
  have valid : byte.toNat.isValidChar := Or.inl (Nat.lt_trans byte.toNat_lt (by decide))
  rw [Char.toNat_ofNat, if_pos valid]

theorem character_eq_iff {c : Char} : Char.ofNat byte.toNat = c ↔ byte.toNat = c.toNat := by
  constructor
  · rintro rfl
    exact (toNat_character byte).symm
  · intro same
    rw [same, Char.ofNat_toNat]

theorem plain_of_other (other : ¬byte < 128) :
    Char.ofNat byte.toNat ≠ '\n' ∧ Char.ofNat byte.toNat ≠ '\r' := by
  have large : 128 ≤ byte.toNat := by simpa [UInt8.lt_iff_toNat_lt] using other
  constructor
  · intro same
    have feed : byte.toNat = 10 := character_eq_iff.mp same
    omega
  · intro same
    have returns : byte.toNat = 13 := character_eq_iff.mp same
    omega

theorem count_textOf (bytes : List UInt8) : (textOf bytes).count '\n' = bytes.count 10 := by
  unfold textOf List.count
  rw [List.countP_map]
  apply List.countP_congr
  intro byte _
  have feed : Char.ofNat byte.toNat = '\n' ↔ byte.toNat = 10 := character_eq_iff
  simp [feed, ← UInt8.toNat_inj]

theorem exists_first_other (other : ∃ byte ∈ bytes, ¬byte < 128) :
    ∃ before byte after, bytes = before ++ byte :: after ∧ (∀ earlier ∈ before, earlier < 128) ∧
      ¬byte < 128 := by
  induction bytes with
  | nil =>
      obtain ⟨_, member, _⟩ := other
      cases member
  | cons first bytes ih =>
      by_cases ascii : first < 128
      · obtain ⟨byte, member, high⟩ := other
        have behind : ∃ byte ∈ bytes, ¬byte < 128 := by
          rcases List.mem_cons.mp member with rfl | member
          · exact absurd ascii high
          · exact ⟨byte, member, high⟩
        obtain ⟨before, byte, after, rfl, earlier, high⟩ := ih behind
        exact ⟨first :: before, byte, after, rfl, List.forall_mem_cons.mpr ⟨ascii, earlier⟩, high⟩
      · exact ⟨[], first, bytes, rfl, fun _ member => absurd member List.not_mem_nil, ascii⟩

theorem takeWhile_first_other (ascii : ∀ earlier ∈ before, earlier < 128) (other : ¬byte < 128) :
    (before ++ byte :: after).takeWhile (· < 128) = before := by
  rw [List.takeWhile_append_of_pos fun earlier member => decide_eq_true (ascii earlier member),
    List.takeWhile_cons_of_neg (by simpa using other), List.append_nil]

/-- What is reported for a byte behind ASCII characters. -/
def byteDefect (before : List UInt8) (byte : UInt8) : FormatDefect where
  summary := "non-ASCII byte in solver output"
  expected := some "ASCII text"
  actual := some (Text.quotedHighByte byte)
  line := some (before.count 10 + 1)

theorem asciiText_of_first_other (ascii : ∀ earlier ∈ before, earlier < 128) (other : ¬byte < 128) :
    asciiText (before ++ byte :: after) = .error (.format (byteDefect before byte)) := by
  unfold asciiText
  simp only [takeWhile_first_other ascii other, List.drop_left]
  rfl

/-- How a file is refused whose first byte that is no ASCII character stands between two parts, and
how many lines pass before the byte. -/
structure ByteFault (bytes : List UInt8) (task : String) (before : List UInt8) (byte : UInt8)
    (after : List UInt8) (passed : Nat) : Prop where
  split : bytes = before ++ byte :: after
  ascii : ∀ earlier ∈ before, earlier < 128
  other : ¬byte < 128
  refused : ∀ model, readBytes bytes task model = .error (.format (byteDefect before byte)) model
  passes : LinesPass (textOf before) (Char.ofNat byte.toNat) (textOf after) passed
  omitted : passed = before.count 10 + loneReturns (textOf before)
  contained : ∀ lines, HasLines (textOf bytes) lines → ∃ opened rest,
    lines[passed]? = some (opened ++ Char.ofNat byte.toNat :: rest) ∧ opened <:+ textOf before

theorem ByteFault.before_eq {task : String} {passed : Nat}
    (fault : ByteFault bytes task before byte after passed) :
    before = bytes.takeWhile (· < 128) := by
  rw [fault.split, takeWhile_first_other fault.ascii fault.other]

theorem exists_byteFault (task : String) (other : ∃ byte ∈ bytes, ¬byte < 128) :
    ∃ before byte after passed, ByteFault bytes task before byte after passed := by
  obtain ⟨before, byte, after, rfl, ascii, high⟩ := exists_first_other other
  have plain := plain_of_other high
  obtain ⟨passed, pass⟩ := Text.exists_linesPass plain (textOf after) (textOf before)
  have split : textOf (before ++ byte :: after) =
      textOf before ++ Char.ofNat byte.toNat :: textOf after := List.map_append
  refine ⟨before, byte, after, passed, rfl, ascii, high, ?_, pass, ?_, ?_⟩
  · intro model
    unfold readBytes
    rw [asciiText_of_first_other ascii high]
    rfl
  · rw [pass.eq_count, count_textOf]
  · intro lines hasLines
    rw [split] at hasLines
    exact pass.getElem?_lines plain hasLines

/-- A file with a byte that is no ASCII character is refused with a line number that counts line
feeds. The number is that of the line with the first such byte, by which the reader of a text reports
a line in the same place, exactly if every carriage return before the byte has a line feed behind
it; each one without it makes the number too small by one. -/
theorem byte_fault_omits_lone_returns (task : String) (other : ∃ byte ∈ bytes, ¬byte < 128) :
    ∃ before byte after passed, ByteFault bytes task before byte after passed ∧
      ((byteDefect before byte).line = some ((passed : Int) + 1) ↔
        loneReturns (textOf before) = 0) ∧
      ∀ lines, Results.IsRefusedAt task lines passed →
        ∃ defect, Results.parse lines task = .error (.format defect) ∧
          defect.line = some ((passed : Int) + 1) := by
  obtain ⟨before, byte, after, passed, fault⟩ := exists_byteFault task other
  refine ⟨before, byte, after, passed, fault, ?_, fun lines => Results.parse_of_refusedAt⟩
  unfold byteDefect
  rw [fault.omitted, Option.some.injEq]
  omega

section Reading

/-- A file whose lines end in two ways, the last of them with a byte beyond the ASCII range. -/
def accentedFile : List UInt8 :=
  "MPE\r\n1\n1 \xe9".toList.map fun c => UInt8.ofNat c.toNat

theorem byte_fault_omits_lone_returns_accented :
    (∃ byte ∈ accentedFile, ¬byte < 128) ∧
      ∃ before byte after passed, ByteFault accentedFile "MPE" before byte after passed ∧
        passed = 2 ∧ (byteDefect before byte).line = some 3 := by
  have other : ∃ byte ∈ accentedFile, ¬byte < 128 := by decide
  obtain ⟨before, byte, after, passed, fault, agrees, _⟩ :=
    byte_fault_omits_lone_returns "MPE" other
  have two : passed = 2 := by
    rw [fault.omitted, fault.before_eq]
    decide +kernel
  have followed : loneReturns (textOf before) = 0 := by
    rw [fault.before_eq]
    decide +kernel
  subst two
  exact ⟨other, before, byte, after, 2, fault, rfl, agrees.mpr followed⟩

/-- The same lines, each ended by a lone carriage return. -/
def returnsFile : List UInt8 :=
  "MPE\r1\r1 \xe9".toList.map fun c => UInt8.ofNat c.toNat

/-- The byte on the third line is reported on the first one. -/
theorem lone_returns_mislead_byte_fault :
    (∃ byte ∈ returnsFile, ¬byte < 128) ∧
      readBytes returnsFile "MPE" {} =
        .error (.format (byteDefect (returnsFile.take 8) 0xe9)) {} ∧
      (byteDefect (returnsFile.take 8) 0xe9).line = some 1 ∧
      returnsFile = returnsFile.take 8 ++ [0xe9] ∧
      LinesPass (textOf (returnsFile.take 8)) '\xe9' [] 2 ∧
      HasLines (textOf returnsFile) ["MPE\n".toList, "1\n".toList, "1 \xe9".toList] := by
  refine ⟨by decide, rfl, rfl, by decide, ?_, Text.hasLines_iff.mpr (by decide +kernel)⟩
  obtain ⟨passed, pass⟩ := Text.exists_linesPass (c := '\xe9') (by decide) []
    (textOf (returnsFile.take 8))
  have two : passed = 2 := pass.eq_count.trans (by decide +kernel)
  exact two ▸ pass

end Reading

end Solution

end HingeField
