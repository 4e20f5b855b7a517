import HingeField.Text.Lines

/-!
Texts made of words and lines. Main statements: words are found again behind a
blank each, or with a blank behind each of them; lines that end in their only
line feed are found again in their concatenation; and the text of a number is a
word that reads as the number.
-/

namespace HingeField.Text

/-- A nonempty text without blanks. -/
structure IsWord (text : List Char) : Prop where
  nonempty : text ≠ []
  plain : ∀ c ∈ text, isBlank c = false

section Words

variable {word text : List Char} {words : List (List Char)} {c : Char}

theorem words_cons_blank (blank : isBlank c = true) : Text.words (c :: text) = Text.words text := by
  unfold Text.words pieces
  rw [List.foldr_cons, if_pos blank]
  rfl

/-- Up to the next blank a text is one piece. -/
theorem pieces_append_break (plain : ∀ c ∈ word, isBlank c = false) (blank : isBlank c = true) :
    pieces isBlank (word ++ c :: text) = word :: pieces isBlank text := by
  induction word with
  | nil =>
      unfold pieces
      rw [List.nil_append, List.foldr_cons, if_pos blank]
  | cons first word ih =>
      obtain ⟨firstPlain, plain⟩ := List.forall_mem_cons.mp plain
      have rest := ih plain
      unfold pieces at rest ⊢
      rw [List.cons_append, List.foldr_cons, rest, if_neg (by simp [firstPlain])]

/-- A word ends at the next blank. -/
theorem words_append (isWord : IsWord word)
    (ends : ∃ c rest, text = c :: rest ∧ isBlank c = true) :
    Text.words (word ++ text) = word :: Text.words text := by
  obtain ⟨c, rest, rfl, blank⟩ := ends
  rw [words_cons_blank blank]
  unfold Text.words
  rw [pieces_append_break isWord.plain blank, List.filter_cons_of_pos]
  cases word with
  | nil => exact absurd rfl isWord.nonempty
  | cons first word => rfl

/-- The line that puts a blank before each of some words. -/
def spaced (words : List (List Char)) : List Char :=
  (words.flatMap fun word => ' ' :: word) ++ ['\n']

theorem spaced_cons (word : List Char) (words : List (List Char)) :
    spaced (word :: words) = ' ' :: (word ++ spaced words) := by
  unfold spaced
  rw [List.flatMap_cons, List.append_assoc, List.cons_append]

theorem spaced_starts (words : List (List Char)) :
    ∃ c rest, spaced words = c :: rest ∧ isBlank c = true := by
  cases words with
  | nil => exact ⟨'\n', [], rfl, rfl⟩
  | cons word words => exact ⟨' ', _, spaced_cons word words, rfl⟩

theorem words_spaced (isWord : ∀ word ∈ words, IsWord word) :
    Text.words (spaced words) = words := by
  induction words with
  | nil => rfl
  | cons word words ih =>
      obtain ⟨first, others⟩ := List.forall_mem_cons.mp isWord
      rw [spaced_cons, words_cons_blank rfl, words_append first (spaced_starts words), ih others]

/-- The line that puts a blank between each two of some words. -/
def parted : List (List Char) → List Char
  | [] => ['\n']
  | word :: words => word ++ spaced words

theorem parted_cons (word : List Char) (words : List (List Char)) :
    parted (word :: words) = word ++ spaced words :=
  rfl

theorem words_parted (isWord : ∀ word ∈ words, IsWord word) :
    Text.words (parted words) = words := by
  cases words with
  | nil => rfl
  | cons word words =>
      obtain ⟨first, others⟩ := List.forall_mem_cons.mp isWord
      rw [parted_cons, words_append first (spaced_starts words), words_spaced others]

theorem parted_eq (texts : List String) :
    (String.intercalate " " texts ++ "\n").toList = parted (texts.map String.toList) := by
  rw [String.toList_append, String.toList_intercalate]
  change List.intercalate [' '] _ ++ ['\n'] = _
  generalize texts.map String.toList = words
  cases words with
  | nil => rfl
  | cons word words =>
      induction words generalizing word with
      | nil =>
          rw [List.intercalate_singleton]
          rfl
      | cons next words ih =>
          rw [List.intercalate_cons_cons, List.append_assoc, List.append_assoc, ih next,
            parted_cons, parted_cons, spaced_cons]
          rfl

end Words

section Lines

variable {line : List Char} {lines : List (List Char)}

/-- A line has one line feed, at its end. -/
def IsLine (line : List Char) : Prop :=
  ∃ body, line = body ++ ['\n'] ∧ '\n' ∉ body

theorem terminatedLines_append (isLine : IsLine line) (text : List Char) :
    terminatedLines (line ++ text) = line :: terminatedLines text := by
  obtain ⟨body, rfl, unbroken⟩ := isLine
  induction body with
  | nil =>
      unfold terminatedLines
      rw [List.nil_append, List.singleton_append, List.foldr_cons, if_pos rfl]
  | cons c body ih =>
      have other : c ≠ '\n' := fun same => unbroken (same ▸ List.mem_cons_self)
      have rest := ih fun member => unbroken (List.mem_cons_of_mem c member)
      unfold terminatedLines at rest ⊢
      rw [List.cons_append, List.cons_append, List.foldr_cons, rest, if_neg other]

/-- Lines are found again in the text that they make up. -/
theorem terminatedLines_flatten (isLine : ∀ line ∈ lines, IsLine line) :
    terminatedLines lines.flatten = lines := by
  induction lines with
  | nil => rfl
  | cons line lines ih =>
      obtain ⟨first, others⟩ := List.forall_mem_cons.mp isLine
      rw [List.flatten_cons, terminatedLines_append first, ih others]

theorem IsWord.unbroken {word : List Char} (isWord : IsWord word) : '\n' ∉ word := by
  intro member
  have impossible := isWord.plain _ member
  cases impossible

theorem isLine_spaced {words : List (List Char)} (isWord : ∀ word ∈ words, IsWord word) :
    IsLine (spaced words) := by
  refine ⟨_, rfl, ?_⟩
  rw [List.mem_flatMap]
  rintro ⟨word, member, inside⟩
  rcases List.mem_cons.mp inside with impossible | inWord
  · cases impossible
  · exact (isWord word member).unbroken inWord

theorem isLine_parted {words : List (List Char)} (isWord : ∀ word ∈ words, IsWord word) :
    IsLine (parted words) := by
  cases words with
  | nil => exact ⟨[], rfl, List.not_mem_nil⟩
  | cons word words =>
      obtain ⟨first, others⟩ := List.forall_mem_cons.mp isWord
      obtain ⟨body, line, unbroken⟩ := isLine_spaced others
      refine ⟨word ++ body, ?_, ?_⟩
      · rw [parted_cons, line, List.append_assoc]
      · rw [List.mem_append]
        rintro (inWord | inBody)
        · exact first.unbroken inWord
        · exact unbroken inBody

end Lines

section Numbers

/-- The number that a word of digits stands for. -/
def readNumber (word : List Char) : Option Nat :=
  if word.all Char.isDigit then some (Nat.ofDigitChars 10 word 0) else none

def readNumbers (line : List Char) : Option (List Nat) :=
  (Text.words line).mapM readNumber

theorem isBlank_of_isDigit {c : Char} (digit : c.isDigit = true) : isBlank c = false := by
  obtain ⟨least, greatest⟩ := Char.isDigit_iff_toNat.mp digit
  have first : '0'.toNat = 48 := rfl
  have last : '9'.toNat = 57 := rfl
  unfold isBlank
  simp only [Bool.or_eq_false_iff, Bool.and_eq_false_iff, decide_eq_false_iff_not,
    beq_eq_false_iff_ne]
  omega

theorem isWord_toString (number : Nat) : IsWord (toString number).toList := by
  rw [Nat.toString_eq_repr, Nat.toList_repr]
  exact ⟨Nat.toDigits_ne_nil, fun c member =>
    isBlank_of_isDigit (Nat.isDigit_of_mem_toDigits (by decide) (by decide) member)⟩

theorem readNumber_toString (number : Nat) :
    readNumber (toString number).toList = some number := by
  rw [Nat.toString_eq_repr, Nat.toList_repr]
  have digits : (Nat.toDigits 10 number).all Char.isDigit = true :=
    List.all_eq_true.mpr fun c member =>
      Nat.isDigit_of_mem_toDigits (by decide) (by decide) member
  unfold readNumber
  rw [if_pos digits, Nat.ofDigitChars_ten_toDigits]

/-- Numbers are read back from their line. -/
theorem readNumbers_parted (numbers : List Nat) :
    readNumbers (parted (numbers.map fun number => (toString number).toList)) =
      some numbers := by
  have isWord : ∀ word ∈ numbers.map fun number => (toString number).toList, IsWord word := by
    rintro word member
    obtain ⟨number, _, rfl⟩ := List.mem_map.mp member
    exact isWord_toString number
  unfold readNumbers
  rw [words_parted isWord]
  clear isWord
  induction numbers with
  | nil => rfl
  | cons number numbers ih =>
      rw [List.map_cons, List.mapM_cons, readNumber_toString, ih]
      rfl

end Numbers

end HingeField.Text
