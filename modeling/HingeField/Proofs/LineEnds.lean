import HingeField.Proofs.Wording

/-!
Line ends of several kinds. A line feed, a carriage return, and a carriage
return with a line feed behind it end a line, and each is read as a line feed.
Main statement: a text has exactly one list of lines in this sense, the one
that is read from it.
-/

namespace HingeField.Text

/-- What ends a line in front of the rest of a text. A carriage return takes the line feed behind it
along. -/
inductive IsLineEnding : List Char → List Char → Prop where
  | feed (rest : List Char) : IsLineEnding ['\n'] rest
  | both (rest : List Char) : IsLineEnding ['\r', '\n'] rest
  | lone {rest : List Char} (alone : rest.head? ≠ some '\n') : IsLineEnding ['\r'] rest

/-- Nothing in it ends a line. -/
def IsUnended (body : List Char) : Prop :=
  ∀ c ∈ body, c ≠ '\n' ∧ c ≠ '\r'

/-- The lines of a text, each with a line feed for its end. What stands behind the last end is a
line without one, unless it is empty. -/
inductive HasLines : List Char → List (List Char) → Prop where
  | none : HasLines [] []
  | last {body : List Char} (unended : IsUnended body) (nonempty : body ≠ []) :
      HasLines body [body]
  | ended {body ending rest : List Char} {lines : List (List Char)} (unended : IsUnended body)
      (ends : IsLineEnding ending rest) (others : HasLines rest lines) :
      HasLines (body ++ (ending ++ rest)) ((body ++ ['\n']) :: lines)

theorem isUnended_cons_iff {c : Char} {body : List Char} :
    IsUnended (c :: body) ↔ (c ≠ '\n' ∧ c ≠ '\r') ∧ IsUnended body :=
  List.forall_mem_cons

section Unification

/-- Line ends unified in a text that follows a given character. -/
def unifiedAfter (previous : Option Char) (text : List Char) : List Char :=
  (text.zip (previous :: text.map some)).filterMap fun (c, before) =>
    if c = '\n' ∧ before = some '\r' then none
    else if c = '\r' then some '\n'
    else some c

theorem unifiedAfter_none (text : List Char) : unifiedAfter none text = unifyLineEnds text :=
  rfl

theorem unifiedAfter_cons (previous : Option Char) (c : Char) (text : List Char) :
    unifiedAfter previous (c :: text) =
      if c = '\n' ∧ previous = some '\r' then unifiedAfter (some c) text
      else (if c = '\r' then '\n' else c) :: unifiedAfter (some c) text := by
  unfold unifiedAfter
  rw [List.map_cons, List.zip_cons_cons, List.filterMap_cons]
  by_cases swallowed : c = '\n' ∧ previous = some '\r'
  · simp only [if_pos swallowed]
  · simp only [if_neg swallowed]
    by_cases returns : c = '\r'
    · simp only [if_pos returns]
    · simp only [if_neg returns]

/-- Only a carriage return in front of a line feed matters to what follows it. -/
theorem unifiedAfter_eq {previous : Option Char} {text : List Char}
    (apart : previous = some '\r' → text.head? ≠ some '\n') :
    unifiedAfter previous text = unifyLineEnds text := by
  cases text with
  | nil => rfl
  | cons c text =>
      have unswallowed : ¬(c = '\n' ∧ previous = some '\r') := by
        rintro ⟨rfl, returned⟩
        exact apart returned rfl
      have first : ¬(c = '\n' ∧ (none : Option Char) = some '\r') := by
        rintro ⟨_, impossible⟩
        cases impossible
      rw [← unifiedAfter_none, unifiedAfter_cons, unifiedAfter_cons, if_neg unswallowed,
        if_neg first]

theorem unifyLineEnds_append {body : List Char} (unended : IsUnended body) (text : List Char) :
    unifyLineEnds (body ++ text) = body ++ unifyLineEnds text := by
  induction body with
  | nil => rfl
  | cons c body ih =>
      obtain ⟨⟨notFeed, notReturn⟩, others⟩ := isUnended_cons_iff.mp unended
      rw [List.cons_append, ← unifiedAfter_none, unifiedAfter_cons,
        if_neg (fun swallowed => notFeed swallowed.1), if_neg notReturn, unifiedAfter_eq, ih others,
        List.cons_append]
      intro returned
      exact absurd (Option.some.inj returned) notReturn

theorem unifyLineEnds_ending {ending rest : List Char} (ends : IsLineEnding ending rest) :
    unifyLineEnds (ending ++ rest) = '\n' :: unifyLineEnds rest := by
  cases ends with
  | feed =>
      have after : unifiedAfter (some '\n') rest = unifyLineEnds rest :=
        unifiedAfter_eq fun impossible => absurd impossible (by decide)
      change unifiedAfter none ('\n' :: rest) = _
      rw [unifiedAfter_cons, after]
      rfl
  | both =>
      have after : unifiedAfter (some '\n') rest = unifyLineEnds rest :=
        unifiedAfter_eq fun impossible => absurd impossible (by decide)
      change unifiedAfter none ('\r' :: '\n' :: rest) = _
      rw [unifiedAfter_cons, unifiedAfter_cons, after]
      rfl
  | lone alone =>
      have after : unifiedAfter (some '\r') rest = unifyLineEnds rest :=
        unifiedAfter_eq fun _ => alone
      change unifiedAfter none ('\r' :: rest) = _
      rw [unifiedAfter_cons, after]
      rfl

end Unification

section Lines

variable {text : List Char} {lines : List (List Char)}

theorem terminatedLines_of_unended {body : List Char} (unended : IsUnended body)
    (nonempty : body ≠ []) : terminatedLines body = [body] := by
  induction body with
  | nil => exact absurd rfl nonempty
  | cons c body ih =>
      obtain ⟨⟨notFeed, _⟩, others⟩ := isUnended_cons_iff.mp unended
      cases body with
      | nil => exact if_neg notFeed
      | cons next body =>
          have rest := ih others (List.cons_ne_nil next body)
          unfold terminatedLines at rest ⊢
          rw [List.foldr_cons, rest, if_neg notFeed]

theorem HasLines.eq (hasLines : HasLines text lines) :
    terminatedLines (unifyLineEnds text) = lines := by
  induction hasLines with
  | none => rfl
  | last unended nonempty =>
      have unchanged := unifyLineEnds_append unended []
      rw [List.append_nil] at unchanged
      rw [unchanged]
      change terminatedLines (_ ++ []) = _
      rw [List.append_nil]
      exact terminatedLines_of_unended unended nonempty
  | @ended body ending rest lines unended ends _ ih =>
      have isLine : IsLine (body ++ ['\n']) := by
        refine ⟨body, rfl, ?_⟩
        intro member
        exact (unended '\n' member).1 rfl
      rw [unifyLineEnds_append unended, unifyLineEnds_ending ends, ← ih,
        ← terminatedLines_append isLine, List.append_assoc, List.singleton_append]

/-- A character in front that ends no line belongs to the first line. -/
theorem HasLines.exists_cons {c : Char} (plain : c ≠ '\n' ∧ c ≠ '\r')
    (hasLines : HasLines text lines) : ∃ others, HasLines (c :: text) others := by
  cases hasLines with
  | none =>
      refine ⟨_, .last ?_ (List.cons_ne_nil c [])⟩
      exact isUnended_cons_iff.mpr ⟨plain, fun _ member => absurd member List.not_mem_nil⟩
  | last unended =>
      exact ⟨_, .last (isUnended_cons_iff.mpr ⟨plain, unended⟩) (List.cons_ne_nil c _)⟩
  | @ended body ending rest _ unended ends others =>
      have longer : IsUnended (c :: body) := isUnended_cons_iff.mpr ⟨plain, unended⟩
      exact ⟨_, .ended longer ends others⟩

theorem exists_hasLines : (text : List Char) → ∃ lines, HasLines text lines
  | [] => ⟨[], .none⟩
  | c :: rest => by
      obtain ⟨lines, others⟩ := exists_hasLines rest
      have unended : IsUnended [] := fun _ member => absurd member List.not_mem_nil
      by_cases feeds : c = '\n'
      · subst feeds
        exact ⟨_, .ended unended (.feed rest) others⟩
      by_cases returns : c = '\r'
      · subst returns
        by_cases alone : rest.head? = some '\n'
        · -- the feed belongs to the return, and the lines are those behind it
          obtain ⟨behind, rfl⟩ := List.head?_eq_some_iff.mp alone
          obtain ⟨lines, others⟩ := exists_hasLines behind
          exact ⟨_, .ended unended (.both behind) others⟩
        · exact ⟨_, .ended unended (.lone alone) others⟩
      · exact others.exists_cons ⟨feeds, returns⟩

theorem hasLines_iff : HasLines text lines ↔ terminatedLines (unifyLineEnds text) = lines := by
  constructor
  · exact HasLines.eq
  · intro same
    obtain ⟨others, hasLines⟩ := exists_hasLines text
    rw [← same, hasLines.eq]
    exact hasLines

end Lines

end HingeField.Text
