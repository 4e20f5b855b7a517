import HingeField.Proofs.Locality
import HingeField.Register

/-!
Scores of clauses in exact arithmetic, as a single variable moves. A clause
that mentions the variable once at most scores on a line between its scores
at zero and at one. Main statements: so does the sum of the scores of several
clauses, and all of them together gain as much from zero to one as those do
that refer to the variable.
-/

namespace HingeField

/-- The values over all arguments lie on the line with the given values at zero and at one. -/
def IsLine (compute : Rat → Except Fault Rat) (atZero atOne : Rat) : Prop :=
  ∀ x, compute x = .ok ((1 - x) * atZero + x * atOne)

theorem isLine_of_constant {compute : Rat → Except Fault Rat} {value : Rat}
    (constant : ∀ x, compute x = .ok value) : IsLine compute value value := by
  intro x
  have same : (1 - x) * value + x * value = value := by grind
  rw [same]
  exact constant x

theorem IsLine.at_zero {compute : Rat → Except Fault Rat} {atZero atOne : Rat}
    (line : IsLine compute atZero atOne) : compute 0 = .ok atZero := by
  have same : (1 - 0) * atZero + 0 * atOne = atZero := by grind
  rw [line 0, same]

theorem IsLine.at_one {compute : Rat → Except Fault Rat} {atZero atOne : Rat}
    (line : IsLine compute atZero atOne) : compute 1 = .ok atOne := by
  have same : (1 - 1) * atZero + 1 * atOne = atOne := by grind
  rw [line 1, same]

section Sums

theorem Scalar.sum_cons (first : Rat) (rest : List Rat) :
    Scalar.sum (first :: rest) = first + Scalar.sum rest := by
  have from_start (xs : List Rat) (start : Rat) :
      xs.foldl (· + ·) start = start + xs.foldl (· + ·) 0 := by
    induction xs generalizing start with
    | nil => simp only [List.foldl_nil, Rat.add_zero]
    | cons x xs ih =>
        rw [List.foldl_cons, List.foldl_cons, ih (start + x), ih (0 + x)]
        grind
  change rest.foldl (· + ·) (0 + first) = first + rest.foldl (· + ·) 0
  rw [from_start rest (0 + first), Rat.zero_add]

theorem Rule.falsity_cons (first : Rat) (rest : List Rat) :
    Rule.falsity (first :: rest) = (1 - first) * Rule.falsity rest := by
  have from_start (xs : List Rat) (start : Rat) :
      xs.foldl (fun product truth => product * (1 - truth)) start =
        start * xs.foldl (fun product truth => product * (1 - truth)) 1 := by
    induction xs generalizing start with
    | nil => simp only [List.foldl_nil, Rat.mul_one]
    | cons x xs ih =>
        rw [List.foldl_cons, List.foldl_cons, ih (start * (1 - x)), ih (1 * (1 - x))]
        grind
  change rest.foldl (fun product truth => product * (1 - truth)) (1 * (1 - first)) =
    (1 - first) * rest.foldl (fun product truth => product * (1 - truth)) 1
  rw [from_start rest (1 * (1 - first)), Rat.one_mul]

theorem Rule.expectedTotal_cons_eq_ok_iff {rule : Rule Rat} {rules : List (Rule Rat)}
    {arena : Arena Rat} {total : Rat} :
    Rule.expectedTotal (rule :: rules) arena = .ok total ↔
      ∃ first rest, rule.expectedCompatibility arena = .ok first ∧
        Rule.expectedTotal rules arena = .ok rest ∧ total = first + rest :=
  mapM_fold_cons_eq_ok_iff Scalar.sum_cons

end Sums

section Clauses

/-- The falsity of a clause over an arena. -/
def Rule.falsityOver (literals : List Literal) (arena : Arena Rat) : Except Fault Rat := do
  let truths ← literals.mapM (literalTruth arena)
  return falsity truths

theorem Rule.falsityOver_cons_eq_ok_iff {literal : Literal} {literals : List Literal}
    {arena : Arena Rat} {result : Rat} :
    falsityOver (literal :: literals) arena = .ok result ↔
      ∃ truth rest, literalTruth arena literal = .ok truth ∧
        falsityOver literals arena = .ok rest ∧ result = (1 - truth) * rest :=
  mapM_fold_cons_eq_ok_iff falsity_cons

/-- What rules may mention of a variable that moves: its index, but no other name of its cell. -/
def Unaliased (atoms : List Int) (size : Nat) (index : Int) : Prop :=
  ∀ atom ∈ atoms, atom ≠ index - size

variable {arena : Arena Rat} {index : Int}

/-- Positions without the variable do not see it move. -/
theorem agreeAt_set {atoms : List Int} (lower : 0 ≤ index) (upper : index < arena.length)
    (unaliased : Unaliased atoms arena.length index) (absent : index ∉ atoms) (value : Rat) :
    Arena.AgreeAt atoms (arena.set index.toNat value) arena := by
  refine ⟨List.length_set, ?_⟩
  intro atom member
  have apart := unaliased atom member
  have different : atom ≠ index := fun same => absent (same ▸ member)
  apply Arena.read_set_of_unresolved
  unfold resolvePosition?
  split
  · intro same
    have equal := Option.some.inj same
    omega
  · split
    · intro same
      have equal := Option.some.inj same
      omega
    · exact nofun

theorem Rule.falsityOver_isLine {literals : List Literal} (lower : 0 ≤ index)
    (upper : index < arena.length)
    (unaliased : Unaliased (literals.map (·.atom)) arena.length index)
    (distinct : (literals.map (·.atom)).Nodup) {result : Rat}
    (evaluated : falsityOver literals arena = .ok result) :
    ∃ atZero atOne, IsLine (fun x => falsityOver literals (arena.set index.toNat x)) atZero atOne := by
  induction literals generalizing result with
  | nil => exact ⟨1, 1, isLine_of_constant fun _ => rfl⟩
  | cons literal literals ih =>
      obtain ⟨truth, rest, read, others, _⟩ := falsityOver_cons_eq_ok_iff.mp evaluated
      obtain ⟨absent, distinctRest⟩ := List.nodup_cons.mp distinct
      have unaliasedRest : Unaliased (literals.map (·.atom)) arena.length index :=
        fun atom member => unaliased atom (List.mem_cons_of_mem _ member)
      by_cases mentioned : literal.atom = index
      · -- the other literals do not see the variable, this one is the line
        have constant (x : Rat) : falsityOver literals (arena.set index.toNat x) = .ok rest := by
          rw [← others]
          unfold falsityOver
          rw [truths_congr (agreeAt_set lower upper unaliasedRest (mentioned ▸ absent) x)]
        have moved (x : Rat) : Arena.read (arena.set index.toNat x) literal.atom = .ok x := by
          have small : index.toNat < (arena.set index.toNat x).length := by
            rw [List.length_set]
            omega
          rw [mentioned, Arena.read_of_inside lower small, List.getElem_set_self]
        cases sign : literal.positive with
        | true =>
            refine ⟨rest, 0, fun x => falsityOver_cons_eq_ok_iff.mpr ⟨x, rest, ?_, constant x, ?_⟩⟩
            · unfold literalTruth
              rw [moved x, sign]
              rfl
            · grind
        | false =>
            refine ⟨0, rest,
              fun x => falsityOver_cons_eq_ok_iff.mpr ⟨1 - x, rest, ?_, constant x, ?_⟩⟩
            · unfold literalTruth
              rw [moved x, sign]
              rfl
            · grind
      · obtain ⟨atZero, atOne, line⟩ := ih unaliasedRest distinctRest others
        have single : Unaliased [literal.atom] arena.length index := by
          intro atom member
          rw [List.mem_singleton.mp member]
          exact unaliased literal.atom List.mem_cons_self
        have unseen : index ∉ [literal.atom] := fun member =>
          mentioned (List.mem_singleton.mp member).symm
        refine ⟨(1 - truth) * atZero, (1 - truth) * atOne,
          fun x => falsityOver_cons_eq_ok_iff.mpr ⟨truth, _, ?_, line x, ?_⟩⟩
        · rw [← read]
          unfold literalTruth
          rw [(agreeAt_set lower upper single unseen x).2 literal.atom List.mem_cons_self]
        · grind

end Clauses

section Rules

def Rule.IsClause (rule : Rule Rat) : Prop :=
  ∃ literals squared, rule.body = .clause literals squared

theorem Rule.IsClause.isLocal {rule : Rule Rat} (isClause : rule.IsClause) : rule.IsLocal := by
  obtain ⟨literals, squared, form⟩ := isClause
  intro custom other
  rw [form] at other
  cases other

theorem Rule.expectedCompatibility_clause {rule : Rule Rat} {literals : List Literal}
    {squared : Bool} (form : rule.body = .clause literals squared) (arena : Arena Rat) :
    rule.expectedCompatibility arena =
      (falsityOver literals arena).map fun falsity => rule.weight * (1 - falsity) := by
  unfold expectedCompatibility falsityOver
  rw [form]
  simp only
  cases literals.mapM (literalTruth arena) with
  | ok truths => rfl
  | error fault => rfl

/-- A clause that mentions nothing twice, and a variable that moves by its index alone. -/
structure Rule.IsPlain (size : Nat) (index : Int) (rule : Rule Rat) : Prop where
  isClause : rule.IsClause
  distinct : rule.atoms.Nodup
  unaliased : Unaliased rule.atoms size index

variable {arena : Arena Rat} {index : Int}

/-- The score of a clause moves on a line, which is level if the variable is not mentioned. -/
theorem Rule.IsPlain.isLine {rule : Rule Rat} (plain : rule.IsPlain arena.length index)
    (lower : 0 ≤ index) (upper : index < arena.length) {score : Rat}
    (evaluated : rule.expectedCompatibility arena = .ok score) :
    ∃ atZero atOne,
      IsLine (fun x => rule.expectedCompatibility (arena.set index.toNat x)) atZero atOne ∧
        (index ∉ rule.atoms → atOne = atZero) := by
  by_cases mentioned : index ∈ rule.atoms
  · obtain ⟨literals, squared, form⟩ := plain.isClause
    have distinct := plain.distinct
    have unaliased := plain.unaliased
    unfold Rule.atoms at distinct unaliased
    rw [form] at distinct unaliased
    rw [expectedCompatibility_clause form] at evaluated
    cases computed : falsityOver literals arena with
    | error fault =>
        rw [computed] at evaluated
        cases evaluated
    | ok falsity =>
        obtain ⟨atZero, atOne, line⟩ :=
          falsityOver_isLine lower upper unaliased distinct computed
        refine ⟨rule.weight * (1 - atZero), rule.weight * (1 - atOne), ?_,
          fun absent => absurd mentioned absent⟩
        intro x
        simp only [expectedCompatibility_clause form, line x, Except.map]
        congr 1
        grind
  · refine ⟨score, score, isLine_of_constant ?_, fun _ => rfl⟩
    intro x
    rw [plain.isClause.isLocal.expectedCompatibility_congr
      (agreeAt_set lower upper plain.unaliased mentioned x)]
    exact evaluated

/-- From zero to one a variable changes the sum over all clauses by as much as the sum over those
that mention it. -/
theorem Rule.expectedTotal_isLine {rules : List (Rule Rat)}
    (plain : ∀ rule ∈ rules, rule.IsPlain arena.length index) (lower : 0 ≤ index)
    (upper : index < arena.length) {total : Rat}
    (evaluated : expectedTotal rules arena = .ok total) :
    ∃ atZero atOne ownZero ownOne,
      IsLine (fun x => expectedTotal rules (arena.set index.toNat x)) atZero atOne ∧
      IsLine (fun x => expectedTotal (rules.filter fun rule => rule.atoms.contains index)
        (arena.set index.toNat x)) ownZero ownOne ∧
      atOne - atZero = ownOne - ownZero := by
  induction rules generalizing total with
  | nil =>
      have level : IsLine (fun x => expectedTotal [] (arena.set index.toNat x)) 0 0 :=
        isLine_of_constant fun _ => rfl
      exact ⟨0, 0, 0, 0, level, level, rfl⟩
  | cons rule rules ih =>
      obtain ⟨score, rest, scored, others, _⟩ := expectedTotal_cons_eq_ok_iff.mp evaluated
      obtain ⟨scoreZero, scoreOne, scoreLine, level⟩ :=
        (plain rule List.mem_cons_self).isLine lower upper scored
      obtain ⟨atZero, atOne, ownZero, ownOne, line, ownLine, gain⟩ :=
        ih (fun other member => plain other (List.mem_cons_of_mem rule member)) others
      have whole : IsLine (fun x => expectedTotal (rule :: rules) (arena.set index.toNat x))
          (scoreZero + atZero) (scoreOne + atOne) := by
        intro x
        refine expectedTotal_cons_eq_ok_iff.mpr ⟨_, _, scoreLine x, line x, ?_⟩
        grind
      by_cases mentioned : index ∈ rule.atoms
      · have filed : rule.atoms.contains index = true := List.contains_iff_mem.mpr mentioned
        rw [List.filter_cons, if_pos filed]
        refine ⟨_, _, scoreZero + ownZero, scoreOne + ownOne, whole, ?_, ?_⟩
        · intro x
          refine expectedTotal_cons_eq_ok_iff.mpr ⟨_, _, scoreLine x, ownLine x, ?_⟩
          grind
        · grind
      · have unfiled : ¬rule.atoms.contains index = true := fun contained =>
          mentioned (List.contains_iff_mem.mp contained)
        rw [List.filter_cons, if_neg unfiled]
        have same := level mentioned
        refine ⟨_, _, ownZero, ownOne, whole, ownLine, ?_⟩
        grind

end Rules

end HingeField
