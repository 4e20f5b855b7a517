import HingeField.Proofs.Locality
import HingeField.Proofs.Preservation
import HingeField.Proofs.Sequence
import HingeField.Rounding.Pool

/-!
The parts of a greedy pass. Main statements: before its first decision a pass
softens the values of the distinct variables and leaves the other values alone,
or it fails and has changed nothing; it decides the variables in some order,
each once; the score of a variable is computed from the arena alone; decisions
succeed one after the other, and so do components; and the outcome can be read
if the preparation has succeeded.
-/

namespace HingeField

theorem Model.keeps_writeValue {α : Type} {kept : Model α → Prop} {value : α}
    (keeps : ∀ model offset, kept model → kept { model with values := model.values.set offset value })
    (index : Int) : Effect.Keeps kept (Model.writeValue index value) := by
  intro model holds
  unfold Model.writeValue
  simp only [Effect.run_bind, Effect.run_get]
  unfold Arena.write
  cases resolvePosition? model.values.length index with
  | none => exact holds
  | some offset => exact keeps model offset holds

namespace Rounding

variable {α : Type} {indices : List Int} {model finish : Model α}

section Readings

theorem valuesAt_eq_ok_iff {values : List α} :
    valuesAt indices model = .ok values finish ↔
      indices.mapM model.values.read = .ok values ∧ finish = model := by
  unfold valuesAt
  simp only [Effect.run_bind, Effect.run_get, Effect.ofExcept_eq_ok_iff]

theorem valuesAtWords_eq_ok_iff {values : List α} :
    valuesAtWords indices model = .ok values finish ↔
      indices.all isWord = true ∧ indices.mapM model.values.read = .ok values ∧ finish = model := by
  unfold valuesAtWords
  by_cases areWords : indices.all isWord = true
  · rw [if_pos areWords]
    simp only [valuesAt_eq_ok_iff, areWords, true_and]
  · rw [if_neg areWords]
    simp only [Effect.run_bind, Effect.run_throw, reduceCtorEq, areWords, false_and]

theorem valuesAtBits_of_words (areWords : indices.all isWord = true) :
    (valuesAtBits indices : Action α (List α)) = valuesAt indices := by
  unfold valuesAtBits
  rw [if_pos areWords]

theorem keeps_valuesAtBits (kept : Model α → Prop) :
    Effect.Keeps kept (valuesAtBits indices) := by
  unfold valuesAtBits valuesAt
  split
  · exact Effect.keeps_bind Effect.keeps_get fun _ => Effect.keeps_ofExcept _
  · split
    · exact Effect.keeps_bind Effect.keeps_get fun _ => Effect.keeps_ofExcept _
    · exact Effect.keeps_throw _

theorem resolves_of_mapM_read {arena : Arena α} {values : List α}
    (read : indices.mapM arena.read = .ok values) : Resolves arena.length indices := by
  intro index member
  obtain ⟨place, listed⟩ := List.getElem?_of_mem member
  obtain ⟨value, _, found⟩ := getElem?_of_mapM read listed
  obtain ⟨offset, resolved, _⟩ := Arena.read_eq_ok_iff.mp found
  exact ⟨offset, resolved⟩

theorem mapM_read_of_resolves {arena : Arena α} (resolves : Resolves arena.length indices) :
    ∃ values, indices.mapM arena.read = .ok values := by
  apply mapM_total
  intro index member
  obtain ⟨offset, resolved⟩ := resolves index member
  exact ⟨_, Arena.read_of_resolved resolved (resolvePosition?_lt resolved)⟩

theorem valuesAtBits_error {fault : Fault}
    (failure : valuesAtBits indices model = .error fault finish) : finish = model :=
  (keeps_valuesAtBits (· = model)).of_error rfl failure

theorem valuesAtWords_error {fault : Fault}
    (failure : valuesAtWords indices model = .error fault finish) : finish = model := by
  unfold valuesAtWords at failure
  by_cases areWords : indices.all isWord = true
  · rw [if_pos areWords] at failure
    have keeps : Effect.Keeps (· = model) (valuesAt indices) :=
      Effect.keeps_bind Effect.keeps_get fun _ => Effect.keeps_ofExcept _
    exact keeps.of_error rfl failure
  · rw [if_neg areWords] at failure
    cases failure
    rfl

theorem valuesAt_again {values : List α} {other : Model α}
    (read : valuesAt indices model = .ok values finish)
    (sameLength : other.values.length = model.values.length) :
    ∃ others, valuesAt indices other = .ok others other := by
  have resolves := resolves_of_mapM_read (valuesAt_eq_ok_iff.mp read).1
  rw [← sameLength] at resolves
  obtain ⟨others, again⟩ := mapM_read_of_resolves resolves
  exact ⟨others, valuesAt_eq_ok_iff.mpr ⟨again, rfl⟩⟩

/-- Whether reading by bits succeeds depends on the size of the arena alone. -/
theorem valuesAtBits_again {values : List α} {other : Model α}
    (read : valuesAtBits indices model = .ok values finish)
    (sameLength : other.values.length = model.values.length) :
    ∃ others, valuesAtBits indices other = .ok others other := by
  unfold valuesAtBits at read ⊢
  split at read
  · rename_i areWords
    rw [if_pos areWords]
    exact valuesAt_again read sameLength
  · rename_i notWords
    rw [if_neg notWords]
    split at read
    · rename_i overWords
      rw [if_pos overWords]
      exact valuesAt_again read sameLength
    · cases read

theorem mapM_read_of_inside {arena : Arena α}
    (inside : ∀ index ∈ indices, 0 ≤ index ∧ index < arena.length) :
    ∃ values, indices.mapM arena.read = .ok values :=
  mapM_read_of_resolves (resolves_of_inside inside)

end Readings

variable [Scalar α]

section Preparation

theorem soften_eq_ok_iff :
    soften indices model = .ok () finish ↔
      ∃ values, valuesAtWords indices model = .ok values model ∧
        ((indices.zip values).forM fun (index, value) =>
          Model.writeValue index (Scalar.softened value)) model = .ok () finish := by
  unfold soften
  rw [Effect.bind_eq_ok_iff]
  constructor
  · rintro ⟨values, middle, found, written⟩
    have same := (valuesAtWords_eq_ok_iff.mp found).2.2
    subst same
    exact ⟨values, found, written⟩
  · rintro ⟨values, found, written⟩
    exact ⟨values, model, found, written⟩

/-- A model whose values at the listed variables have been softened. -/
structure Softened (model : Model α) (indices : List Int) (finish : Model α) : Prop where
  unchanged : finish = { model with values := finish.values }
  sameLength : finish.values.length = model.values.length
  listed : ∀ index ∈ indices, ∀ offset, resolvePosition? model.values.length index = some offset →
    finish.values[offset]? = (model.values[offset]?).map Scalar.softened
  elsewhere : ∀ offset,
    (∀ index ∈ indices, resolvePosition? model.values.length index ≠ some offset) →
    finish.values[offset]? = model.values[offset]?

/-- Storing the softened forms of values read before. A cell that is stored twice is stored with
the same value, because both indices have read the same one. -/
theorem store_softened {origin : Model α} {pairs : List (Int × α)}
    (read : ∀ pair ∈ pairs, origin.values.read pair.1 = .ok pair.2)
    (sameLength : model.values.length = origin.values.length) :
    ∃ values,
      (pairs.forM fun (index, value) => Model.writeValue index (Scalar.softened value)) model =
          .ok () { model with values } ∧
        values.length = origin.values.length ∧
        ∀ offset,
          ((∃ pair ∈ pairs, resolvePosition? origin.values.length pair.1 = some offset) ∧
            values[offset]? = (origin.values[offset]?).map Scalar.softened) ∨
          ((∀ pair ∈ pairs, resolvePosition? origin.values.length pair.1 ≠ some offset) ∧
            values[offset]? = model.values[offset]?) := by
  induction pairs generalizing model with
  | nil =>
      refine ⟨model.values, rfl, sameLength, fun offset => Or.inr ⟨?_, rfl⟩⟩
      exact fun _ member => absurd member List.not_mem_nil
  | cons pair rest ih =>
      obtain ⟨index, value⟩ := pair
      obtain ⟨cell, resolved, stands⟩ := Arena.read_eq_ok_iff.mp (read _ List.mem_cons_self)
      have here : resolvePosition? model.values.length index = some cell := by
        rw [sameLength]
        exact resolved
      have written := Model.writeValue_of_resolved here (Scalar.softened value)
      have stillSame : (model.values.set cell (Scalar.softened value)).length =
          origin.values.length := List.length_set.trans sameLength
      obtain ⟨values, stored, length, cells⟩ :=
        @ih { model with values := model.values.set cell (Scalar.softened value) }
          (fun other member => read other (List.mem_cons_of_mem _ member)) stillSame
      refine ⟨values, Effect.bind_eq_ok_iff.mpr ⟨(), _, written, stored⟩, length, ?_⟩
      intro offset
      rcases cells offset with ⟨⟨other, member, names⟩, softened⟩ | ⟨unnamed, kept⟩
      · exact Or.inl ⟨⟨other, List.mem_cons_of_mem _ member, names⟩, softened⟩
      by_cases same : cell = offset
      · subst same
        refine Or.inl ⟨⟨_, List.mem_cons_self, resolved⟩, ?_⟩
        rw [kept, stands]
        exact List.getElem?_set_self (resolvePosition?_lt here)
      · refine Or.inr ⟨?_, kept.trans (List.getElem?_set_ne same)⟩
        intro other member
        rcases List.mem_cons.mp member with rfl | member
        · intro names
          exact same (Option.some.inj (resolved.symm.trans names))
        · exact unnamed other member

theorem soften_of_values {values : List α} (areWords : indices.all isWord = true)
    (read : indices.mapM model.values.read = .ok values) :
    ∃ finish, soften indices model = .ok () finish ∧ Softened model indices finish := by
  have fromArena (pair : Int × α) (member : pair ∈ indices.zip values) :
      model.values.read pair.1 = .ok pair.2 := by
    obtain ⟨place, stands⟩ := List.getElem?_of_mem member
    obtain ⟨listed, value⟩ := List.getElem?_zip_eq_some.mp stands
    obtain ⟨result, found, computed⟩ := getElem?_of_mapM read listed
    cases value.symm.trans found
    exact computed
  have paired (index : Int) (member : index ∈ indices) : ∃ pair ∈ indices.zip values,
      pair.1 = index := by
    have keys : (indices.zip values).map (·.1) = indices :=
      List.map_fst_zip (Nat.le_of_eq (length_of_mapM read).symm)
    rw [← keys] at member
    exact List.mem_map.mp member
  obtain ⟨stored, written, length, cells⟩ := store_softened fromArena rfl
  refine ⟨_, soften_eq_ok_iff.mpr ⟨values, valuesAtWords_eq_ok_iff.mpr ⟨areWords, read, rfl⟩,
    written⟩, rfl, length, ?_, ?_⟩
  · intro index member offset names
    rcases cells offset with ⟨_, softened⟩ | ⟨unnamed, _⟩
    · exact softened
    · obtain ⟨pair, listed, rfl⟩ := paired index member
      exact absurd names (unnamed pair listed)
  · intro offset unlisted
    rcases cells offset with ⟨⟨pair, listed, names⟩, _⟩ | ⟨_, kept⟩
    · exact absurd names (unlisted pair.1 (List.of_mem_zip listed).1)
    · exact kept

/-- Softening softens the listed variables, or it fails before it changes anything. -/
theorem soften_cases (indices : List Int) (model : Model α) :
    (∃ finish, soften indices model = .ok () finish ∧ Softened model indices finish ∧
        indices.all isWord = true ∧ Resolves model.values.length indices) ∨
      ∃ fault, soften indices model = .error fault model := by
  cases reading : valuesAtWords indices model with
  | ok values middle =>
      obtain ⟨areWords, read, _⟩ := valuesAtWords_eq_ok_iff.mp reading
      obtain ⟨finish, success, softened⟩ := soften_of_values areWords read
      exact Or.inl ⟨finish, success, softened, areWords, resolves_of_mapM_read read⟩
  | error fault middle =>
      obtain rfl := valuesAtWords_error reading
      exact Or.inr ⟨fault, Effect.bind_eq_error_iff.mpr (Or.inl reading)⟩

/-- Softening keeps what storing the softened form of an arena's value keeps. -/
theorem soften_keeps (kept : Model α → Prop)
    (keeps : ∀ value ∈ model.values, ∀ current offset, kept current →
      kept { current with values := current.values.set offset (Scalar.softened value) })
    (holds : kept model) (softened : soften indices model = .ok () finish) : kept finish := by
  obtain ⟨values, found, written⟩ := soften_eq_ok_iff.mp softened
  have fromArena (value : α) (member : value ∈ values) : value ∈ model.values := by
    obtain ⟨index, _, read⟩ :=
      exists_of_mem_mapM (valuesAtWords_eq_ok_iff.mp found).2.1 member
    exact Arena.mem_of_read read
  refine Effect.Keeps.of_ok (Effect.keeps_forM ?_) holds written
  rintro ⟨index, value⟩ member
  exact Model.keeps_writeValue (keeps value (fromArena value (List.of_mem_zip member).2)) index

theorem length_of_soften (softened : soften indices model = .ok () finish) :
    finish.values.length = model.values.length := by
  apply soften_keeps (fun current => current.values.length = model.values.length) _ rfl softened
  intro value _ current offset same
  exact List.length_set.trans same

theorem perm_of_order {ordered : List Int} (success : order indices model = .ok ordered finish) :
    ordered.Perm indices ∧ finish = model := by
  unfold order at success
  obtain ⟨values, middle, found, sorted⟩ := Effect.bind_eq_ok_iff.mp success
  obtain ⟨_, read, rfl⟩ := valuesAtWords_eq_ok_iff.mp found
  cases sorted
  refine ⟨?_, rfl⟩
  have sameLength : indices.length ≤ values.length := Nat.le_of_eq (length_of_mapM read).symm
  have keys : (indices.zip values).map (·.1) = indices := List.map_fst_zip sameLength
  exact ((List.mergeSort_perm _ _).map _).trans (List.Perm.of_eq keys)

theorem words_of_soften (softened : soften indices model = .ok () finish) :
    indices.all isWord = true := by
  obtain ⟨_, found, _⟩ := soften_eq_ok_iff.mp softened
  exact (valuesAtWords_eq_ok_iff.mp found).1

/-- The parts of a preparation that succeeds. -/
theorem parts_of_prepare {starting : List α} {ordered : List Int}
    (success : prepare indices model = .ok (starting, ordered) finish) :
    soften indices.eraseDups model = .ok () finish ∧ ordered.Perm indices.eraseDups := by
  unfold prepare at success
  obtain ⟨values, first, found, success⟩ := Effect.bind_eq_ok_iff.mp success
  obtain ⟨_, second, softened, success⟩ := Effect.bind_eq_ok_iff.mp success
  obtain ⟨sorted, third, decided, success⟩ := Effect.bind_eq_ok_iff.mp success
  cases success
  obtain ⟨perm, rfl⟩ := perm_of_order decided
  have unchanged : first = model :=
    (keeps_valuesAtBits (· = model)).of_ok rfl found
  rw [unchanged] at softened
  exact ⟨softened, perm⟩

/-- What can be softened can be prepared. -/
theorem prepare_of_resolves (resolves : Resolves model.values.length indices)
    (softened : soften indices.eraseDups model = .ok () finish) :
    ∃ starting ordered, prepare indices model = .ok (starting, ordered) finish := by
  have areWords := words_of_soften softened
  have listed : Resolves model.values.length indices.eraseDups :=
    fun index member => resolves index (List.mem_eraseDups.mp member)
  obtain ⟨starting, before⟩ := mapM_read_of_resolves listed
  rw [← length_of_soften softened] at listed
  obtain ⟨values, after⟩ := mapM_read_of_resolves listed
  have bits : valuesAtBits indices.eraseDups model = .ok starting model := by
    rw [valuesAtBits_of_words areWords]
    exact valuesAt_eq_ok_iff.mpr ⟨before, rfl⟩
  have words : valuesAtWords indices.eraseDups finish = .ok values finish :=
    valuesAtWords_eq_ok_iff.mpr ⟨areWords, after, rfl⟩
  have sorted : ∃ ordered, order indices.eraseDups finish = .ok ordered finish :=
    ⟨_, Effect.bind_eq_ok_iff.mpr ⟨values, finish, words, rfl⟩⟩
  obtain ⟨ordered, ordering⟩ := sorted
  exact ⟨starting, ordered, Effect.bind_eq_ok_iff.mpr ⟨starting, model, bits,
    Effect.bind_eq_ok_iff.mpr ⟨(), finish, softened,
      Effect.bind_eq_ok_iff.mpr ⟨ordered, finish, ordering, rfl⟩⟩⟩⟩

theorem prepare_of_soften (inside : ∀ index ∈ indices, 0 ≤ index ∧ index < model.values.length)
    (softened : soften indices.eraseDups model = .ok () finish) :
    ∃ starting ordered, prepare indices model = .ok (starting, ordered) finish :=
  prepare_of_resolves (resolves_of_inside inside) softened

/-- The outcome is settled by the arena, and there is one if the variables are in it. -/
theorem outcomeFrom_eq (starting : List α) (model : Model α)
    (areWords : indices.all isWord = true)
    (inside : ∀ index ∈ indices, 0 ≤ index ∧ index < model.values.length) :
    ∃ outcome, ∀ other : Model α, other.values = model.values →
      outcomeFrom indices starting other = .ok outcome other := by
  obtain ⟨values, read⟩ := mapM_read_of_inside inside
  have found (other : Model α) (same : other.values = model.values) :
      valuesAtBits indices other = .ok values other := by
    rw [valuesAtBits_of_words areWords]
    exact valuesAt_eq_ok_iff.mpr ⟨same ▸ read, rfl⟩
  have exists_outcome : ∃ outcome, outcomeFrom indices starting model = .ok outcome model :=
    ⟨_, Effect.bind_eq_ok_iff.mpr ⟨values, model, found model rfl, rfl⟩⟩
  obtain ⟨outcome, ended⟩ := exists_outcome
  refine ⟨outcome, ?_⟩
  intro other same
  obtain ⟨_, _, again, ending⟩ := Effect.bind_eq_ok_iff.mp ended
  cases (found model rfl).symm.trans again
  cases ending
  exact Effect.bind_eq_ok_iff.mpr ⟨values, other, found other same, rfl⟩

theorem outcomeFrom_of_prepare {starting : List α} {ordered : List Int} {prepared : Model α}
    (inside : ∀ index ∈ indices, 0 ≤ index ∧ index < model.values.length)
    (preparation : prepare indices model = .ok (starting, ordered) prepared)
    (sameLength : finish.values.length = model.values.length) :
    ∃ outcome, ∀ other : Model α, other.values = finish.values →
      outcomeFrom indices.eraseDups starting other = .ok outcome other := by
  apply outcomeFrom_eq starting finish (words_of_soften (parts_of_prepare preparation).1)
  intro index member
  rw [sameLength]
  exact inside index (List.mem_eraseDups.mp member)

/-- What a preparation comes to when it succeeds. -/
structure Prepared (model : Model α) (indices : List Int) (starting : List α)
    (ordered : List Int) (finish : Model α) : Prop where
  read : valuesAtBits indices.eraseDups model = .ok starting model
  softened : Softened model indices.eraseDups finish
  ordering : order indices.eraseDups finish = .ok ordered finish
  areWords : indices.eraseDups.all isWord = true
  resolves : Resolves model.values.length indices.eraseDups

theorem Prepared.perm {starting : List α} {ordered : List Int}
    (prepared : Prepared model indices starting ordered finish) :
    ordered.Perm indices.eraseDups :=
  (perm_of_order prepared.ordering).1

/-- A preparation that fails has changed nothing. -/
theorem prepare_cases (indices : List Int) (model : Model α) :
    (∃ starting ordered finish, prepare indices model = .ok (starting, ordered) finish ∧
        Prepared model indices starting ordered finish) ∨
      ∃ fault, prepare indices model = .error fault model := by
  cases reading : valuesAtBits indices.eraseDups model with
  | error fault middle =>
      obtain rfl := valuesAtBits_error reading
      exact Or.inr ⟨fault, Effect.bind_eq_error_iff.mpr (Or.inl reading)⟩
  | ok starting middle =>
      obtain rfl : middle = model := (keeps_valuesAtBits (· = model)).of_ok rfl reading
      rcases soften_cases indices.eraseDups middle with
        ⟨finish, success, softened, areWords, resolves⟩ | ⟨fault, failure⟩
      · have still : Resolves finish.values.length indices.eraseDups := by
          rw [softened.sameLength]
          exact resolves
        obtain ⟨values, again⟩ := mapM_read_of_resolves still
        have words : valuesAtWords indices.eraseDups finish = .ok values finish :=
          valuesAtWords_eq_ok_iff.mpr ⟨areWords, again, rfl⟩
        have sorted : ∃ ordered, order indices.eraseDups finish = .ok ordered finish :=
          ⟨_, Effect.bind_eq_ok_iff.mpr ⟨values, finish, words, rfl⟩⟩
        obtain ⟨ordered, ordering⟩ := sorted
        refine Or.inl
          ⟨starting, ordered, finish, ?_, reading, softened, ordering, areWords, resolves⟩
        exact Effect.bind_eq_ok_iff.mpr ⟨starting, middle, reading,
          Effect.bind_eq_ok_iff.mpr ⟨(), finish, success,
            Effect.bind_eq_ok_iff.mpr ⟨ordered, finish, ordering, rfl⟩⟩⟩
      · exact Or.inr ⟨fault, Effect.bind_eq_error_iff.mpr (Or.inr ⟨starting, middle, reading,
          Effect.bind_eq_error_iff.mpr (Or.inl failure)⟩)⟩

/-- After a preparation the outcome can be read from any arena of the same size. -/
theorem outcomeFrom_total {starting : List α} {other : Model α}
    (read : valuesAtBits indices model = .ok starting model)
    (sameLength : other.values.length = model.values.length) :
    ∃ outcome, outcomeFrom indices starting other = .ok outcome other := by
  obtain ⟨values, again⟩ := valuesAtBits_again read sameLength
  exact ⟨_, Effect.bind_eq_ok_iff.mpr ⟨values, other, again, rfl⟩⟩

end Preparation

section Decisions

variable {register : Register α} {tieBreak : TieBreak}

theorem score_eq (register : Register α) (index : Int) (model : Model α) :
    score register index model =
      Effect.ofExcept (Rule.expectedTotal (register.rulesFor index) model.values) model := by
  unfold score Rule.expectedTotal
  simp only [Effect.run_bind, Effect.run_get]
  cases (register.rulesFor index).mapM fun rule => rule.expectedCompatibility model.values with
  | ok scores => rfl
  | error fault => rfl

theorem decideAll_cons_eq_ok_iff {index : Int} {rest : List Int} :
    decideAll register tieBreak (index :: rest) model = .ok () finish ↔
      ∃ best middle, decideVariable register tieBreak index model = .ok best middle ∧
        decideAll register tieBreak rest middle = .ok () finish := by
  change ((do let _ ← decideVariable register tieBreak index) >>= fun _ =>
    decideAll register tieBreak rest) model = _ ↔ _
  rw [Effect.bind_eq_ok_iff]
  constructor
  · rintro ⟨_, middle, first, others⟩
    obtain ⟨best, between, decided, same⟩ := Effect.bind_eq_ok_iff.mp first
    cases same
    exact ⟨best, middle, decided, others⟩
  · rintro ⟨best, middle, decided, others⟩
    exact ⟨(), middle, Effect.bind_eq_ok_iff.mpr ⟨best, middle, decided, rfl⟩, others⟩

/-- A component that fails does not stop the others, but the pass fails in the end. -/
theorem decideComponents_cons_eq_ok_iff {members : List Int} {components : List (List Int)} :
    decideComponents register tieBreak (members :: components) model = .ok () finish ↔
      ∃ middle, decideAll register tieBreak members model = .ok () middle ∧
        decideComponents register tieBreak components middle = .ok () finish := by
  let decided := fun listed => Effect.outcome (decideAll register tieBreak listed)
  change ((members :: components).mapM decided >>= fun outcomes =>
    outcomes.forM Effect.ofExcept) model = _ ↔
      ∃ middle, _ ∧ (components.mapM decided >>= fun outcomes =>
        outcomes.forM Effect.ofExcept) middle = _
  simp only [Effect.bind_eq_ok_iff, List.mapM_cons]
  constructor
  · rintro ⟨_, after, ⟨first, middle, head, rest, between, tail, same⟩, checked⟩
    cases same
    obtain ⟨_, _, firstOk, others⟩ := Effect.bind_eq_ok_iff.mp checked
    obtain ⟨rfl, rfl⟩ := Effect.ofExcept_eq_ok_iff.mp firstOk
    exact ⟨middle, Effect.outcome_eq_ok_iff.mp head, rest, _, tail, others⟩
  · rintro ⟨middle, head, rest, between, tail, others⟩
    exact ⟨.ok () :: rest, between,
      ⟨.ok (), middle, Effect.outcome_eq_ok_iff.mpr head, rest, between, tail, rfl⟩,
      Effect.bind_eq_ok_iff.mpr ⟨(), between, rfl, others⟩⟩

end Decisions

section Passes

/-- The decisions of a pass, in a single order or component by component. -/
def decideBy (register : Register α) (tieBreak : TieBreak) (workers : Int) (ordered : List Int) :
    Action α Unit :=
  if workers ≤ 1 then decideAll register tieBreak ordered
  else decideComponents register tieBreak (register.components ordered)

theorem decideBy_one (register : Register α) (tieBreak : TieBreak) (ordered : List Int) :
    decideBy register tieBreak 1 ordered = decideAll register tieBreak ordered :=
  if_pos (Int.le_refl 1)

theorem greedy_eq (register : Register α) (tieBreak : TieBreak) (workers : Int)
    (indices : List Int) :
    greedy register tieBreak workers indices =
      (prepare indices >>= fun prepared => decideBy register tieBreak workers prepared.2 >>=
        fun _ => outcomeFrom indices.eraseDups prepared.1) := by
  unfold greedy prepare decideBy
  by_cases single : workers ≤ 1
  · simp only [single, if_true, bind_assoc, pure_bind]
  · simp only [single, if_false, bind_assoc, pure_bind]

variable {register : Register α} {tieBreak : TieBreak} {workers : Int} {outcome : Outcome α}

theorem prepare_of_greedy
    (success : greedy register tieBreak workers indices model = .ok outcome finish) :
    ∃ parts prepared, prepare indices model = .ok parts prepared := by
  rw [greedy_eq] at success
  obtain ⟨parts, prepared, preparation, _⟩ := Effect.bind_eq_ok_iff.mp success
  exact ⟨parts, prepared, preparation⟩

theorem greedy_eq_ok_iff {starting : List α} {ordered : List Int} {prepared : Model α}
    (preparation : prepare indices model = .ok (starting, ordered) prepared) :
    greedy register tieBreak workers indices model = .ok outcome finish ↔
      ∃ after, decideBy register tieBreak workers ordered prepared = .ok () after ∧
        outcomeFrom indices.eraseDups starting after = .ok outcome finish := by
  rw [greedy_eq, Effect.run_bind, preparation]
  simp only
  rw [Effect.bind_eq_ok_iff]
  constructor
  · rintro ⟨_, after, decided, ended⟩
    exact ⟨after, decided, ended⟩
  · rintro ⟨after, decided, ended⟩
    exact ⟨(), after, decided, ended⟩

end Passes

end Rounding

end HingeField
