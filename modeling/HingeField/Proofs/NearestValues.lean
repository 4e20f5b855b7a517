import HingeField.Proofs.ExactSums
import HingeField.Proofs.FinalValues
import HingeField.Proofs.UnitInterval

/-!
Greedy rounding of variables without rules. Such a variable takes the value
nearest to what its softened value is, and the softening rounds. Main
statements: a double of the unit interval and its softened form have the same
nearest value, except for the last double below one half; a pass ends all
variables without rules at these values, and a further pass leaves them there.
-/

namespace HingeField

open Doubles
open Decimal (leastNormal)

/-- The last double below one half. -/
def belowHalf : Float := 0.49999999999999994

section Softening

theorem exactValue_belowHalf : exactValue belowHalf = (2 ^ 53 - 1 : Int) * (2 : Rat) ^ (-54 : Int) := by
  have unpacked : belowHalf.toModel.unpack =
      .finite .positive (2 ^ 53 - 1) (-54) (by decide) := rfl
  rw [exactValue_of_unpack unpacked]
  norm_num

theorem half_le_of_belowHalf_lt {x : Float} (finite : IsFinite x)
    (above : exactValue belowHalf < exactValue x) : 1 / 2 ≤ exactValue x := by
  by_contra below
  have half : (1 / 2 : Rat) = (2 ^ 53 : Int) * (2 : Rat) ^ (-54 : Int) := by norm_num
  rw [not_le, half] at below
  have gap := (isRepresentable_unpackedValue finite).le_pred
    (show (leastNormal : Int) < 2 ^ 53 by decide) below
  rw [exactValue_belowHalf] at above
  exact absurd gap (not_le.mpr above)

theorem softened_ge_half {x : Float} (unit : IsUnit x) (upper : 1 / 2 ≤ exactValue x) :
    0.5 ≤ Scalar.softened x := by
  obtain ⟨finite, _, atMostOne⟩ := isUnit_iff.mp unit
  obtain ⟨softFinite, above, _⟩ := softened_between finite isHeld_quarter isHeld_half isHeld_half
    isHeld_one (by linarith) (by linarith) (by norm_num) (by norm_num)
  rw [le_iff isFinite_half softFinite, exactValue_half]
  exact above

theorem softened_lt_half {x : Float} (unit : IsUnit x)
    (lower : exactValue x < exactValue belowHalf) : ¬0.5 ≤ Scalar.softened x := by
  obtain ⟨finite, atLeastZero, _⟩ := isUnit_iff.mp unit
  rw [exactValue_belowHalf] at lower
  have gap := (isRepresentable_unpackedValue finite).le_pred
    (show (leastNormal : Int) < 2 ^ 53 - 1 by decide) lower
  change exactValue x ≤ _ at gap
  have highHeld : IsHeld ((2 ^ 52 - 1 : Int) * (2 : Rat) ^ (-54 : Int)) :=
    isHeld_of_small ⟨2 ^ 52 - 1, -54, by decide, by decide, by norm_num⟩ (by norm_num)
      (by norm_num)
  have sumHighHeld : IsHeld ((2 ^ 53 - 1 : Int) * (2 : Rat) ^ (-54 : Int)) :=
    isHeld_of_small ⟨2 ^ 53 - 1, -54, by decide, by decide, by norm_num⟩ (by norm_num)
      (by norm_num)
  obtain ⟨softFinite, _, below⟩ := softened_between finite isHeld_zero highHeld isHeld_zero
    sumHighHeld (by linarith) (by norm_num at gap ⊢; linarith) (by norm_num) (by norm_num)
  rw [le_iff isFinite_half softFinite, exactValue_half]
  norm_num at below ⊢
  linarith

theorem isFinite_belowHalf : IsFinite belowHalf :=
  isFinite_iff.mpr (by decide)

theorem eq_belowHalf {x : Float} (finite : IsFinite x)
    (same : exactValue x = exactValue belowHalf) : x = belowHalf := by
  have nonzero : exactValue belowHalf ≠ 0 := by
    rw [exactValue_belowHalf]
    norm_num
  exact eq_of_exactValue (isPlain_of_ne_zero finite (same ▸ nonzero))
    (isPlain_of_ne_zero isFinite_belowHalf nonzero) same

/-- Softening moves the last double below one half to one half, and no other double across it. -/
theorem half_le_softened_iff {x : Float} (unit : IsUnit x) :
    0.5 ≤ Scalar.softened x ↔ x = belowHalf ∨ 0.5 ≤ x := by
  have finite := (isUnit_iff.mp unit).1
  rw [le_iff isFinite_half finite, exactValue_half]
  rcases lt_trichotomy (exactValue x) (exactValue belowHalf) with lower | same | upper
  · refine iff_of_false (softened_lt_half unit lower) ?_
    have short := lower
    rw [exactValue_belowHalf] at short
    rintro (rfl | half)
    · exact lower.false
    · norm_num at short
      linarith
  -- a tie: the exact sum is halfway between two doubles, of which one half is the even one
  · rw [eq_belowHalf finite same]
    exact iff_of_true (by decide +kernel) (Or.inl rfl)
  · have half := half_le_of_belowHalf_lt finite upper
    exact iff_of_true (softened_ge_half unit half) (Or.inr half)

theorem nearest_softened {x : Float} (unit : IsUnit x) :
    Scalar.nearest (Scalar.softened x) = if x = belowHalf then 1.0 else Scalar.nearest x := by
  change (if decide (0.5 ≤ Scalar.softened x) = true then 1.0 else 0.0) =
    if x = belowHalf then 1.0 else if decide (0.5 ≤ x) = true then 1.0 else 0.0
  simp only [decide_eq_true_eq, half_le_softened_iff unit]
  by_cases edge : x = belowHalf
  · rw [if_pos edge, if_pos (Or.inl edge)]
  · rw [if_neg edge]
    simp only [edge, false_or]

/-- The nearest value is the same before and after the softening, except at one double. -/
theorem nearest_softened_ne_iff {x : Float} (unit : IsUnit x) :
    Scalar.nearest (Scalar.softened x) ≠ Scalar.nearest x ↔ x = belowHalf := by
  rw [nearest_softened unit]
  by_cases edge : x = belowHalf
  · rw [if_pos edge, edge]
    exact iff_of_true (by decide +kernel) rfl
  · rw [if_neg edge]
    exact iff_of_false (fun different => different rfl) edge

end Softening

namespace Rounding

open Model

variable {register : Register Float} {tieBreak : TieBreak} {model finish : Model Float}
  {made : List (Commit Float)}

theorem nearest_nearest (x : Float) :
    Scalar.nearest (Scalar.nearest x) = Scalar.nearest x := by
  rcases isBit_nearest x with zero | one
  · rw [zero]
    decide
  · rw [one]
    decide

/-- Decisions for the nearest values of what the cells held before the first one. -/
def AreNearest (model : Model Float) (made : List (Commit Float)) : Prop :=
  ∀ commit ∈ made,
    (elementAt? model.values commit.index).map Scalar.nearest = some commit.value

section Cells

/-- Entering nearest values leaves the nearest values of the cells as they are. -/
theorem AreNearest.cell (areNearest : AreNearest model made) (offset : Nat) :
    ((model.enterAll made).values[offset]?).map Scalar.nearest =
      (model.values[offset]?).map Scalar.nearest := by
  rcases cell_enterAll model made offset with ⟨commit, member, names, stands, _⟩ | ⟨_, kept⟩
  · have nearest := areNearest commit member
    unfold elementAt? at nearest
    rw [names, Option.bind_some] at nearest
    obtain ⟨current, held, same⟩ := Option.map_eq_some_iff.mp nearest
    rw [stands, held, Option.map_some, Option.map_some, ← same, nearest_nearest]
  · rw [kept]

theorem AreNearest.named (areNearest : AreNearest model made) {commit : Commit Float} {offset : Nat}
    (member : commit ∈ made)
    (names : resolvePosition? model.values.length commit.index = some offset) :
    (model.enterAll made).values[offset]? = (model.values[offset]?).map Scalar.nearest := by
  rcases cell_enterAll model made offset with ⟨last, entered, same, stands, _⟩ | ⟨unnamed, _⟩
  · have nearest := areNearest last entered
    unfold elementAt? at nearest
    rw [same, Option.bind_some] at nearest
    rw [stands, nearest]
  · exact absurd names (unnamed commit member)

theorem AreNearest.element (areNearest : AreNearest model made) (index : Int) :
    (elementAt? (model.enterAll made).values index).map Scalar.nearest =
      (elementAt? model.values index).map Scalar.nearest := by
  unfold elementAt?
  rw [length_enterAll]
  cases resolvePosition? model.values.length index with
  | none => rfl
  | some offset => exact areNearest.cell offset

theorem AreNearest.append {later : List (Commit Float)} (first : AreNearest model made)
    (second : AreNearest (model.enterAll made) later) : AreNearest model (made ++ later) := by
  intro commit member
  rcases List.mem_append.mp member with early | late
  · exact first commit early
  · rw [← first.element]
    exact second commit late

end Cells

section Decisions

theorem decideVariable_of_element (tieBreak : TieBreak) {index : Int} {current : Float}
    (held : elementAt? model.values index = some current)
    (ruleless : register.rulesFor index = []) :
    decideVariable register tieBreak index model =
        .ok (Scalar.nearest current) (model.enterAll [⟨index, Scalar.nearest current⟩]) ∧
      AreNearest model [⟨index, Scalar.nearest current⟩] := by
  obtain ⟨offset, resolved, stands⟩ := elementAt?_eq_some_iff.mp held
  refine ⟨decideVariable_of_ruleless resolved stands (List.isEmpty_iff.mpr ruleless), ?_⟩
  intro commit member
  rw [List.mem_singleton.mp member, held]
  rfl

/-- Variables without rules take the nearest values of their cells, one after the other. -/
theorem decideAll_of_ruleless {listed : List Int} (resolves : Resolves model.values.length listed)
    (ruleless : ∀ index ∈ listed, register.rulesFor index = []) :
    ∃ made, Made listed made ∧ AreNearest model made ∧
      decideAll register tieBreak listed model = .ok () (model.enterAll made) := by
  induction listed generalizing model with
  | nil => exact ⟨[], made_nil, fun _ member => absurd member List.not_mem_nil, rfl⟩
  | cons index rest ih =>
      obtain ⟨offset, resolved⟩ := resolves index List.mem_cons_self
      obtain ⟨current, stands⟩ : ∃ current, model.values[offset]? = some current :=
        ⟨_, List.getElem?_eq_getElem (resolvePosition?_lt resolved)⟩
      obtain ⟨decided, first⟩ := decideVariable_of_element tieBreak
        (elementAt?_eq_some_iff.mpr ⟨offset, resolved, stands⟩) (ruleless index List.mem_cons_self)
      obtain ⟨made, turns, later, others⟩ :=
        ih (resolves_enter resolves ⟨index, Scalar.nearest current⟩) fun other member =>
          ruleless other (List.mem_cons_of_mem index member)
      exact ⟨_ :: made, turns.cons (isBit_nearest _), first.append later,
        decideAll_cons_eq_ok_iff.mpr ⟨_, _, decided, others⟩⟩

theorem decideComponents_of_ruleless {components : List (List Int)}
    (resolves : Resolves model.values.length components.flatten)
    (ruleless : ∀ index ∈ components.flatten, register.rulesFor index = []) :
    ∃ made, Made components.flatten made ∧ AreNearest model made ∧
      decideComponents register tieBreak components model = .ok () (model.enterAll made) := by
  induction components generalizing model with
  | nil => exact ⟨[], made_nil, fun _ member => absurd member List.not_mem_nil, rfl⟩
  | cons members components ih =>
      rw [List.flatten_cons] at resolves ruleless ⊢
      obtain ⟨made, turns, first, decided⟩ := decideAll_of_ruleless
        (fun index member => resolves index (List.mem_append_left _ member))
        (fun index member => ruleless index (List.mem_append_left _ member))
      have left : Resolves (model.enterAll made).values.length components.flatten := by
        rw [length_enterAll]
        exact fun index member => resolves index (List.mem_append_right _ member)
      obtain ⟨later, laterTurns, second, others⟩ :=
        ih left fun index member => ruleless index (List.mem_append_right _ member)
      refine ⟨made ++ later, turns.append laterTurns, first.append second, ?_⟩
      rw [enterAll_append]
      exact decideComponents_cons_eq_ok_iff.mpr ⟨_, decided, others⟩

theorem decideBy_of_ruleless {workers : Int} {ordered : List Int} (distinct : ordered.Nodup)
    (resolves : Resolves model.values.length ordered)
    (ruleless : ∀ index ∈ ordered, register.rulesFor index = []) :
    ∃ listed made, listed.Perm ordered ∧ Made listed made ∧ AreNearest model made ∧
      decideBy register tieBreak workers ordered model = .ok () (model.enterAll made) := by
  unfold decideBy
  split
  · obtain ⟨made, turns, nearest, decided⟩ := decideAll_of_ruleless resolves ruleless
    exact ⟨ordered, made, List.Perm.refl ordered, turns, nearest, decided⟩
  · have perm := register.flatten_components ordered
    rw [eraseDups_of_nodup distinct] at perm
    obtain ⟨made, turns, nearest, decided⟩ := decideComponents_of_ruleless
      (fun index member => resolves index (perm.mem_iff.mp member))
      (fun index member => ruleless index (perm.mem_iff.mp member))
    exact ⟨_, made, perm, turns, nearest, decided⟩

end Decisions

section Passes

variable {indices : List Int} {workers : Int} {outcome : Outcome Float}

theorem elements_of_mapM_read {arena values : Arena Float}
    (read : indices.mapM arena.read = .ok values) :
    values.map some = indices.map (elementAt? arena) := by
  induction indices generalizing values with
  | nil =>
      rw [mapM_nil_eq_ok_iff.mp read]
      rfl
  | cons index rest ih =>
      obtain ⟨value, others, first, later, rfl⟩ := mapM_cons_eq_ok_iff.mp read
      rw [List.map_cons, List.map_cons, ih later,
        elementAt?_eq_some_iff.mpr (Arena.read_eq_ok_iff.mp first)]

/-- The cells after a pass over variables without rules. -/
structure Settled (model : Model Float) (indices : List Int) (finish : Model Float) : Prop where
  sameLength : finish.values.length = model.values.length
  listed : ∀ index ∈ indices, ∀ offset, resolvePosition? model.values.length index = some offset →
    finish.values[offset]? =
      (model.values[offset]?).map fun value => Scalar.nearest (Scalar.softened value)
  elsewhere : ∀ offset,
    (∀ index ∈ indices, resolvePosition? model.values.length index ≠ some offset) →
    finish.values[offset]? = model.values[offset]?

theorem Settled.element (settled : Settled model indices finish) {index : Int}
    (member : index ∈ indices) :
    elementAt? finish.values index =
      (elementAt? model.values index).map fun value =>
        Scalar.nearest (Scalar.softened value) := by
  unfold elementAt?
  rw [settled.sameLength]
  cases resolved : resolvePosition? model.values.length index with
  | none => rfl
  | some offset => exact settled.listed index member offset resolved

theorem settled_of_softened {softened : Model Float} {listed : List Int}
    (softening : Softened model indices softened) (turns : Made listed made)
    (perm : listed.Perm indices) (areNearest : AreNearest softened made) :
    Settled model indices (softened.enterAll made) := by
  have sameLength := softening.sameLength
  refine ⟨(length_enterAll softened made).trans sameLength, ?_, ?_⟩
  · intro index member offset names
    obtain ⟨commit, entered, rfl⟩ := turns.exists_commit (perm.mem_iff.mpr member)
    rw [areNearest.named entered (by rw [sameLength]; exact names),
      softening.listed _ member offset names, Option.map_map]
    rfl
  · intro offset unnamed
    rcases cell_enterAll softened made offset with ⟨commit, entered, names, _⟩ | ⟨_, kept⟩
    · rw [sameLength] at names
      exact absurd names (unnamed commit.index (perm.mem_iff.mp (turns.mem_listed entered)))
    · rw [kept, softening.elsewhere offset unnamed]

/-- What an outcome counts: the variables that end away from the nearest value of their start. -/
theorem changed_of_bits {starting : List Float} (areWords : indices.all isWord = true)
    (bits : ∀ index ∈ indices, ∀ value, elementAt? finish.values index = some value → IsBit value)
    (read : indices.mapM model.values.read = .ok starting)
    (ended : outcomeFrom indices starting finish = .ok outcome finish) :
    outcome.changed = indices.countP fun index =>
      elementAt? finish.values index ≠ (elementAt? model.values index).map Scalar.nearest := by
  obtain ⟨values, after, found, same⟩ := Effect.bind_eq_ok_iff.mp ended
  rw [valuesAtBits_of_words areWords] at found
  obtain ⟨final, _⟩ := valuesAt_eq_ok_iff.mp found
  cases same
  refine count_changed ?_ (elements_of_mapM_read final) (elements_of_mapM_read read)
  intro value member
  obtain ⟨index, listed, taken⟩ := exists_of_mem_mapM final member
  exact bits index listed value (elementAt?_eq_some_iff.mpr (Arena.read_eq_ok_iff.mp taken))

theorem changed_of_settled {starting : List Float} (settled : Settled model indices finish)
    (areWords : indices.all isWord = true)
    (read : indices.mapM model.values.read = .ok starting)
    (ended : outcomeFrom indices starting finish = .ok outcome finish) :
    outcome.changed = indices.countP fun index =>
      elementAt? finish.values index ≠ (elementAt? model.values index).map Scalar.nearest := by
  refine changed_of_bits areWords ?_ read ended
  intro index listed value stands
  rw [settled.element listed] at stands
  obtain ⟨start, _, rfl⟩ := Option.map_eq_some_iff.mp stands
  exact isBit_nearest _

theorem areWords_of_resolves {size : Nat} (room : size ≤ wordBound)
    (resolves : Resolves size indices) : indices.all isWord = true := by
  rw [List.all_eq_true]
  intro index member
  obtain ⟨offset, resolved⟩ := resolves index member
  have range : -(size : Int) ≤ index ∧ index < size := by
    unfold resolvePosition? at resolved
    split at resolved
    · omega
    · split at resolved
      · omega
      · cases resolved
  unfold isWord
  simp only [Bool.and_eq_true, decide_eq_true_eq]
  unfold wordBound at room ⊢
  omega

/-- A pass over variables without rules succeeds and rounds their softened values to the nearest. -/
theorem greedy_of_ruleless (register : Register Float) (tieBreak : TieBreak) (workers : Int)
    (room : model.values.length ≤ wordBound) (resolves : Resolves model.values.length indices)
    (ruleless : ∀ index ∈ indices, register.rulesFor index = []) :
    ∃ outcome finish, greedy register tieBreak workers indices model = .ok outcome finish ∧
      Settled model indices.eraseDups finish ∧
      outcome.changed = indices.eraseDups.countP fun index =>
        elementAt? finish.values index ≠ (elementAt? model.values index).map Scalar.nearest := by
  have distinctResolves : Resolves model.values.length indices.eraseDups :=
    fun index member => resolves index (List.mem_eraseDups.mp member)
  have areWords := areWords_of_resolves room distinctResolves
  obtain ⟨starting, read⟩ := mapM_read_of_resolves distinctResolves
  obtain ⟨softened, softening, _⟩ := soften_of_values areWords read
  obtain ⟨values, ordered, preparation⟩ := prepare_of_resolves resolves softening
  have prepared := prepared_of_prepare preparation
  have orderedResolves : Resolves softened.values.length ordered := by
    rw [prepared.softened.sameLength]
    exact fun index member => distinctResolves index (prepared.perm.mem_iff.mp member)
  have orderedRuleless : ∀ index ∈ ordered, register.rulesFor index = [] := fun index member =>
    ruleless index (List.mem_eraseDups.mp (prepared.perm.mem_iff.mp member))
  obtain ⟨listed, made, perm, turns, areNearest, decided⟩ := decideBy_of_ruleless
    (prepared.perm.nodup_iff.mpr (nodup_eraseDups indices)) orderedResolves orderedRuleless
  have settled := settled_of_softened prepared.softened turns (perm.trans prepared.perm) areNearest
  obtain ⟨outcome, ended⟩ := outcomeFrom_total prepared.read settled.sameLength
  have start := prepared.read
  rw [valuesAtBits_of_words areWords] at start
  exact ⟨outcome, _, (greedy_eq_ok_iff preparation).mpr ⟨_, decided, ended⟩, settled,
    changed_of_settled settled areWords (valuesAt_eq_ok_iff.mp start).1 ended⟩

/-- The value that a variable without rules takes: the nearest one, unless it starts from the last
double below one half. -/
def roundedValue (value : Float) : Float :=
  if value = belowHalf then 1.0 else Scalar.nearest value

theorem roundedValue_bit (value : Float) : roundedValue value = 0.0 ∨ roundedValue value = 1.0 := by
  unfold roundedValue
  split
  · exact Or.inr rfl
  · exact isBit_nearest value

theorem roundedValue_of_bit {value : Float} (isBit : value = 0.0 ∨ value = 1.0) :
    roundedValue value = value := by
  rcases isBit with rfl | rfl
  · decide +kernel
  · decide +kernel

theorem values_eq_of_settled (settled : Settled model indices finish)
    (fixed : ∀ index ∈ indices, ∀ value, elementAt? model.values index = some value →
      Scalar.nearest (Scalar.softened value) = value) : finish.values = model.values := by
  apply List.ext_getElem?
  intro offset
  by_cases named : ∃ index ∈ indices, resolvePosition? model.values.length index = some offset
  · obtain ⟨index, member, names⟩ := named
    have stands := List.getElem?_eq_getElem (resolvePosition?_lt names)
    rw [settled.listed index member offset names, stands, Option.map_some,
      fixed index member _ (elementAt?_eq_some_iff.mpr ⟨offset, names, stands⟩)]
  · apply settled.elsewhere
    intro index member names
    exact named ⟨index, member, names⟩

/-- Where a pass leaves variables without rules, and what its outcome counts: the variables that
start from the one double whose rounded value is not the nearest. -/
structure RoundedToNearest (model : Model Float) (indices : List Int) (outcome : Outcome Float)
    (finish : Model Float) : Prop where
  sameLength : finish.values.length = model.values.length
  listed : ∀ index ∈ indices, ∃ value, elementAt? model.values index = some value ∧
    elementAt? finish.values index = some (roundedValue value)
  elsewhere : ∀ offset,
    (∀ index ∈ indices, resolvePosition? model.values.length index ≠ some offset) →
    finish.values[offset]? = model.values[offset]?
  changed : outcome.changed = indices.eraseDups.countP fun index =>
    elementAt? model.values index = some belowHalf
  discrete : (∀ index ∈ indices, ∀ value, elementAt? model.values index = some value →
    value = 0.0 ∨ value = 1.0) → finish.values = model.values

theorem isUnit_bit {value : Float} (isBit : value = 0.0 ∨ value = 1.0) : IsUnit value := by
  rcases isBit with rfl | rfl
  · exact isUnit_zero
  · exact isUnit_one

theorem roundedToNearest_of_settled (settled : Settled model indices.eraseDups finish)
    (resolves : Resolves model.values.length indices)
    (unit : ∀ index ∈ indices, ∀ value, elementAt? model.values index = some value →
      IsUnit value)
    (changed : outcome.changed = indices.eraseDups.countP fun index =>
      elementAt? finish.values index ≠ (elementAt? model.values index).map Scalar.nearest) :
    RoundedToNearest model indices outcome finish := by
  have element (index : Int) (member : index ∈ indices) :
      ∃ value, elementAt? model.values index = some value ∧ IsUnit value ∧
        elementAt? finish.values index = some (Scalar.nearest (Scalar.softened value)) := by
    obtain ⟨offset, names⟩ := resolves index member
    have stands : elementAt? model.values index = some _ := elementAt?_eq_some_iff.mpr
      ⟨offset, names, List.getElem?_eq_getElem (resolvePosition?_lt names)⟩
    refine ⟨_, stands, unit index member _ stands, ?_⟩
    rw [settled.element (List.mem_eraseDups.mpr member), stands]
    rfl
  refine ⟨settled.sameLength, ?_, ?_, ?_, ?_⟩
  · intro index member
    obtain ⟨value, stands, isUnit, after⟩ := element index member
    rw [nearest_softened isUnit] at after
    exact ⟨value, stands, after⟩
  · intro offset unnamed
    exact settled.elsewhere offset fun index member =>
      unnamed index (List.mem_eraseDups.mp member)
  · rw [changed]
    apply List.countP_congr
    intro index member
    obtain ⟨value, stands, isUnit, after⟩ := element index (List.mem_eraseDups.mp member)
    rw [after, stands, Option.map_some]
    simp only [ne_eq, Option.some.injEq, decide_eq_true_eq]
    exact nearest_softened_ne_iff isUnit
  · intro bits
    apply values_eq_of_settled settled
    intro index member value stands
    have isBit := bits index (List.mem_eraseDups.mp member) value stands
    rw [nearest_softened (isUnit_bit isBit)]
    exact roundedValue_of_bit isBit

/-- Greedy rounding takes variables without rules to their nearest values, except from the last
double below one half, which goes up. It leaves the other variables alone, and zeros and ones where
they are, so that a further pass changes nothing. -/
theorem ruleless_variables_round_to_nearest (room : model.values.length ≤ wordBound)
    (resolves : Resolves model.values.length indices)
    (unit : ∀ index ∈ indices, ∀ value, elementAt? model.values index = some value →
      IsUnit value)
    (register : Register Float) (ruleless : ∀ index ∈ indices, register.rulesFor index = [])
    (tieBreak : TieBreak) (workers : Int) :
    ∃ outcome finish, greedy register tieBreak workers indices model = .ok outcome finish ∧
      RoundedToNearest model indices outcome finish ∧
      ∀ (other : Register Float) (otherBreak : TieBreak) (otherWorkers : Int),
        (∀ index ∈ indices, other.rulesFor index = []) →
        ∃ again last, greedy other otherBreak otherWorkers indices finish = .ok again last ∧
          last.values = finish.values ∧ again.changed = 0 := by
  obtain ⟨outcome, finish, success, settled, changed⟩ :=
    greedy_of_ruleless register tieBreak workers room resolves ruleless
  have rounded := roundedToNearest_of_settled settled resolves unit changed
  refine ⟨outcome, finish, success, rounded, ?_⟩
  intro other otherBreak otherWorkers otherRuleless
  have sameLength := rounded.sameLength
  have bits : ∀ index ∈ indices, ∀ value, elementAt? finish.values index = some value →
      value = 0.0 ∨ value = 1.0 := by
    intro index member value stands
    obtain ⟨start, _, after⟩ := rounded.listed index member
    rw [stands, Option.some.injEq] at after
    rw [after]
    exact roundedValue_bit start
  have stillResolves : Resolves finish.values.length indices := sameLength ▸ resolves
  obtain ⟨again, last, repeated, settledAgain, changedAgain⟩ :=
    greedy_of_ruleless other otherBreak otherWorkers (sameLength ▸ room) stillResolves
      otherRuleless
  have roundedAgain := roundedToNearest_of_settled settledAgain stillResolves
    (fun index member value stands => isUnit_bit (bits index member value stands)) changedAgain
  refine ⟨again, last, repeated, roundedAgain.discrete bits, ?_⟩
  rw [roundedAgain.changed, List.countP_eq_zero]
  intro index member edge
  have isBit := bits index (List.mem_eraseDups.mp member) belowHalf (of_decide_eq_true edge)
  exact absurd isBit (by decide +kernel)

end Passes

section Edge

def edgeModel : Model Float :=
  { values := [belowHalf, 0.5, 0.2], owners := [none, none, none] }

theorem ruleless_variables_round_to_nearest_edge :
    edgeModel.values.length ≤ wordBound ∧ Resolves edgeModel.values.length [0, 1, -2] ∧
      (∀ index ∈ ([0, 1, -2] : List Int), ∀ value, elementAt? edgeModel.values index = some value →
        IsUnit value) ∧
      (∀ index ∈ ([0, 1, -2] : List Int), (Register.ofList [lastClause]).rulesFor index = []) ∧
      ∃ outcome finish,
        greedy (Register.ofList [lastClause]) .earlier 2 [0, 1, -2] edgeModel =
            .ok outcome finish ∧
          RoundedToNearest edgeModel [0, 1, -2] outcome finish ∧ outcome.changed = 1 := by
  have room : edgeModel.values.length ≤ wordBound := by decide
  have resolves : Resolves edgeModel.values.length [0, 1, -2] := by
    intro index member
    rcases List.mem_cons.mp member with rfl | member
    · exact ⟨0, rfl⟩
    · rcases List.mem_cons.mp member with rfl | member
      · exact ⟨1, rfl⟩
      · rw [List.mem_singleton.mp member]
        exact ⟨1, rfl⟩
  have unit : ∀ index ∈ ([0, 1, -2] : List Int), ∀ value,
      elementAt? edgeModel.values index = some value → IsUnit value := by
    intro index _ value stands
    obtain ⟨offset, _, held⟩ := elementAt?_eq_some_iff.mp stands
    have areUnit : ∀ cell ∈ edgeModel.values, IsUnit cell := by
      unfold IsUnit
      decide +kernel
    exact areUnit value (List.mem_of_getElem? held)
  have ruleless : ∀ index ∈ ([0, 1, -2] : List Int),
      (Register.ofList [lastClause]).rulesFor index = [] := by
    have empty : ∀ index ∈ ([0, 1, -2] : List Int),
        ((Register.ofList [lastClause]).rulesFor index).isEmpty = true := by decide +kernel
    exact fun index member => List.isEmpty_iff.mp (empty index member)
  obtain ⟨outcome, finish, success, rounded, _⟩ := ruleless_variables_round_to_nearest room
    resolves unit (Register.ofList [lastClause]) ruleless .earlier 2
  refine ⟨room, resolves, unit, ruleless, outcome, finish, success, rounded, ?_⟩
  rw [rounded.changed]
  decide +kernel

/-- The last double below one half, rounded without rules, ends at one and counts as changed. -/
theorem belowHalf_rounds_up :
    belowHalf < 0.5 ∧ Scalar.nearest belowHalf = 0.0 ∧
      ({} : Register Float).rulesFor 0 = [] ∧
      ∃ outcome finish, greedy {} .later 1 [0] { values := [belowHalf], owners := [none] } =
          .ok outcome finish ∧
        finish.values = [1.0] ∧ outcome.changed = 1 := by
  refine ⟨by decide +kernel, by decide +kernel, rfl, ?_⟩
  let model : Model Float := { values := [belowHalf], owners := [none] }
  have room : model.values.length ≤ wordBound := by decide
  have resolves : Resolves model.values.length [0] := resolves_of_inside (by decide)
  have ruleless : ∀ index ∈ ([0] : List Int), ({} : Register Float).rulesFor index = [] :=
    fun _ _ => rfl
  obtain ⟨outcome, finish, success, settled, changed⟩ :=
    greedy_of_ruleless {} .later 1 room resolves ruleless
  have distinct : ([0] : List Int).eraseDups = [0] := by decide +kernel
  rw [distinct] at settled changed
  have cell : finish.values[0]? = some 1.0 :=
    (settled.listed 0 List.mem_cons_self 0 rfl).trans (by decide +kernel)
  obtain ⟨value, only⟩ := List.length_eq_one_iff.mp settled.sameLength
  rw [only] at cell changed
  cases cell
  refine ⟨outcome, finish, success, only, changed.trans ?_⟩
  decide +kernel

end Edge

end Rounding

end HingeField
