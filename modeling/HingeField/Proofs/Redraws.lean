import HingeField.Proofs.LegalFactors
import HingeField.Proofs.NearestValues

/-!
Rounding by draws once more. A draw does not exceed the value one, and it
exceeds the value zero unless zero is drawn, so that zero becomes one with the
least draw of all. Main statement: a second run on the variables that a first
one has rounded changes nothing exactly if no zero is drawn for a variable at
zero, in it or by a second name of a cell in the first run.
-/

namespace HingeField

namespace Rounding

open Model

section Draws

/-- What a generator of numbers below one gives. -/
def IsDraw (draw : Float) : Prop :=
  0.0 ≤ draw ∧ draw < 1.0

variable {draw value : Float}

theorem IsDraw.le_zero_iff (isDraw : IsDraw draw) : draw ≤ 0.0 ↔ ¬0.0 < draw := by
  have finite := Doubles.isFinite_of_between Doubles.isFinite_zero Doubles.isFinite_one isDraw.1
    (Doubles.le_of_lt isDraw.2)
  obtain ⟨_, compared⟩ := Doubles.exists_compare Doubles.isFinite_zero.ne_notANumber finite
  exact (Doubles.not_lt_iff compared).1.symm

theorem drawn_of_isBit (isDraw : IsDraw draw) (isBit : IsBit value) :
    drawn draw value = if 0.0 < draw then value else 1.0 := by
  have compares : drawn draw value = if draw ≤ value then 1.0 else 0.0 := by
    change (if decide (draw ≤ value) = true then (1.0 : Float) else 0.0) = _
    simp only [decide_eq_true_eq]
  rw [compares]
  rcases isBit with rfl | rfl
  · change (if draw ≤ 0.0 then (1.0 : Float) else 0.0) = if 0.0 < draw then 0.0 else 1.0
    by_cases positive : 0.0 < draw
    · rw [if_pos positive, if_neg (mt isDraw.le_zero_iff.mp (not_not_intro positive))]
    · rw [if_neg positive, if_pos (isDraw.le_zero_iff.mpr positive)]
  · change (if draw ≤ 1.0 then (1.0 : Float) else 0.0) = if 0.0 < draw then 1.0 else 1.0
    rw [if_pos (Doubles.le_of_lt isDraw.2), ite_self]

end Draws

/-- Turns one after the other, each with the next draw: a turn gives its variable what the draw
makes of the current value. -/
inductive DrawRun : (Nat → Float) → List Int → Model Float → Model Float → Prop where
  | done (draws : Nat → Float) (model : Model Float) : DrawRun draws [] model model
  | step {draws : Nat → Float} {index : Int} {rest : List Int} {model finish : Model Float}
      {offset : Nat} {current : Float}
      (resolved : resolvePosition? model.values.length index = some offset)
      (stands : model.values[offset]? = some current)
      (others : DrawRun (fun turn => draws (turn + 1)) rest
        (model.enter ⟨index, drawn (draws 0) current⟩) finish) :
      DrawRun draws (index :: rest) model finish

/-- Zero is drawn at a turn, from the given one on, whose variable names the cell. -/
def ZeroDrawn (draws : Nat → Float) (listed : List Int) (size offset start : Nat) : Prop :=
  ∃ turn index, start ≤ turn ∧ listed[turn]? = some index ∧
    resolvePosition? size index = some offset ∧ ¬0.0 < draws turn

variable {draws : Nat → Float} {listed rest : List Int} {model finish : Model Float}
  {index : Int} {size offset : Nat}

section Turns

theorem zeroDrawn_cons_zero_iff :
    ZeroDrawn draws (index :: rest) size offset 0 ↔
      (resolvePosition? size index = some offset ∧ ¬0.0 < draws 0) ∨
        ZeroDrawn (fun turn => draws (turn + 1)) rest size offset 0 := by
  constructor
  · rintro ⟨turn, other, _, found, names, zero⟩
    cases turn with
    | zero =>
        cases found
        exact Or.inl ⟨names, zero⟩
    | succ turn => exact Or.inr ⟨turn, other, Nat.zero_le turn, found, names, zero⟩
  · rintro (⟨names, zero⟩ | ⟨turn, other, _, found, names, zero⟩)
    · exact ⟨0, index, Nat.le_refl 0, rfl, names, zero⟩
    · exact ⟨turn + 1, other, Nat.zero_le _, found, names, zero⟩

theorem zeroDrawn_cons_succ_iff {start : Nat} :
    ZeroDrawn draws (index :: rest) size offset (start + 1) ↔
      ZeroDrawn (fun turn => draws (turn + 1)) rest size offset start := by
  constructor
  · rintro ⟨turn, other, later, found, names, zero⟩
    obtain ⟨turn, rfl⟩ : ∃ before, turn = before + 1 := ⟨turn - 1, by omega⟩
    exact ⟨turn, other, Nat.le_of_succ_le_succ later, found, names, zero⟩
  · rintro ⟨turn, other, later, found, names, zero⟩
    exact ⟨turn + 1, other, Nat.succ_le_succ later, found, names, zero⟩

theorem exists_drawRun (draws : Nat → Float) (resolves : Resolves model.values.length listed) :
    ∃ finish, DrawRun draws listed model finish := by
  induction listed generalizing draws model with
  | nil => exact ⟨model, .done draws model⟩
  | cons index rest ih =>
      obtain ⟨offset, resolved⟩ := resolves index List.mem_cons_self
      obtain ⟨current, stands⟩ : ∃ current, model.values[offset]? = some current :=
        ⟨_, List.getElem?_eq_getElem (resolvePosition?_lt resolved)⟩
      obtain ⟨finish, others⟩ := ih (fun turn => draws (turn + 1))
        (resolves_enter resolves ⟨index, drawn (draws 0) current⟩)
      exact ⟨finish, .step resolved stands others⟩

/-- The turns as a pass takes them, which counts them from some number on. -/
theorem DrawRun.forM_eq (run : DrawRun draws listed model finish) (stream : Nat → Float)
    (start : Nat) (same : ∀ turn, stream (start + turn) = draws turn) :
    ((listed.zipIdx start).forM fun (index, turn) => roundByDraw index (stream turn)) model =
      .ok () finish := by
  induction run generalizing start with
  | done => rfl
  | @step draws index rest model finish offset current resolved stands others ih =>
      have later (turn : Nat) : stream (start + 1 + turn) = draws (turn + 1) := by
        rw [← same (turn + 1), Nat.add_right_comm, Nat.add_assoc]
      have first : roundByDraw index (stream start) model =
          .ok () (model.enter ⟨index, drawn (draws 0) current⟩) := by
        rw [← same 0]
        exact roundByDraw_of_resolved resolved stands _
      exact Effect.bind_eq_ok_iff.mpr ⟨(), _, first, ih (start + 1) later⟩

end Turns

namespace DrawRun

theorem sameLength (run : DrawRun draws listed model finish) :
    finish.values.length = model.values.length := by
  induction run with
  | done => rfl
  | step _ _ _ ih => exact ih.trans (length_enter _ _)

theorem unnamed (run : DrawRun draws listed model finish)
    (absent : ∀ index ∈ listed, resolvePosition? model.values.length index ≠ some offset) :
    finish.values[offset]? = model.values[offset]? := by
  induction run with
  | done => rfl
  | step _ _ _ ih =>
      rw [length_enter] at ih
      obtain ⟨other, others⟩ := List.forall_mem_cons.mp absent
      rw [ih others, getElem?_enter_of_unnamed other]

theorem lookup_of_absent (run : DrawRun draws listed model finish) {asked : Int}
    (absent : asked ∉ listed) :
    finish.committed.lookup asked = model.committed.lookup asked := by
  induction run with
  | done => rfl
  | step _ _ _ ih =>
      rw [List.mem_cons, not_or] at absent
      rw [ih absent.2]
      exact lookup_enter_of_ne _ absent.1

section Bits

variable (areDraws : ∀ turn, IsDraw (draws turn))

include areDraws

/-- A turn keeps zero or one in a cell, unless zero is drawn for a name of it. -/
theorem cell_of_turn {current value : Float}
    (resolved : resolvePosition? model.values.length index = some offset)
    (stands : model.values[offset]? = some current) {other : Nat}
    (held : model.values[other]? = some value) (isBit : IsBit value) :
    (model.enter ⟨index, drawn (draws 0) current⟩).values[other]? =
      some (if offset = other ∧ ¬0.0 < draws 0 then 1.0 else value) := by
  by_cases names : offset = other
  · subst names
    rw [stands] at held
    cases held
    rw [getElem?_enter_self resolved, drawn_of_isBit (areDraws 0) isBit]
    by_cases positive : 0.0 < draws 0
    · simp [positive]
    · simp [positive]
  · have unnamed : resolvePosition? model.values.length index ≠ some other := by
      rw [resolved, ne_eq, Option.some.injEq]
      exact names
    rw [getElem?_enter_of_unnamed unnamed, held, if_neg fun both => names both.1]

/-- A cell at zero or one stays so, or becomes one as zero is drawn for a name of it. -/
theorem cell (run : DrawRun draws listed model finish) {value : Float}
    (held : model.values[offset]? = some value) (isBit : IsBit value) :
    (ZeroDrawn draws listed model.values.length offset 0 →
        finish.values[offset]? = some 1.0) ∧
      (¬ZeroDrawn draws listed model.values.length offset 0 →
        finish.values[offset]? = some value) := by
  induction run generalizing value with
  | done =>
      refine ⟨?_, fun _ => held⟩
      rintro ⟨_, _, _, impossible, _⟩
      cases impossible
  | @step draws index rest model finish named current resolved stands others ih =>
      have next := cell_of_turn areDraws resolved stands held isBit
      rw [length_enter] at ih
      rw [zeroDrawn_cons_zero_iff, resolved, Option.some.injEq]
      by_cases zero : named = offset ∧ ¬0.0 < draws 0
      · rw [if_pos zero] at next
        obtain ⟨raised, kept⟩ := ih (fun turn => areDraws (turn + 1)) next (Or.inr rfl)
        refine ⟨fun _ => ?_, fun none => absurd (Or.inl zero) none⟩
        exact (Classical.em _).elim raised kept
      · rw [if_neg zero] at next
        simp only [zero, false_or]
        exact ih (fun turn => areDraws (turn + 1)) next isBit

/-- What is committed for a variable at its turn stands in the cell at the end, or zero is drawn
after it for a name of the cell. -/
theorem entered (run : DrawRun draws listed model finish) (distinct : listed.Nodup) {place : Nat}
    (found : listed[place]? = some index)
    (names : resolvePosition? model.values.length index = some offset) :
    ∃ value, finish.committed.lookup index = some value ∧ IsBit value ∧
      (ZeroDrawn draws listed model.values.length offset (place + 1) →
        finish.values[offset]? = some 1.0) ∧
      (¬ZeroDrawn draws listed model.values.length offset (place + 1) →
        finish.values[offset]? = some value) := by
  induction run generalizing place with
  | done => cases found
  | @step draws other rest model finish named current resolved stands others ih =>
      obtain ⟨absent, distinctRest⟩ := List.nodup_cons.mp distinct
      rw [zeroDrawn_cons_succ_iff]
      cases place with
      | zero =>
          cases found
          cases resolved.symm.trans names
          have isBit := isBit_drawn (draws 0) current
          have committed := (others.lookup_of_absent absent).trans (lookup_enter_self resolved _)
          have later := others.cell (fun turn => areDraws (turn + 1))
            (getElem?_enter_self resolved) isBit
          rw [length_enter] at later
          exact ⟨_, committed, isBit, later⟩
      | succ place =>
          rw [length_enter] at ih
          exact ih (fun turn => areDraws (turn + 1)) distinctRest found names

/-- A variable at one is committed at one. -/
theorem lookup_of_one (run : DrawRun draws listed model finish) (distinct : listed.Nodup)
    (member : index ∈ listed)
    (names : resolvePosition? model.values.length index = some offset)
    (held : model.values[offset]? = some 1.0) : finish.committed.lookup index = some 1.0 := by
  induction run with
  | done => cases member
  | @step draws other rest model finish named current resolved stands others ih =>
      obtain ⟨absent, distinctRest⟩ := List.nodup_cons.mp distinct
      have next := cell_of_turn areDraws resolved stands held (Or.inr rfl)
      rw [ite_self] at next
      rcases List.mem_cons.mp member with rfl | later
      · cases resolved.symm.trans names
        have committed := (others.lookup_of_absent absent).trans (lookup_enter_self resolved _)
        exact committed.trans ((getElem?_enter_self resolved).symm.trans next)
      · rw [length_enter] at ih
        exact ih (fun turn => areDraws (turn + 1)) distinctRest later names next

end Bits

/-- Turns that write what stands in the cells, and is committed, commit nothing new. -/
theorem committed_of_kept (run : DrawRun draws listed model finish)
    (kept : ∀ turn index, listed[turn]? = some index → ∃ value,
      elementAt? model.values index = some value ∧ model.committed.lookup index = some value ∧
        drawn (draws turn) value = value) : finish.committed = model.committed := by
  induction run with
  | done => rfl
  | @step draws index rest model finish offset current resolved stands others ih =>
      obtain ⟨value, found, recorded, same⟩ := kept 0 index rfl
      rw [elementAt?_eq_some_iff.mpr ⟨offset, resolved, stands⟩] at found
      cases found
      have unmoved : model.values.set offset current = model.values := by
        obtain ⟨_, rfl⟩ := List.getElem?_eq_some_iff.mp stands
        exact List.set_getElem_self _
      have entered : model.enter ⟨index, drawn (draws 0) current⟩ = _ := enter_of_resolved resolved
      dsimp only at entered
      rw [same, unmoved, Keyed.put_of_lookup recorded] at entered
      rw [same, entered] at ih
      exact ih fun turn other member => kept (turn + 1) other member

end DrawRun

section Passes

variable {first second : Nat → Float} {indices : List Int} {last : Model Float}

/-- A run of draws keeps the variables at one, and those at zero for which no zero is drawn. -/
structure KeepsBits (draws : Nat → Float) (listed : List Int) (model finish : Model Float) :
    Prop where
  ones : ∀ offset : Nat, model.values[offset]? = some 1.0 → finish.values[offset]? = some 1.0
  zeros : ∀ offset : Nat, model.values[offset]? = some 0.0 →
    (finish.values[offset]? = some 0.0 ↔ ¬ZeroDrawn draws listed model.values.length offset 0)

/-- No zero is drawn for a variable at zero. -/
def SparesZeros (draws : Nat → Float) (listed : List Int) (model : Model Float) : Prop :=
  ∀ offset : Nat, model.values[offset]? = some 0.0 →
    ¬ZeroDrawn draws listed model.values.length offset 0

/-- No zero is drawn by a further name of a cell that has been committed at zero. -/
def SparesNames (draws : Nat → Float) (listed : List Int) (finish : Model Float) : Prop :=
  ∀ place index offset, listed[place]? = some index →
    resolvePosition? finish.values.length index = some offset →
    finish.committed.lookup index = some 0.0 →
    ¬ZeroDrawn draws listed finish.values.length offset (place + 1)

theorem DrawRun.keepsBits (run : DrawRun draws listed model finish)
    (areDraws : ∀ turn, IsDraw (draws turn)) : KeepsBits draws listed model finish := by
  constructor
  · intro offset one
    obtain ⟨raised, kept⟩ := run.cell areDraws one (Or.inr rfl)
    exact (Classical.em _).elim raised kept
  · intro offset zero
    obtain ⟨raised, kept⟩ := run.cell areDraws zero (Or.inl rfl)
    constructor
    · intro stays drawn
      rw [raised drawn] at stays
      exact absurd stays (by decide)
    · exact kept

theorem DrawRun.values_eq_iff_elements (run : DrawRun draws listed model finish) :
    finish.values = model.values ↔
      ∀ index ∈ listed, elementAt? finish.values index = elementAt? model.values index := by
  constructor
  · intro same index _
    rw [same]
  · intro same
    apply List.ext_getElem?
    intro offset
    by_cases named : ∃ index ∈ listed, resolvePosition? model.values.length index = some offset
    · obtain ⟨index, member, names⟩ := named
      have cell := same index member
      unfold elementAt? at cell
      rwa [run.sameLength, names] at cell
    · exact run.unnamed fun index member names => named ⟨index, member, names⟩

/-- A run on variables at zero or one leaves the arena as it was exactly if it spares the zeros. -/
theorem DrawRun.values_eq_iff (run : DrawRun draws listed model finish)
    (areDraws : ∀ turn, IsDraw (draws turn))
    (bits : ∀ index ∈ listed, ∀ value, elementAt? model.values index = some value → IsBit value) :
    finish.values = model.values ↔ SparesZeros draws listed model := by
  constructor
  · intro same offset zero
    rw [← (run.keepsBits areDraws).zeros offset zero, same]
    exact zero
  · intro spares
    rw [run.values_eq_iff_elements]
    intro index member
    unfold elementAt?
    rw [run.sameLength]
    cases names : resolvePosition? model.values.length index with
    | none => rfl
    | some offset =>
        have stands := List.getElem?_eq_getElem (resolvePosition?_lt names)
        have isBit := bits index member _ (elementAt?_eq_some_iff.mpr ⟨offset, names, stands⟩)
        change finish.values[offset]? = model.values[offset]?
        rcases isBit with zero | one
        · rw [zero] at stands
          rw [stands]
          exact ((run.keepsBits areDraws).zeros offset stands).mpr (spares offset stands)
        · rw [one] at stands
          rw [stands]
          exact (run.keepsBits areDraws).ones offset stands

/-- A run of draws on variables that have cells succeeds, and its outcome counts the variables that
end away from the nearest value of their start. -/
theorem exists_bernoulli (draws : Nat → Float) (room : model.values.length ≤ wordBound)
    (resolves : Resolves model.values.length indices) :
    ∃ outcome finish starting, bernoulli draws indices model = .ok outcome finish ∧
      DrawRun draws indices.eraseDups model finish ∧
      indices.eraseDups.mapM model.values.read = .ok starting ∧
      outcomeFrom indices.eraseDups starting finish = .ok outcome finish := by
  have distinctResolves : Resolves model.values.length indices.eraseDups :=
    fun index member => resolves index (List.mem_eraseDups.mp member)
  have areWords := areWords_of_resolves room distinctResolves
  obtain ⟨starting, read⟩ := mapM_read_of_resolves distinctResolves
  have found : valuesAtBits indices.eraseDups model = .ok starting model := by
    rw [valuesAtBits_of_words areWords]
    exact valuesAt_eq_ok_iff.mpr ⟨read, rfl⟩
  obtain ⟨finish, run⟩ := exists_drawRun draws distinctResolves
  obtain ⟨outcome, ended⟩ := outcomeFrom_total found run.sameLength
  refine ⟨outcome, finish, starting, ?_, run, read, ended⟩
  have turns := run.forM_eq draws 0 fun turn => congrArg draws (Nat.zero_add turn)
  exact Effect.bind_eq_ok_iff.mpr ⟨starting, model, found,
    Effect.bind_eq_ok_iff.mpr ⟨(), finish, turns, ended⟩⟩

theorem DrawRun.resolves_listed (run : DrawRun draws listed model finish) :
    Resolves finish.values.length listed := by
  induction run with
  | done => exact fun _ member => absurd member List.not_mem_nil
  | @step draws index rest model finish offset current resolved stands others ih =>
      intro other member
      rcases List.mem_cons.mp member with rfl | later
      · rw [others.sameLength, length_enter]
        exact ⟨offset, resolved⟩
      · exact ih other later

/-- The variables of a run end at zero or one. -/
theorem DrawRun.bits (run : DrawRun draws listed model finish)
    (areDraws : ∀ turn, IsDraw (draws turn)) (distinct : listed.Nodup) :
    ∀ index ∈ listed, ∀ value, elementAt? finish.values index = some value → IsBit value := by
  intro index member value found
  obtain ⟨place, listedAt⟩ := List.getElem?_of_mem member
  obtain ⟨offset, names, stands⟩ := elementAt?_eq_some_iff.mp found
  rw [run.sameLength] at names
  obtain ⟨entered, _, isBit, raised, kept⟩ := run.entered areDraws distinct listedAt names
  by_cases zero : ZeroDrawn draws listed model.values.length offset (place + 1)
  · rw [raised zero] at stands
    cases stands
    exact Or.inr rfl
  · rw [kept zero] at stands
    cases stands
    exact isBit

/-- What is committed for the variables of a run stands in their cells, if no further name of a cell
draws zero. -/
theorem DrawRun.recorded (run : DrawRun draws listed model finish)
    (areDraws : ∀ turn, IsDraw (draws turn)) (distinct : listed.Nodup)
    (spares : SparesNames draws listed finish) {place : Nat} (found : listed[place]? = some index) :
    ∃ value, IsBit value ∧ elementAt? finish.values index = some value ∧
      finish.committed.lookup index = some value := by
  obtain ⟨offset, names⟩ := run.resolves_listed index (List.mem_of_getElem? found)
  have namesBefore := names
  rw [run.sameLength] at namesBefore
  obtain ⟨value, committed, isBit, raised, kept⟩ :=
    run.entered areDraws distinct found namesBefore
  refine ⟨value, isBit, elementAt?_eq_some_iff.mpr ⟨offset, names, ?_⟩, committed⟩
  by_cases zero : ZeroDrawn draws listed model.values.length offset (place + 1)
  · rcases isBit with rfl | rfl
    · rw [← run.sameLength] at zero
      exact absurd zero (spares place index offset found names committed)
    · exact raised zero
  · exact kept zero

/-- What a second run does after a first one has rounded the same variables. -/
structure Redrawn (first second : Nat → Float) (listed : List Int) (model finish : Model Float)
    (again : Outcome Float) (last : Model Float) : Prop where
  firstKeeps : KeepsBits first listed model finish
  secondKeeps : KeepsBits second listed finish last
  values : last.values = finish.values ↔ SparesZeros second listed finish
  changed : again.changed = 0 ↔ SparesZeros second listed finish
  unchanged : last.values = finish.values ∧ last.committed = finish.committed ∧ again.changed = 0 ↔
    SparesZeros second listed finish ∧ SparesNames first listed finish

theorem committed_eq_iff (firstRun : DrawRun first listed model finish)
    (secondRun : DrawRun second listed finish last) (firstDraws : ∀ turn, IsDraw (first turn))
    (secondDraws : ∀ turn, IsDraw (second turn)) (distinct : listed.Nodup)
    (spares : SparesZeros second listed finish) :
    last.committed = finish.committed ↔ SparesNames first listed finish := by
  constructor
  · intro same place index offset found names zero drawn
    have namesBefore := names
    rw [firstRun.sameLength] at namesBefore drawn
    obtain ⟨_, _, _, raised, _⟩ := firstRun.entered firstDraws distinct found namesBefore
    have one := secondRun.lookup_of_one secondDraws distinct (List.mem_of_getElem? found) names
      (raised drawn)
    rw [same, zero] at one
    exact absurd one (by decide)
  · intro sparesNames
    apply secondRun.committed_of_kept
    intro turn index found
    obtain ⟨value, isBit, stands, committed⟩ :=
      firstRun.recorded firstDraws distinct sparesNames found
    refine ⟨value, stands, committed, ?_⟩
    rw [drawn_of_isBit (secondDraws turn) isBit]
    by_cases positive : 0.0 < second turn
    · rw [if_pos positive]
    · rw [if_neg positive]
      rcases isBit with zero | one
      · obtain ⟨offset, names, cell⟩ := elementAt?_eq_some_iff.mp stands
        exact absurd ⟨turn, index, Nat.zero_le turn, found, names, positive⟩
          (spares offset (cell.trans (congrArg some zero)))
      · exact one.symm

theorem redrawn_of_runs {again : Outcome Float} {starting : List Float}
    (firstRun : DrawRun first listed model finish) (secondRun : DrawRun second listed finish last)
    (firstDraws : ∀ turn, IsDraw (first turn)) (secondDraws : ∀ turn, IsDraw (second turn))
    (distinct : listed.Nodup) (areWords : listed.all isWord = true)
    (read : listed.mapM finish.values.read = .ok starting)
    (ended : outcomeFrom listed starting last = .ok again last) :
    Redrawn first second listed model finish again last := by
  have bits := firstRun.bits firstDraws distinct
  have values := secondRun.values_eq_iff secondDraws bits
  have count := changed_of_bits areWords (secondRun.bits secondDraws distinct) read ended
  have nearest : ∀ index ∈ listed,
      (elementAt? finish.values index).map Scalar.nearest = elementAt? finish.values index := by
    intro index member
    cases found : elementAt? finish.values index with
    | none => rfl
    | some value =>
        rcases bits index member value found with rfl | rfl
        · decide
        · decide
  have changed : again.changed = 0 ↔ last.values = finish.values := by
    rw [count, List.countP_eq_zero, secondRun.values_eq_iff_elements]
    refine forall₂_congr fun index member => ?_
    rw [nearest index member, decide_eq_true_eq, not_not]
  refine ⟨firstRun.keepsBits firstDraws, secondRun.keepsBits secondDraws, values,
    changed.trans values, ?_⟩
  constructor
  · rintro ⟨same, committed, _⟩
    have spares := values.mp same
    exact ⟨spares,
      (committed_eq_iff firstRun secondRun firstDraws secondDraws distinct spares).mp committed⟩
  · rintro ⟨spares, names⟩
    have same := values.mpr spares
    exact ⟨same,
      (committed_eq_iff firstRun secondRun firstDraws secondDraws distinct spares).mpr names,
      changed.mpr same⟩

/-- A second run of draws leaves the arena as it was, and no variable changed, exactly if it draws
no zero for a variable at zero; the committed values are the same too unless the first run has drawn
zero for a further name of a cell that it had committed at zero. Variables at one stay so whatever is
drawn. -/
theorem redraw_changes_nothing_iff (room : model.values.length ≤ wordBound)
    (resolves : Resolves model.values.length indices) (firstDraws : ∀ turn, IsDraw (first turn))
    (secondDraws : ∀ turn, IsDraw (second turn)) :
    ∃ outcome finish again last, bernoulli first indices model = .ok outcome finish ∧
      bernoulli second indices finish = .ok again last ∧
      Redrawn first second indices.eraseDups model finish again last := by
  obtain ⟨outcome, finish, _, success, firstRun, _, _⟩ := exists_bernoulli first room resolves
  have sameLength := firstRun.sameLength
  obtain ⟨again, last, starting, repeated, secondRun, read, ended⟩ :=
    exists_bernoulli second (sameLength ▸ room) (sameLength ▸ resolves)
  have areWords := areWords_of_resolves room fun index member =>
    resolves index (List.mem_eraseDups.mp member)
  exact ⟨outcome, finish, again, last, success, repeated,
    redrawn_of_runs firstRun secondRun firstDraws secondDraws (nodup_eraseDups indices) areWords
      read ended⟩

end Passes

section Zero

/-- A value to round, a one and a zero. -/
def mixedModel : Model Float :=
  { values := [0.3, 1.0, 0.0], owners := [none, none, none] }

theorem redraw_changes_nothing_iff_mixed :
    mixedModel.values.length ≤ wordBound ∧ Resolves mixedModel.values.length [0, -2, 1, 2] ∧
      IsDraw 0.5 ∧ IsDraw 0.25 ∧
      ∃ outcome finish again last,
        bernoulli (fun _ => 0.5) [0, -2, 1, 2] mixedModel = .ok outcome finish ∧
          bernoulli (fun _ => 0.25) [0, -2, 1, 2] finish = .ok again last ∧
          last.values = finish.values ∧ last.committed = finish.committed ∧ again.changed = 0 := by
  have room : mixedModel.values.length ≤ wordBound := by decide
  have resolves : Resolves mixedModel.values.length [0, -2, 1, 2] := by
    have each : ∀ index ∈ ([0, -2, 1, 2] : List Int),
        (resolvePosition? mixedModel.values.length index).isSome = true := by decide
    exact fun index member => Option.isSome_iff_exists.mp (each index member)
  have firstDraw : IsDraw 0.5 := ⟨by decide +kernel, by decide +kernel⟩
  have secondDraw : IsDraw 0.25 := ⟨by decide +kernel, by decide +kernel⟩
  obtain ⟨outcome, finish, again, last, success, repeated, redrawn⟩ :=
    redraw_changes_nothing_iff room resolves (fun _ => firstDraw) (fun _ => secondDraw)
  refine ⟨room, resolves, firstDraw, secondDraw, outcome, finish, again, last, success, repeated,
    redrawn.unchanged.mpr ⟨?_, ?_⟩⟩
  · rintro _ _ ⟨_, _, _, _, _, zero⟩
    exact zero (show (0.0 : Float) < 0.25 by decide +kernel)
  · rintro _ _ _ _ _ _ ⟨_, _, _, _, _, zero⟩
    exact zero (show (0.0 : Float) < 0.5 by decide +kernel)

def zeroModel : Model Float :=
  { values := [0.0], owners := [none] }

/-- The least draw turns a zero into a one. -/
theorem least_draw_raises_zero :
    IsDraw 0.5 ∧ IsDraw 0.0 ∧
      ∃ outcome finish again last, bernoulli (fun _ => 0.5) [0] zeroModel = .ok outcome finish ∧
        bernoulli (fun _ => 0.0) [0] finish = .ok again last ∧
        finish.values = [0.0] ∧ last.values = [1.0] ∧ again.changed = 1 := by
  have firstDraw : IsDraw 0.5 := ⟨by decide +kernel, by decide +kernel⟩
  have secondDraw : IsDraw 0.0 := ⟨by decide +kernel, by decide +kernel⟩
  exact ⟨firstDraw, secondDraw, _, _, _, _, rfl, rfl, by decide +kernel, by decide +kernel,
    by decide +kernel⟩

end Zero

end Rounding

end HingeField
