import HingeField.Proofs.Connectivity
import HingeField.Proofs.Decision
import HingeField.Proofs.Interleaving
import HingeField.Proofs.Schedule
import HingeField.Rounding.Bernoulli
import Mathlib.Data.List.Perm.Basic

/-!
Where rounding passes end. Whatever a pass does on its way, it ends with one
decision entered for each distinct variable: workers that share a model write
the values they try into each other's arena, but only into cells of variables
that they have still to decide. Main statement: the listed variables end at the
values zero and one that have been committed for them, everything else is as
before, and the outcome says which values these are, how many of them are one,
and how many are not the nearest values of the variables at the start.
-/

namespace HingeField

theorem Register.flatten_components {α : Type} (register : Register α) (indices : List Int) :
    (register.components indices).flatten.Perm indices.eraseDups := by
  obtain ⟨label, components, _⟩ := register.components_eq indices
  rw [components]
  exact Keyed.flatten_grouped label indices.eraseDups

namespace Rounding

open Model

variable {α : Type} [Scalar α] {register : Register α} {tieBreak : TieBreak}

section Runs

variable {model finish : Model α}

theorem decideComponents_of_ok {components : List (List Int)}
    (resolves : Resolves model.values.length components.flatten)
    (success : decideComponents register tieBreak components model = .ok () finish) :
    ∃ made, Made components.flatten made ∧ finish = model.enterAll made := by
  induction components generalizing model with
  | nil =>
      cases success
      exact ⟨[], made_nil, rfl⟩
  | cons members components ih =>
      obtain ⟨middle, decided, others⟩ := decideComponents_cons_eq_ok_iff.mp success
      rw [List.flatten_cons] at resolves ⊢
      obtain ⟨made, turns, rfl⟩ := decideAll_of_ok
        (fun index member => resolves index (List.mem_append_left _ member)) decided
      obtain ⟨later, laterTurns, rfl⟩ := ih (by
        rw [length_enterAll]
        exact fun index member => resolves index (List.mem_append_right _ member)) others
      exact ⟨made ++ later, turns.append laterTurns, (enterAll_append _ _ _).symm⟩

/-- The decisions of a pass that succeeds, in the order in which they are made. -/
theorem decideBy_of_ok {workers : Int} {ordered : List Int} (distinct : ordered.Nodup)
    (resolves : Resolves model.values.length ordered)
    (success : decideBy register tieBreak workers ordered model = .ok () finish) :
    ∃ listed made, listed.Perm ordered ∧ (workers ≤ 1 → listed = ordered) ∧ Made listed made ∧
      finish = model.enterAll made := by
  unfold decideBy at success
  by_cases single : workers ≤ 1
  · rw [if_pos single] at success
    obtain ⟨made, turns, ended⟩ := decideAll_of_ok resolves success
    exact ⟨ordered, made, List.Perm.refl ordered, fun _ => rfl, turns, ended⟩
  · rw [if_neg single] at success
    have perm := register.flatten_components ordered
    rw [eraseDups_of_nodup distinct] at perm
    obtain ⟨made, turns, ended⟩ := decideComponents_of_ok
      (fun index member => resolves index (perm.mem_iff.mp member)) success
    exact ⟨_, made, perm, fun claimed => absurd claimed single, turns, ended⟩

theorem isBit_drawn (draw value : α) : IsBit (drawn draw value) := by
  unfold drawn
  split
  · exact Or.inr rfl
  · exact Or.inl rfl

theorem roundByDraw_of_resolved {index : Int} {offset : Nat} {current : α}
    (resolved : resolvePosition? model.values.length index = some offset)
    (stands : model.values[offset]? = some current) (draw : α) :
    roundByDraw index draw model = .ok () (model.enter ⟨index, drawn draw current⟩) :=
  Effect.bind_eq_ok_iff.mpr
    ⟨current, model, readValue_of_resolved resolved stands, write_then_commit resolved _⟩

theorem roundByDraws_eq (draws : Nat → α) {pairs : List (Int × Nat)}
    (resolves : Resolves model.values.length (pairs.map (·.1))) :
    ∃ made, Made (pairs.map (·.1)) made ∧
      (pairs.forM fun (index, turn) => roundByDraw index (draws turn)) model =
        .ok () (model.enterAll made) := by
  induction pairs generalizing model with
  | nil => exact ⟨[], made_nil, rfl⟩
  | cons pair pairs ih =>
      obtain ⟨index, turn⟩ := pair
      obtain ⟨offset, resolved⟩ := resolves index List.mem_cons_self
      obtain ⟨current, stands⟩ : ∃ current, model.values[offset]? = some current :=
        ⟨_, List.getElem?_eq_getElem (resolvePosition?_lt resolved)⟩
      obtain ⟨made, turns, others⟩ :=
        ih (resolves_enter resolves ⟨index, drawn (draws turn) current⟩)
      exact ⟨_, turns.cons (isBit_drawn (draws turn) current),
        Effect.bind_eq_ok_iff.mpr ⟨(), _, roundByDraw_of_resolved resolved stands _, others⟩⟩

end Runs

section Workers

/-- What a worker is about to enter is zero or one, and stands in its cell once it has written it. -/
def Phase.IsReady (cell : Option α) : Phase α → Prop
  | .oneScored _ best => IsBit best
  | .chosen best => IsBit best
  | .written => ∃ value, cell = some value ∧ IsBit value
  | _ => True

def Worker.IsReady (arena : Arena α) (worker : Worker α) : Prop :=
  ∀ index ∈ worker.pending.head?, worker.phase.IsReady arena[index.toNat]?

/-- A step of a worker changes at most the cell of the variable it is deciding, or it enters the
decision that stands there. -/
theorem Worker.step_of_ready {model after : Model α} {index : Int} {rest : List Int}
    {phase : Phase α} {later : Worker α}
    (inside : ∀ other ∈ index :: rest, 0 ≤ other ∧ other < model.values.length)
    (ready : phase.IsReady model.values[index.toNat]?)
    (stepped : Worker.step register tieBreak { pending := index :: rest, phase } model =
      .ok later after) :
    (∃ values, later.pending = index :: rest ∧ after = { model with values } ∧
        values.length = model.values.length ∧
        (∀ offset, offset ≠ index.toNat → values[offset]? = model.values[offset]?) ∧
        later.phase.IsReady values[index.toNat]?) ∨
      ∃ value, later = { pending := rest } ∧ IsBit value ∧
        model.values[index.toNat]? = some value ∧ after = model.enter ⟨index, value⟩ := by
  obtain ⟨lower, upper⟩ := inside index List.mem_cons_self
  have small : index.toNat < model.values.length := by omega
  have stored (value : α) (offset : Nat) (different : offset ≠ index.toNat) :
      (model.values.set index.toNat value)[offset]? = model.values[offset]? :=
    List.getElem?_set_ne different.symm
  have busy : (⟨index :: rest, phase⟩ : Worker α).pending ≠ [] := List.cons_ne_nil index rest
  rcases Worker.step_eq register tieBreak busy inside with
    ⟨next, change, planned, done⟩ | ⟨_, fault, failed⟩
  · cases done.symm.trans stepped
    cases phase with
    | waiting =>
        obtain ⟨current, _, same⟩ := Option.bind_eq_some_iff.mp planned
        cases same
        refine Or.inl ⟨model.values, rfl, rfl, rfl, fun _ _ => rfl, ?_⟩
        dsimp only
        split
        · exact isBit_nearest current
        · trivial
    | opened current =>
        cases planned
        exact Or.inl ⟨_, rfl, rfl, List.length_set, stored Scalar.zero, trivial⟩
    | zeroWritten current =>
        obtain ⟨atZero, _, same⟩ := Option.bind_eq_some_iff.mp planned
        cases same
        exact Or.inl ⟨model.values, rfl, rfl, rfl, fun _ _ => rfl, trivial⟩
    | zeroScored current atZero =>
        cases planned
        exact Or.inl ⟨_, rfl, rfl, List.length_set, stored Scalar.one, trivial⟩
    | oneWritten current atZero =>
        obtain ⟨atOne, _, same⟩ := Option.bind_eq_some_iff.mp planned
        cases same
        exact Or.inl ⟨model.values, rfl, rfl, rfl, fun _ _ => rfl, isBit_better _ _ _⟩
    | oneScored current best =>
        cases planned
        exact Or.inl ⟨_, rfl, rfl, List.length_set, stored current, ready⟩
    | chosen best =>
        cases planned
        exact Or.inl ⟨_, rfl, rfl, List.length_set, stored best,
          best, List.getElem?_set_self small, ready⟩
    | written =>
        obtain ⟨value, stands, isBit⟩ := ready
        obtain ⟨recorded, read, same⟩ := Option.bind_eq_some_iff.mp planned
        cases same
        have resolved := resolvePosition?_of_inside lower upper
        rw [Arena.read_eq_ok_iff.mpr ⟨_, resolved, stands⟩] at read
        cases read
        have unmoved : model.values.set index.toNat value = model.values := by
          obtain ⟨_, rfl⟩ := List.getElem?_eq_some_iff.mp stands
          exact List.set_getElem_self _
        refine Or.inr ⟨value, rfl, isBit, stands, ?_⟩
        have entered : model.enter ⟨index, value⟩ = _ := enter_of_resolved resolved
        rw [entered]
        dsimp only
        rw [unmoved]
        rfl
  · cases failed.symm.trans stepped

/-- A pool whose workers have made decisions and are at work on others. Off the cells of the
variables that are being decided, the arena is as after the decisions that were made. -/
structure Pool.Tracked (base : Model α) (listed : List Int) (made : List (Commit α))
    (pool : Pool α) : Prop where
  frame : pool.model = { base.enterAll made with values := pool.model.values }
  sameLength : pool.model.values.length = base.values.length
  left : (made.map (·.index) ++ pool.workers.flatMap (·.pending)).Perm listed
  areBits : ∀ commit ∈ made, IsBit commit.value
  ready : ∀ worker ∈ pool.workers, worker.IsReady pool.model.values
  settled : ∀ offset,
    (∀ worker ∈ pool.workers, ∀ index ∈ worker.pending.head?, index.toNat ≠ offset) →
    pool.model.values[offset]? = (base.enterAll made).values[offset]?

namespace Pool

variable {base : Model α} {listed : List Int} {made : List (Commit α)} {pool next : Pool α}

omit [Scalar α] in
theorem perm_workers {workers : List (Worker α)} {place : Nat} {worker : Worker α}
    (found : workers[place]? = some worker) :
    ∃ others, workers.Perm (worker :: others) ∧
      ∀ later, (workers.set place later).Perm (later :: others) := by
  obtain ⟨small, rfl⟩ := List.getElem?_eq_some_iff.mp found
  exact ⟨_, (List.getElem_cons_eraseIdx_perm small).symm,
    fun later => List.set_perm_cons_eraseIdx small later⟩

theorem tracked_start {components : List (List Int)} (perm : components.flatten.Perm listed) :
    Tracked base listed [] (start base components) := by
  refine ⟨rfl, rfl, ?_, ?_, ?_, fun _ _ => rfl⟩
  · change ((components.map fun members => ({ pending := members } : Worker α)).flatMap
      (·.pending)).Perm listed
    rw [List.flatMap_map, List.flatMap_id']
    exact perm
  · exact fun _ member => absurd member List.not_mem_nil
  · intro worker member index _
    obtain ⟨members, _, rfl⟩ := List.mem_map.mp member
    trivial

/-- The variable that a worker is deciding is none of those that the others have before them. -/
theorem Tracked.apart (tracked : Tracked base listed made pool) (distinct : listed.Nodup)
    (inside : ∀ index ∈ listed, 0 ≤ index ∧ index < base.values.length) {worker : Worker α}
    {others : List (Worker α)} (workers : pool.workers.Perm (worker :: others)) {index : Int}
    {rest : List Int} (pending : worker.pending = index :: rest) :
    (∀ other ∈ index :: rest, 0 ≤ other ∧ other < pool.model.values.length) ∧
      ∀ other ∈ others, ∀ head ∈ other.pending.head?, head.toNat ≠ index.toNat := by
  have left : (made.map (·.index) ++ (index :: rest ++ others.flatMap (·.pending))).Perm
      listed := by
    refine List.Perm.trans ?_ tracked.left
    rw [← pending]
    exact ((workers.flatMap_right (·.pending)).symm).append_left _
  have member {asked : Int} (among : asked ∈ index :: rest ++ others.flatMap (·.pending)) :
      0 ≤ asked ∧ asked < base.values.length :=
    inside asked (left.mem_iff.mp (List.mem_append_right _ among))
  obtain ⟨_, once, _⟩ := List.nodup_append.mp (left.nodup_iff.mpr distinct)
  refine ⟨?_, ?_⟩
  · intro other among
    rw [tracked.sameLength]
    exact member (List.mem_append_left _ among)
  · intro other listedOther head isHead same
    have pendingThere : head ∈ others.flatMap (·.pending) :=
      List.mem_flatMap.mpr ⟨other, listedOther, List.mem_of_mem_head? isHead⟩
    have lower := (member (List.mem_append_left _ (List.mem_cons_self))).1
    have headLower := (member (List.mem_append_right _ pendingThere)).1
    have equal : head = index := by omega
    refine (List.nodup_cons.mp once).1 (List.mem_append_right _ ?_)
    rw [← equal]
    exact pendingThere

section Turn

variable {index : Int} {rest : List Int} {phase : Phase α} {others workers : List (Worker α)}
  (tracked : Tracked base listed made pool)
  (before : pool.workers.Perm ({ pending := index :: rest, phase } :: others))

include tracked before

theorem Tracked.settled_apart {offset : Nat} (different : offset ≠ index.toNat)
    (free : ∀ other ∈ others, ∀ head ∈ other.pending.head?, head.toNat ≠ offset) :
    pool.model.values[offset]? = (base.enterAll made).values[offset]? := by
  apply tracked.settled
  intro other member head isHead
  rcases List.mem_cons.mp (before.mem_iff.mp member) with rfl | member
  · cases isHead
    exact different.symm
  · exact free other member head isHead

variable (apart : ∀ other ∈ others, ∀ head ∈ other.pending.head?, head.toNat ≠ index.toNat)

include apart

/-- What the other workers are about to enter is not in the cell of this one. -/
theorem Tracked.others_ready {values : Arena α}
    (same : ∀ offset, offset ≠ index.toNat → values[offset]? = pool.model.values[offset]?) :
    ∀ other ∈ others, other.IsReady values := by
  intro other member head isHead
  rw [same _ (apart other member head isHead)]
  exact tracked.ready other (before.mem_iff.mpr (List.mem_cons_of_mem _ member)) head isHead

/-- A step that changes no cell but that of the variable being decided. -/
theorem Tracked.tries {values : Arena α} {later : Worker α}
    (behind : workers.Perm (later :: others)) (samePending : later.pending = index :: rest)
    (sameLength : values.length = pool.model.values.length)
    (same : ∀ offset, offset ≠ index.toNat → values[offset]? = pool.model.values[offset]?)
    (ready : later.phase.IsReady values[index.toNat]?) :
    Tracked base listed made { model := { pool.model with values }, workers } := by
  refine ⟨?_, sameLength.trans tracked.sameLength, ?_, tracked.areBits, ?_, ?_⟩
  · exact congrArg (fun model : Model α => { model with values }) tracked.frame
  · have now := (behind.flatMap_right (·.pending)).append_left (made.map (·.index))
    rw [List.flatMap_cons, samePending] at now
    have left := (before.flatMap_right (·.pending)).append_left (made.map (·.index))
    exact now.trans (left.symm.trans tracked.left)
  · intro worker member
    rcases List.mem_cons.mp (behind.mem_iff.mp member) with rfl | member
    · intro head isHead
      rw [samePending] at isHead
      cases isHead
      exact ready
    · exact tracked.others_ready before apart same worker member
  · intro offset free
    have different : offset ≠ index.toNat := by
      refine (free later (behind.mem_iff.mpr List.mem_cons_self) index ?_).symm
      rw [samePending]
      rfl
    rw [same offset different]
    exact tracked.settled_apart before different fun other member =>
      free other (behind.mem_iff.mpr (List.mem_cons_of_mem _ member))

/-- A step that commits what stands in the cell of the variable, which is then decided. -/
theorem Tracked.commits {value : α} (behind : workers.Perm ({ pending := rest } :: others))
    (lower : 0 ≤ index) (upper : index < pool.model.values.length) (isBit : IsBit value) :
    Tracked base listed (made ++ [⟨index, value⟩])
      { model := pool.model.enter ⟨index, value⟩, workers } := by
  have sameLength : pool.model.values.length = (base.enterAll made).values.length := by
    rw [length_enterAll]
    exact tracked.sameLength
  have resolved := resolvePosition?_of_inside lower upper
  have resolvedThere := resolved
  rw [sameLength] at resolvedThere
  have unnamed (offset : Nat) (different : offset ≠ index.toNat) :
      some index.toNat ≠ some offset := fun same => different (Option.some.inj same).symm
  have elsewhere (offset : Nat) (different : offset ≠ index.toNat) :
      (pool.model.enter ⟨index, value⟩).values[offset]? = pool.model.values[offset]? := by
    apply getElem?_enter_of_unnamed
    rw [resolved]
    exact unnamed offset different
  refine ⟨?_, (length_enter _ _).trans tracked.sameLength, ?_, ?_, ?_, ?_⟩
  · rw [enterAll_append]
    exact enter_of_frame tracked.frame sameLength
  · have now := (behind.flatMap_right (·.pending)).append_left (made.map (·.index) ++ [index])
    have left := (before.flatMap_right (·.pending)).append_left (made.map (·.index))
    rw [List.map_append]
    refine now.trans ?_
    rw [List.append_assoc]
    exact left.symm.trans tracked.left
  · intro commit member
    rcases List.mem_append.mp member with early | last
    · exact tracked.areBits commit early
    · rw [List.mem_singleton.mp last]
      exact isBit
  · intro worker member
    rcases List.mem_cons.mp (behind.mem_iff.mp member) with rfl | member
    · exact fun _ _ => trivial
    · exact tracked.others_ready before apart elsewhere worker member
  · intro offset free
    rw [enterAll_append]
    change _ = ((base.enterAll made).enter ⟨index, value⟩).values[offset]?
    by_cases here : offset = index.toNat
    · rw [here, getElem?_enter_self resolved, getElem?_enter_self resolvedThere]
    · rw [elsewhere offset here, getElem?_enter_of_unnamed (by
        rw [resolvedThere]
        exact unnamed offset here)]
      exact tracked.settled_apart before here fun other member =>
        free other (behind.mem_iff.mpr (List.mem_cons_of_mem _ member))

end Turn

theorem Tracked.turn (tracked : Tracked base listed made pool) (distinct : listed.Nodup)
    (inside : ∀ index ∈ listed, 0 ≤ index ∧ index < base.values.length) {place : Nat}
    (taken : pool.turn register tieBreak place = some next) :
    ∃ more, Tracked base listed more next := by
  obtain ⟨⟨pending, phase⟩, later, after, found, busy, stepped, rfl⟩ := turn_eq_some_iff.mp taken
  obtain ⟨index, rest, rfl⟩ := List.exists_cons_of_ne_nil busy
  obtain ⟨others, before, behind⟩ := perm_workers found
  obtain ⟨pendingInside, apart⟩ := tracked.apart distinct inside before rfl
  have ready := tracked.ready _ (before.mem_iff.mpr List.mem_cons_self) index rfl
  rcases Worker.step_of_ready pendingInside ready stepped with
    ⟨values, samePending, rfl, sameLength, same, laterReady⟩ | ⟨value, rfl, isBit, _, rfl⟩
  · exact ⟨made, tracked.tries before apart (behind later) samePending sameLength same laterReady⟩
  · obtain ⟨lower, upper⟩ := pendingInside index List.mem_cons_self
    exact ⟨_, tracked.commits before apart (behind _) lower upper isBit⟩

theorem Tracked.turns (tracked : Tracked base listed made pool) (distinct : listed.Nodup)
    (inside : ∀ index ∈ listed, 0 ≤ index ∧ index < base.values.length) {turns : Nat}
    (run : Turns register tieBreak turns pool next) : ∃ more, Tracked base listed more next := by
  induction run generalizing made with
  | none pool => exact ⟨made, tracked⟩
  | more taken rest ih =>
      obtain ⟨more, later⟩ := tracked.turn distinct inside taken
      exact ih later

/-- When all workers are done, the decisions they have made are entered, and no more. -/
theorem Tracked.finished (tracked : Tracked base listed made pool) (finished : pool.IsFinished) :
    Made (made.map (·.index)) made ∧ (made.map (·.index)).Perm listed ∧
      pool.model = base.enterAll made := by
  have nothingLeft : pool.workers.flatMap (·.pending) = [] :=
    List.flatMap_eq_nil_iff.mpr finished
  have left := tracked.left
  rw [nothingLeft, List.append_nil] at left
  refine ⟨⟨rfl, tracked.areBits⟩, left, ?_⟩
  have sameValues : pool.model.values = (base.enterAll made).values := by
    apply List.ext_getElem?
    intro offset
    apply tracked.settled
    intro worker member index isHead
    rw [finished worker member] at isHead
    cases isHead
  rw [tracked.frame, sameValues]

end Pool

end Workers

section Outcomes

variable {indices : List Int}

omit [Scalar α] in
theorem cells_of_mapM_read {arena values : Arena α} (lower : ∀ index ∈ indices, 0 ≤ index)
    (read : indices.mapM arena.read = .ok values) :
    values.map some = indices.map fun index => arena[index.toNat]? := by
  induction indices generalizing values with
  | nil =>
      rw [mapM_nil_eq_ok_iff.mp read]
      rfl
  | cons index rest ih =>
      obtain ⟨value, others, first, later, rfl⟩ := mapM_cons_eq_ok_iff.mp read
      obtain ⟨offset, resolved, stands⟩ := Arena.read_eq_ok_iff.mp first
      rw [eq_toNat_of_resolved (lower index List.mem_cons_self) resolved] at stands
      rw [List.map_cons, List.map_cons, stands,
        ih (fun other member => lower other (List.mem_cons_of_mem index member)) later]

theorem equal_iff_of_isBit {first second : Float} (isBit : IsBit first) (otherIsBit : IsBit second) :
    Scalar.equal first second = true ↔ first = second := by
  rcases isBit with rfl | rfl
  · rcases otherIsBit with rfl | rfl
    · decide
    · decide
  · rcases otherIsBit with rfl | rfl
    · decide
    · decide

/-- What a pass leaves that has made the given decisions, and the outcome it gives. -/
structure Rounded (model : Model Float) (indices : List Int) (made : List (Commit Float))
    (outcome : Outcome Float) (finish : Model Float) : Prop where
  turns : (made.map (·.index)).Perm indices.eraseDups
  decided : ∀ index ∈ indices, ∃ value, (value = 0.0 ∨ value = 1.0) ∧
    finish.values[index.toNat]? = some value ∧ finish.committed.lookup index = some value ∧
    ⟨index, value⟩ ∈ made
  elsewhere : ∀ offset : Nat, (offset : Int) ∉ indices →
    finish.values[offset]? = model.values[offset]?
  undecided : ∀ index, index ∉ indices →
    finish.committed.lookup index = model.committed.lookup index
  journal : finish.journal = if model.keepsJournal then model.journal ++ made else model.journal
  unchanged : finish = { model with
    values := finish.values, committed := finish.committed, journal := finish.journal }
  distinct : outcome.indices = indices.eraseDups
  aligned : outcome.values.map some =
    indices.eraseDups.map fun index => finish.values[index.toNat]?
  ones : outcome.ones =
    indices.eraseDups.countP fun index => finish.values[index.toNat]? = some 1.0
  changed : outcome.changed =
    indices.eraseDups.countP fun index =>
      finish.values[index.toNat]? ≠ (model.values[index.toNat]?).map Scalar.nearest

theorem count_ones {values : List Float} {cell : Int → Option Float}
    (areBits : ∀ value ∈ values, IsBit value)
    (aligned : values.map some = indices.map cell) :
    (values.filter fun value => Scalar.equal value Scalar.one).length =
      indices.countP fun index => cell index = some 1.0 := by
  have ofCell : (indices.map cell).countP (fun found => found = some 1.0) =
      indices.countP fun index => cell index = some 1.0 := List.countP_map
  rw [← ofCell, ← aligned, List.countP_map, ← List.countP_eq_length_filter]
  apply List.countP_congr
  intro value member
  have isOne := equal_iff_of_isBit (areBits value member) (Or.inr rfl)
  rw [isOne]
  simp only [Function.comp_apply, decide_eq_true_eq, Option.some.injEq]
  rfl

theorem count_changed {values starting : List Float} {cell first : Int → Option Float}
    (areBits : ∀ value ∈ values, IsBit value)
    (aligned : values.map some = indices.map cell)
    (startAligned : starting.map some = indices.map first) :
    ((values.zip starting).filter fun (value, start) =>
        !Scalar.equal value (Scalar.nearest start)).length =
      indices.countP fun index => cell index ≠ (first index).map Scalar.nearest := by
  have ofCells : ((indices.map cell).zip (indices.map first)).countP
      (fun found => found.1 ≠ found.2.map Scalar.nearest) =
      indices.countP fun index => cell index ≠ (first index).map Scalar.nearest := by
    rw [List.zip_map', List.countP_map]
    rfl
  rw [← ofCells, ← aligned, ← startAligned, List.zip_map, List.countP_map,
    ← List.countP_eq_length_filter]
  apply List.countP_congr
  rintro ⟨value, start⟩ member
  have same := equal_iff_of_isBit (areBits value (List.of_mem_zip member).1) (isBit_nearest start)
  rw [Bool.not_eq_true', ← Bool.not_eq_true, same]
  simp only [Function.comp_apply, Prod.map, Option.map_some, ne_eq, decide_eq_true_eq,
    Option.some.injEq]

variable {base model finish : Model Float} {listed : List Int} {made : List (Commit Float)}
  {starting : List Float} {outcome : Outcome Float}

theorem decided_of_made (inside : ∀ index ∈ listed, 0 ≤ index ∧ index < base.values.length)
    (turns : Made listed made) {index : Int} (member : index ∈ listed) :
    ∃ value, IsBit value ∧ (base.enterAll made).values[index.toNat]? = some value ∧
      (base.enterAll made).committed.lookup index = some value ∧ ⟨index, value⟩ ∈ made := by
  obtain ⟨lower, upper⟩ := inside index member
  have resolved := resolvePosition?_of_inside lower upper
  rcases cell_enterAll base made index.toNat with
    ⟨commit, entered, names, stands, recorded⟩ | ⟨unnamed, _⟩
  · have commitLower := (inside commit.index (turns.mem_listed entered)).1
    have same : commit.index = index := by
      have offset := eq_toNat_of_resolved commitLower names
      omega
    rw [same] at recorded
    refine ⟨commit.value, turns.areBits commit entered, stands, recorded, ?_⟩
    rw [← same]
    exact entered
  · obtain ⟨commit, entered, rfl⟩ := turns.exists_commit member
    exact absurd resolved (unnamed commit entered)

theorem rounded_of_made
    (inside : ∀ index ∈ indices, 0 ≤ index ∧ index < model.values.length)
    (frame : base = { model with values := base.values })
    (sameLength : base.values.length = model.values.length)
    (elsewhere : ∀ offset : Nat, (offset : Int) ∉ indices →
      base.values[offset]? = model.values[offset]?)
    (turns : Made listed made) (perm : listed.Perm indices.eraseDups)
    (areWords : indices.eraseDups.all isWord = true)
    (read : indices.eraseDups.mapM model.values.read = .ok starting)
    (ended : outcomeFrom indices.eraseDups starting (base.enterAll made) = .ok outcome finish) :
    Rounded model indices made outcome finish := by
  have listing (index : Int) : index ∈ listed ↔ index ∈ indices := by
    rw [perm.mem_iff, List.mem_eraseDups]
  have listedInside : ∀ index ∈ listed, 0 ≤ index ∧ index < base.values.length := by
    intro index member
    rw [sameLength]
    exact inside index ((listing index).mp member)
  have lower : ∀ index ∈ indices.eraseDups, 0 ≤ index := fun index member =>
    (inside index (List.mem_eraseDups.mp member)).1
  obtain ⟨values, after, found, same⟩ := Effect.bind_eq_ok_iff.mp ended
  rw [valuesAtBits_of_words areWords] at found
  obtain ⟨final, rfl⟩ := valuesAt_eq_ok_iff.mp found
  cases same
  have aligned := cells_of_mapM_read lower final
  have startAligned := cells_of_mapM_read lower read
  have areBits : ∀ value ∈ values, IsBit value := by
    intro value member
    obtain ⟨index, asked, taken⟩ := exists_of_mem_mapM final member
    have among := (listing index).mpr (List.mem_eraseDups.mp asked)
    obtain ⟨offset, resolved, stands⟩ := Arena.read_eq_ok_iff.mp taken
    obtain ⟨decided, isBit, cell, _⟩ := decided_of_made listedInside turns among
    rw [eq_toNat_of_resolved (lower index asked) resolved, cell] at stands
    cases stands
    exact isBit
  refine ⟨?_, ?_, ?_, ?_, ?_, ?_, rfl, aligned, count_ones areBits aligned,
    count_changed areBits aligned startAligned⟩
  · rw [turns.turns]
    exact perm
  · intro index member
    exact decided_of_made listedInside turns ((listing index).mpr member)
  · intro offset unlisted
    rcases cell_enterAll base made offset with ⟨commit, entered, names, _⟩ | ⟨_, kept⟩
    · have among := turns.mem_listed entered
      have same := eq_toNat_of_resolved (listedInside commit.index among).1 names
      have commitLower := (listedInside commit.index among).1
      refine absurd ((listing commit.index).mp among) ?_
      have index : commit.index = offset := by omega
      rw [index]
      exact unlisted
    · exact kept.trans (elsewhere offset unlisted)
  · intro index unlisted
    rw [lookup_enterAll_of_absent, frame]
    intro commit entered same
    exact unlisted ((listing index).mp (same ▸ turns.mem_listed entered))
  · rw [journal_enterAll, frame]
    intro commit entered
    obtain ⟨lower, upper⟩ := listedInside commit.index (turns.mem_listed entered)
    rw [resolvePosition?_of_inside lower upper]
    rfl
  · obtain ⟨_, _, _, entered⟩ := enterAll_eq base made
    rw [entered, frame]

end Outcomes

section Passes

variable {model : Model Float} {indices : List Int}

theorem Softened.elsewhere_of_inside {softened : Model Float}
    (softening : Softened model indices.eraseDups softened)
    (inside : ∀ index ∈ indices, 0 ≤ index ∧ index < model.values.length) (offset : Nat)
    (unlisted : (offset : Int) ∉ indices) :
    softened.values[offset]? = model.values[offset]? := by
  apply softening.elsewhere
  intro index member names
  have listed := List.mem_eraseDups.mp member
  have same := eq_toNat_of_resolved (inside index listed).1 names
  have lower := (inside index listed).1
  refine unlisted ?_
  have equal : (offset : Int) = index := by omega
  rw [equal]
  exact listed

/-- After a preparation, decisions on all variables in any order end the pass. -/
theorem Prepared.rounded {starting : List Float} {ordered listed : List Int}
    {softened finish : Model Float} {made : List (Commit Float)} {outcome : Outcome Float}
    (prepared : Prepared model indices starting ordered softened)
    (inside : ∀ index ∈ indices, 0 ≤ index ∧ index < model.values.length)
    (turns : Made listed made) (perm : listed.Perm ordered)
    (ended : outcomeFrom indices.eraseDups starting (softened.enterAll made) =
      .ok outcome finish) : Rounded model indices made outcome finish := by
  have read := prepared.read
  rw [valuesAtBits_of_words prepared.areWords] at read
  exact rounded_of_made inside prepared.softened.unchanged prepared.softened.sameLength
    (prepared.softened.elsewhere_of_inside inside) turns (perm.trans prepared.perm)
    prepared.areWords (valuesAt_eq_ok_iff.mp read).1 ended

theorem Prepared.ordered_inside {starting : List Float} {ordered : List Int}
    {softened : Model Float} (prepared : Prepared model indices starting ordered softened)
    (inside : ∀ index ∈ indices, 0 ≤ index ∧ index < model.values.length) :
    ordered.Nodup ∧ ∀ index ∈ ordered, 0 ≤ index ∧ index < softened.values.length := by
  refine ⟨prepared.perm.nodup_iff.mpr (nodup_eraseDups indices), ?_⟩
  intro index member
  rw [prepared.softened.sameLength]
  exact inside index (List.mem_eraseDups.mp (prepared.perm.mem_iff.mp member))

theorem prepared_of_prepare {starting : List Float} {ordered : List Int} {softened : Model Float}
    (success : prepare indices model = .ok (starting, ordered) softened) :
    Prepared model indices starting ordered softened := by
  rcases prepare_cases indices model with ⟨_, _, _, prepared, parts⟩ | ⟨_, refused⟩
  · cases prepared.symm.trans success
    exact parts
  · cases refused.symm.trans success

theorem rounded_of_greedy {register : Register Float} {tieBreak : TieBreak} {workers : Int}
    {outcome : Outcome Float} {finish : Model Float}
    (inside : ∀ index ∈ indices, 0 ≤ index ∧ index < model.values.length)
    (success : greedy register tieBreak workers indices model = .ok outcome finish) :
    ∃ made softened, Rounded model indices made outcome finish ∧
      Softened model indices.eraseDups softened ∧
      (workers ≤ 1 →
        order indices.eraseDups softened = .ok (made.map (·.index)) softened) := by
  obtain ⟨⟨starting, ordered⟩, softened, preparation⟩ := prepare_of_greedy success
  have prepared := prepared_of_prepare preparation
  obtain ⟨distinct, orderedInside⟩ := prepared.ordered_inside inside
  obtain ⟨after, decided, ended⟩ := (greedy_eq_ok_iff preparation).mp success
  obtain ⟨listed, made, perm, inOrder, turns, rfl⟩ :=
    decideBy_of_ok distinct (resolves_of_inside orderedInside) decided
  refine ⟨made, softened, prepared.rounded inside turns perm ended, prepared.softened, ?_⟩
  intro single
  rw [turns.turns, inOrder single]
  exact prepared.ordering

theorem rounded_of_interleaving {register : Register Float} {tieBreak : TieBreak}
    {starting : List Float} {ordered : List Int} {softened : Model Float} {turns : Nat}
    {pool : Pool Float}
    (inside : ∀ index ∈ indices, 0 ≤ index ∧ index < model.values.length)
    (preparation : prepare indices model = .ok (starting, ordered) softened)
    (run : Pool.Turns register tieBreak turns
      (Pool.start softened (register.components ordered)) pool) (finished : pool.IsFinished) :
    ∃ outcome made, outcomeFrom indices.eraseDups starting pool.model = .ok outcome pool.model ∧
      Rounded model indices made outcome pool.model := by
  have prepared := prepared_of_prepare preparation
  obtain ⟨distinct, orderedInside⟩ := prepared.ordered_inside inside
  have perm := register.flatten_components ordered
  rw [eraseDups_of_nodup distinct] at perm
  obtain ⟨made, tracked⟩ := (Pool.tracked_start perm).turns distinct orderedInside run
  obtain ⟨made', same, ended⟩ := tracked.finished finished
  have sameLength : pool.model.values.length = model.values.length :=
    tracked.sameLength.trans prepared.softened.sameLength
  obtain ⟨outcome, read⟩ := outcomeFrom_total prepared.read sameLength
  refine ⟨outcome, made, read, ?_⟩
  rw [ended] at read ⊢
  exact prepared.rounded inside made' same read

theorem rounded_of_bernoulli (draws : Nat → Float)
    (inside : ∀ index ∈ indices, 0 ≤ index ∧ index < model.values.length)
    (room : model.values.length ≤ wordBound) :
    ∃ outcome finish made, bernoulli draws indices model = .ok outcome finish ∧
      Rounded model indices made outcome finish ∧
      made.map (·.index) = indices.eraseDups := by
  have listedInside : ∀ index ∈ indices.eraseDups, 0 ≤ index ∧ index < model.values.length :=
    fun index member => inside index (List.mem_eraseDups.mp member)
  have areWords : indices.eraseDups.all isWord = true := by
    rw [List.all_eq_true]
    intro index member
    obtain ⟨lower, upper⟩ := listedInside index member
    unfold isWord
    simp only [Bool.and_eq_true, decide_eq_true_eq]
    unfold wordBound at room ⊢
    omega
  obtain ⟨starting, read⟩ := mapM_read_of_inside listedInside
  have bits : valuesAtBits indices.eraseDups model = .ok starting model := by
    rw [valuesAtBits_of_words areWords]
    exact valuesAt_eq_ok_iff.mpr ⟨read, rfl⟩
  have keys : indices.eraseDups.zipIdx.map (·.1) = indices.eraseDups := List.zipIdx_map_fst 0 _
  have resolves : Resolves model.values.length (indices.eraseDups.zipIdx.map (·.1)) := by
    rw [keys]
    exact resolves_of_inside listedInside
  obtain ⟨made, turns, drawn⟩ := roundByDraws_eq draws resolves
  rw [keys] at turns
  obtain ⟨outcome, ended⟩ := outcomeFrom_total bits (length_enterAll model made)
  refine ⟨outcome, model.enterAll made, made, ?_, ?_, turns.turns⟩
  · exact Effect.bind_eq_ok_iff.mpr ⟨starting, model, bits,
      Effect.bind_eq_ok_iff.mpr ⟨(), _, drawn, ended⟩⟩
  · exact rounded_of_made inside rfl rfl (fun _ _ => rfl) turns (List.Perm.refl _) areWords read
      ended

/-- Greedy rounding by any number of workers, the workers in whatever turns, and rounding by draws
leave every listed variable at zero or one, committed once at this value, and everything else as it
was. A single worker commits them by descending softened value, and draws in the order of the list.
Draws take the indices as machine words, and all indices of an arena of such a size are words. -/
theorem passes_round_listed_variables
    (inside : ∀ index ∈ indices, 0 ≤ index ∧ index < model.values.length) :
    (∀ register tieBreak workers outcome finish,
        greedy register tieBreak workers indices model = .ok outcome finish →
        ∃ made softened, Rounded model indices made outcome finish ∧
          Softened model indices.eraseDups softened ∧
          (workers ≤ 1 →
            order indices.eraseDups softened = .ok (made.map (·.index)) softened)) ∧
      (∀ register tieBreak starting ordered softened turns pool,
        prepare indices model = .ok (starting, ordered) softened →
        Pool.Turns register tieBreak turns
          (Pool.start softened (register.components ordered)) pool →
        pool.IsFinished →
        ∃ outcome made,
          outcomeFrom indices.eraseDups starting pool.model = .ok outcome pool.model ∧
            Rounded model indices made outcome pool.model) ∧
      (model.values.length ≤ wordBound → ∀ draws,
        ∃ outcome finish made, bernoulli draws indices model = .ok outcome finish ∧
          Rounded model indices made outcome finish ∧
          made.map (·.index) = indices.eraseDups) := by
  refine ⟨?_, ?_, ?_⟩
  · intro register tieBreak workers outcome finish success
    exact rounded_of_greedy inside success
  · intro register tieBreak starting ordered softened turns pool preparation run finished
    exact rounded_of_interleaving inside preparation run finished
  · intro room draws
    exact rounded_of_bernoulli draws inside room

end Passes

section Closed

/-- A clause over the last of three variables. -/
def lastClause : Rule Float :=
  { weight := 1.0, name := "last", body := .clause [⟨2, true⟩] false }

def middleClosed : Model Float :=
  { values := [0.7, 0.5, 0.2], owners := [none, none, none] }

def outerSoftened : Model Float :=
  { middleClosed with values := [Scalar.softened 0.7, 0.5, Scalar.softened 0.2] }

/-- Where a single worker leaves them. -/
def outerRounded : Model Float :=
  Effect.final (decideAll (Register.ofList [lastClause]) .later [0, 2] outerSoftened)

def outerComponents : List (List Int) :=
  (Register.ofList [lastClause]).components [0, 2]

/-- Where a worker for each component leaves them. -/
def outerRoundedApart : Model Float :=
  Effect.final (decideComponents (Register.ofList [lastClause]) .later outerComponents
    outerSoftened)

theorem prepare_middleClosed :
    prepare [0, 2, 0] middleClosed = .ok ([0.7, 0.2], [0, 2]) outerSoftened := by
  have softened : soften [0, 2] middleClosed = .ok () outerSoftened := by
    with_unfolding_all rfl
  have ordered : order [0, 2] outerSoftened = .ok [0, 2] outerSoftened := by
    have found : valuesAtWords [0, 2] outerSoftened =
        .ok [Scalar.softened 0.7, Scalar.softened 0.2] outerSoftened := rfl
    unfold order
    rw [Effect.run_bind, found]
    simp only
    rw [List.mergeSort_of_pairwise (by decide +kernel)]
    rfl
  have distinct : ([0, 2, 0] : List Int).eraseDups = [0, 2] := by decide +kernel
  have starting : valuesAtBits [0, 2] middleClosed = .ok [0.7, 0.2] middleClosed := rfl
  unfold prepare
  simp only [distinct, Effect.run_bind, starting, softened, ordered, Effect.run_pure]

theorem passes_round_listed_variables_middleClosed :
    (∀ index ∈ ([0, 2, 0] : List Int), 0 ≤ index ∧ index < middleClosed.values.length) ∧
      (∃ outcome made,
        greedy (Register.ofList [lastClause]) .later 1 [0, 2, 0] middleClosed =
            .ok outcome outerRounded ∧
          outerRounded.values = [1.0, 0.5, 1.0] ∧
          Rounded middleClosed [0, 2, 0] made outcome outerRounded) ∧
      (∃ turns pool,
        Pool.Turns (Register.ofList [lastClause]) .later turns
          (Pool.start outerSoftened outerComponents) pool ∧
        pool.IsFinished ∧
        ∃ outcome made, Rounded middleClosed [0, 2, 0] made outcome pool.model) ∧
      ∀ draws, ∃ outcome finish made,
        bernoulli draws [0, 2, 0] middleClosed = .ok outcome finish ∧
          Rounded middleClosed [0, 2, 0] made outcome finish := by
  have inside : ∀ index ∈ ([0, 2, 0] : List Int),
      0 ≤ index ∧ index < middleClosed.values.length := by decide
  have decided : decideAll (Register.ofList [lastClause]) .later [0, 2] outerSoftened =
      .ok () outerRounded :=
    Effect.eq_ok_of_succeeded (by decide +kernel)
  have values : outerRounded.values = [1.0, 0.5, 1.0] := by decide +kernel
  have size : middleClosed.values.length = 3 := rfl
  have sameLength : outerRounded.values.length = 3 := by
    rw [values]
    rfl
  rw [← decideBy_one] at decided
  obtain ⟨outcome, ended⟩ := outcomeFrom_total
    (prepared_of_prepare prepare_middleClosed).read (sameLength.trans size.symm)
  have success := (greedy_eq_ok_iff prepare_middleClosed).mpr ⟨_, decided, ended⟩
  have apart : decideComponents (Register.ofList [lastClause]) .later outerComponents
      outerSoftened = .ok () outerRoundedApart :=
    Effect.eq_ok_of_succeeded (by decide +kernel)
  obtain ⟨turns, run⟩ := Pool.turns_of_decideComponents [] apart
  have finished := Pool.finished_idle outerRoundedApart outerComponents
  obtain ⟨byOne, byMany, byDraws⟩ := passes_round_listed_variables inside
  refine ⟨inside, ?_, ?_, ?_⟩
  · obtain ⟨made, _, rounded, _⟩ := byOne _ _ _ _ _ success
    exact ⟨outcome, made, success, values, rounded⟩
  · obtain ⟨outcome, made, _, rounded⟩ :=
      byMany _ _ _ _ _ _ _ prepare_middleClosed run finished
    exact ⟨turns, _, run, finished, outcome, made, rounded⟩
  · intro draws
    obtain ⟨outcome, finish, made, success, rounded, _⟩ := byDraws (by decide) draws
    exact ⟨outcome, finish, made, success, rounded⟩

end Closed

end Rounding

end HingeField
