import HingeField.Proofs.Greedy

/-!
Turns of separate workers. What a step does depends on the cells its worker can
see, those of its pending variables and of the atoms of their rules, and it
changes one of the pending variables at most. Workers are separate if none has
a pending variable that another one can see. Main statements: turns of
different workers can be swapped, and a worker that can take a turn now can
take it before any turn of another one; from any state between the start and
the end of a run every schedule leads to the same end in the same number of
turns.
-/

namespace HingeField

theorem Arena.AgreeAt.mono {α : Type} {positions others : List Int} {first second : Arena α}
    (agree : Arena.AgreeAt positions first second) (fewer : ∀ index ∈ others, index ∈ positions) :
    Arena.AgreeAt others first second :=
  ⟨agree.1, fun index member => agree.2 index (fewer index member)⟩

namespace Rounding

variable {α : Type}

section Changes

/-- What a step does to a model: nothing, or a value stored in or committed for a variable. -/
inductive Change (α : Type) where
  | nothing
  | store (index : Int) (value : α)
  | record (index : Int) (value : α)

/-- The variable that is changed. -/
def Change.target : Change α → Option Int
  | .nothing => none
  | .store index _ => some index
  | .record index _ => some index

/-- The arena, and the value committed last for each variable. -/
structure View (α : Type) where
  values : Arena α
  committed : Int → Option α

def viewOf (model : Model α) : View α :=
  { values := model.values, committed := fun index => model.committed.lookup index }

def Change.onModel (change : Change α) (model : Model α) : Model α :=
  match change with
  | .nothing => model
  | .store index value => { model with values := model.values.set index.toNat value }
  | .record index value =>
      { model with
        committed := Keyed.put model.committed index value
        journal := if model.keepsJournal then model.journal ++ [⟨index, value⟩] else model.journal }

def Change.onView (change : Change α) (view : View α) : View α :=
  match change with
  | .nothing => view
  | .store index value => { view with values := view.values.set index.toNat value }
  | .record index value =>
      { view with
        committed := fun asked => if asked = index then some value else view.committed asked }

theorem viewOf_onModel (change : Change α) (model : Model α) :
    viewOf (change.onModel model) = change.onView (viewOf model) := by
  cases change with
  | nothing => rfl
  | store index value => rfl
  | record index value =>
      unfold Change.onModel Change.onView viewOf
      congr 1
      funext asked
      by_cases same : asked = index
      · rw [same, Keyed.lookup_put_self, if_pos rfl]
      · rw [Keyed.lookup_put_of_ne _ same, if_neg same]

theorem length_onView (change : Change α) (view : View α) :
    (change.onView view).values.length = view.values.length := by
  cases change with
  | nothing => rfl
  | store index value => exact List.length_set
  | record index value => rfl

/-- Changes of different variables can be made in either order. -/
theorem onView_comm {first second : Change α} {view : View α}
    (valid : ∀ index, first.target = some index ∨ second.target = some index → 0 ≤ index)
    (different : ∀ index, first.target = some index → second.target ≠ some index) :
    first.onView (second.onView view) = second.onView (first.onView view) := by
  cases first with
  | nothing => rfl
  | store index value =>
      cases second with
      | nothing => rfl
      | store other otherValue =>
          have lower := valid index (Or.inl rfl)
          have otherLower := valid other (Or.inr rfl)
          have apart : other ≠ index := fun same => different index rfl (congrArg some same)
          unfold Change.onView
          simp only
          rw [List.set_comm _ _ (by omega)]
      | record other otherValue => rfl
  | record index value =>
      cases second with
      | nothing => rfl
      | store other otherValue => rfl
      | record other otherValue =>
          have apart : other ≠ index := fun same => different index rfl (congrArg some same)
          simp only [Change.onView, View.mk.injEq, true_and]
          funext asked
          by_cases same : asked = index
          · have otherwise : asked ≠ other := fun equal => apart (equal.symm.trans same)
            rw [if_pos same, if_neg otherwise, if_pos same]
          · rw [if_neg same, if_neg same]

/-- A change is not seen where its variable is not looked at. -/
theorem agreeAt_onView {change : Change α} {view : View α} {positions : List Int}
    (inside : ∀ index ∈ positions, 0 ≤ index)
    (unseen : ∀ index, change.target = some index → 0 ≤ index ∧ index ∉ positions) :
    Arena.AgreeAt positions (change.onView view).values view.values := by
  refine ⟨length_onView change view, ?_⟩
  intro position member
  cases change with
  | nothing => rfl
  | record index value => rfl
  | store index value =>
      obtain ⟨lower, absent⟩ := unseen index rfl
      have different : position ≠ index := fun same => absent (same ▸ member)
      exact Arena.read_set_of_ne lower (inside position member) different value

end Changes

section Sight

variable (register : Register α)

/-- The variables whose cells a worker with the given pending variables can see. -/
def visible (pending : List Int) : List Int :=
  pending.flatMap fun index => index :: (register.rulesFor index).flatMap fun rule => rule.atoms

theorem visible_mono {pending fewer : List Int} (subset : ∀ index ∈ fewer, index ∈ pending) :
    ∀ index ∈ visible register fewer, index ∈ visible register pending := by
  intro index member
  obtain ⟨origin, listed, seen⟩ := List.mem_flatMap.mp member
  exact List.mem_flatMap.mpr ⟨origin, subset origin listed, seen⟩

theorem mem_visible {pending : List Int} {index : Int} (member : index ∈ pending) :
    index ∈ visible register pending :=
  List.mem_flatMap.mpr ⟨index, member, List.mem_cons_self⟩

end Sight

section Plans

variable [Scalar α] (register : Register α) (tieBreak : TieBreak)

/-- What the next step of a worker does, by the arena alone; `none` if there is no step or if it
fails. -/
def Worker.plan (arena : Arena α) (worker : Worker α) : Option (Worker α × Change α) :=
  match worker.pending with
  | [] => none
  | index :: rest =>
      match worker.phase with
      | .waiting => do
          let current ← (arena.read index).toOption
          return ({ worker with
            phase :=
              if (register.rulesFor index).isEmpty then .chosen (Scalar.nearest current)
              else .opened current }, .nothing)
      | .opened current =>
          return ({ worker with phase := .zeroWritten current }, .store index Scalar.zero)
      | .zeroWritten current => do
          let atZero ← (Rule.expectedTotal (register.rulesFor index) arena).toOption
          return ({ worker with phase := .zeroScored current atZero }, .nothing)
      | .zeroScored current atZero =>
          return ({ worker with phase := .oneWritten current atZero }, .store index Scalar.one)
      | .oneWritten current atZero => do
          let atOne ← (Rule.expectedTotal (register.rulesFor index) arena).toOption
          return ({ worker with phase := .oneScored current (better tieBreak atZero atOne) },
            .nothing)
      | .oneScored current best =>
          return ({ worker with phase := .chosen best }, .store index current)
      | .chosen best => return ({ worker with phase := .written }, .store index best)
      | .written => do
          let value ← (arena.read index).toOption
          return ({ pending := rest }, .record index value)

/-- A step carries its plan out, or fails and leaves the model as it is. -/
theorem Worker.step_eq {model : Model α} {worker : Worker α} (busy : worker.pending ≠ [])
    (inside : ∀ index ∈ worker.pending, 0 ≤ index ∧ index < model.values.length) :
    (∃ next change, worker.plan register tieBreak model.values = some (next, change) ∧
        worker.step register tieBreak model = .ok next (change.onModel model)) ∨
      (worker.plan register tieBreak model.values = none ∧
        ∃ fault, worker.step register tieBreak model = .error fault model) := by
  obtain ⟨pending, phase⟩ := worker
  cases pending with
  | nil => exact absurd rfl busy
  | cons index rest =>
      obtain ⟨lower, upper⟩ := inside index List.mem_cons_self
      have small : index.toNat < model.values.length := by omega
      have readable := Arena.read_of_inside lower small
      have written (value : α) := Model.writeValue_of_inside lower small value
      cases phase with
      | waiting =>
          simp only [Worker.plan, Worker.step, Effect.run_bind, readable,
            Model.readValue_of_inside lower small]
          exact Or.inl ⟨_, .nothing, rfl, rfl⟩
      | opened current =>
          simp only [Worker.plan, Worker.step, Effect.run_bind, written]
          exact Or.inl ⟨_, .store index Scalar.zero, rfl, rfl⟩
      | zeroWritten current =>
          simp only [Worker.plan, Worker.step, Effect.run_bind, score_eq]
          cases Rule.expectedTotal (register.rulesFor index) model.values with
          | ok atZero => exact Or.inl ⟨_, .nothing, rfl, rfl⟩
          | error fault => exact Or.inr ⟨rfl, fault, rfl⟩
      | zeroScored current atZero =>
          simp only [Worker.plan, Worker.step, Effect.run_bind, written]
          exact Or.inl ⟨_, .store index Scalar.one, rfl, rfl⟩
      | oneWritten current atZero =>
          simp only [Worker.plan, Worker.step, Effect.run_bind, score_eq]
          cases Rule.expectedTotal (register.rulesFor index) model.values with
          | ok atOne => exact Or.inl ⟨_, .nothing, rfl, rfl⟩
          | error fault => exact Or.inr ⟨rfl, fault, rfl⟩
      | oneScored current best =>
          simp only [Worker.plan, Worker.step, Effect.run_bind, written]
          exact Or.inl ⟨_, .store index current, rfl, rfl⟩
      | chosen best =>
          simp only [Worker.plan, Worker.step, Effect.run_bind, written]
          exact Or.inl ⟨_, .store index best, rfl, rfl⟩
      | written =>
          simp only [Worker.plan, Worker.step, Effect.run_bind, readable,
            Model.commit_of_inside lower small]
          exact Or.inl ⟨_, .record index model.values[index.toNat], rfl, rfl⟩

/-- A step changes at most the variable that is being decided, and the pending variables are never
more than before. -/
theorem Worker.plan_shape {arena : Arena α} {worker next : Worker α} {change : Change α}
    (planned : worker.plan register tieBreak arena = some (next, change)) :
    (∀ index ∈ next.pending, index ∈ worker.pending) ∧
      ∀ index, change.target = some index → index ∈ worker.pending := by
  obtain ⟨pending, phase⟩ := worker
  cases pending with
  | nil => cases planned
  | cons head rest =>
      have itself : head ∈ head :: rest := List.mem_cons_self
      cases phase with
      | waiting =>
          obtain ⟨current, _, same⟩ := Option.bind_eq_some_iff.mp planned
          cases same
          exact ⟨fun _ member => member, nofun⟩
      | opened current =>
          cases planned
          exact ⟨fun _ member => member, fun _ same => Option.some.inj same ▸ itself⟩
      | zeroWritten current =>
          obtain ⟨atZero, _, same⟩ := Option.bind_eq_some_iff.mp planned
          cases same
          exact ⟨fun _ member => member, nofun⟩
      | zeroScored current atZero =>
          cases planned
          exact ⟨fun _ member => member, fun _ same => Option.some.inj same ▸ itself⟩
      | oneWritten current atZero =>
          obtain ⟨atOne, _, same⟩ := Option.bind_eq_some_iff.mp planned
          cases same
          exact ⟨fun _ member => member, nofun⟩
      | oneScored current best =>
          cases planned
          exact ⟨fun _ member => member, fun _ same => Option.some.inj same ▸ itself⟩
      | chosen best =>
          cases planned
          exact ⟨fun _ member => member, fun _ same => Option.some.inj same ▸ itself⟩
      | written =>
          obtain ⟨value, _, same⟩ := Option.bind_eq_some_iff.mp planned
          cases same
          exact ⟨fun _ member => List.mem_cons_of_mem head member,
            fun _ same => Option.some.inj same ▸ itself⟩

/-- A step is planned alike over arenas that agree on what the worker can see. -/
theorem Worker.plan_congr (areLocal : ∀ index, ∀ rule ∈ register.rulesFor index, rule.IsLocal)
    {worker : Worker α} {first second : Arena α}
    (agree : Arena.AgreeAt (visible register worker.pending) first second) :
    worker.plan register tieBreak first = worker.plan register tieBreak second := by
  obtain ⟨pending, phase⟩ := worker
  cases pending with
  | nil => rfl
  | cons index rest =>
      have sameRead := agree.2 index (mem_visible register List.mem_cons_self)
      have sameScore : Rule.expectedTotal (register.rulesFor index) first =
          Rule.expectedTotal (register.rulesFor index) second := by
        apply Rule.expectedTotal_congr (areLocal index)
        intro rule member
        apply agree.mono
        intro atom listed
        exact List.mem_flatMap.mpr ⟨index, List.mem_cons_self,
          List.mem_cons_of_mem index (List.mem_flatMap.mpr ⟨rule, member, listed⟩)⟩
      unfold Worker.plan
      simp only [sameRead, sameScore]

end Plans

/-- What the workers of a pool have before them. -/
structure Snapshot (α : Type) where
  view : View α
  workers : List (Worker α)

def Pool.snapshot (pool : Pool α) : Snapshot α :=
  { view := viewOf pool.model, workers := pool.workers }

namespace Snapshot

def IsFinished (snapshot : Snapshot α) : Prop :=
  ∀ worker ∈ snapshot.workers, worker.pending = []

variable [Scalar α] (register : Register α) (tieBreak : TieBreak)

def turn (place : Nat) (snapshot : Snapshot α) : Option (Snapshot α) := do
  let worker ← snapshot.workers[place]?
  let (next, change) ← worker.plan register tieBreak snapshot.view.values
  return { view := change.onView snapshot.view, workers := snapshot.workers.set place next }

inductive Turns : Nat → Snapshot α → Snapshot α → Prop where
  | none (snapshot : Snapshot α) : Turns 0 snapshot snapshot
  | more {turns place : Nat} {snapshot next finish : Snapshot α}
      (taken : snapshot.turn register tieBreak place = some next)
      (rest : Turns turns next finish) : Turns (turns + 1) snapshot finish

/-- Every worker sees cells of the arena only, and none that another one may change. -/
structure Separate (snapshot : Snapshot α) : Prop where
  inside : ∀ worker ∈ snapshot.workers, ∀ index ∈ visible register worker.pending,
    0 ≤ index ∧ index < snapshot.view.values.length
  apart : ∀ (place other : Nat) (worker otherWorker : Worker α),
    snapshot.workers[place]? = some worker → snapshot.workers[other]? = some otherWorker →
    place ≠ other → ∀ index ∈ worker.pending, index ∉ visible register otherWorker.pending

variable {register tieBreak}

theorem turn_eq_some_iff {snapshot next : Snapshot α} {place : Nat} :
    snapshot.turn register tieBreak place = some next ↔
      ∃ worker later change, snapshot.workers[place]? = some worker ∧
        worker.plan register tieBreak snapshot.view.values = some (later, change) ∧
        next = { view := change.onView snapshot.view
                 workers := snapshot.workers.set place later } := by
  unfold turn
  constructor
  · intro taken
    obtain ⟨worker, found, taken⟩ := Option.bind_eq_some_iff.mp taken
    obtain ⟨⟨later, change⟩, planned, same⟩ := Option.bind_eq_some_iff.mp taken
    cases same
    exact ⟨worker, later, change, found, planned, rfl⟩
  · rintro ⟨worker, later, change, found, planned, rfl⟩
    rw [found]
    change (worker.plan register tieBreak snapshot.view.values).bind _ = _
    rw [planned]
    rfl

omit [Scalar α] in
/-- A worker after a turn is the one that took it, gone on, or it is as it was. -/
theorem getElem?_set_workers {snapshot : Snapshot α} {place other : Nat} {later worker : Worker α}
    (found : (snapshot.workers.set place later)[other]? = some worker) :
    (other = place ∧ worker = later) ∨ (other ≠ place ∧ snapshot.workers[other]? = some worker) := by
  rw [List.getElem?_set] at found
  split at found
  · rename_i same
    split at found
    · cases found
      exact Or.inl ⟨same.symm, rfl⟩
    · cases found
  · rename_i different
    exact Or.inr ⟨fun same => different same.symm, found⟩

theorem Separate.turn {snapshot next : Snapshot α} {place : Nat}
    (separate : snapshot.Separate register)
    (taken : snapshot.turn register tieBreak place = some next) : next.Separate register := by
  obtain ⟨worker, later, change, found, planned, rfl⟩ := turn_eq_some_iff.mp taken
  have fewer := (Worker.plan_shape register tieBreak planned).1
  -- every worker comes from one at its place that had no fewer variables before it
  have origin (other : Nat) (current : Worker α)
      (stands : (snapshot.workers.set place later)[other]? = some current) :
      ∃ before, snapshot.workers[other]? = some before ∧
        ∀ index ∈ current.pending, index ∈ before.pending := by
    rcases getElem?_set_workers stands with ⟨rfl, rfl⟩ | ⟨_, unchanged⟩
    · exact ⟨worker, found, fewer⟩
    · exact ⟨current, unchanged, fun _ member => member⟩
  refine ⟨?_, ?_⟩
  · intro current member index seen
    obtain ⟨other, stands⟩ := List.getElem?_of_mem member
    obtain ⟨before, stood, subset⟩ := origin other current stands
    rw [length_onView]
    exact separate.inside before (List.mem_of_getElem? stood) index
      (visible_mono register subset index seen)
  · intro first second firstWorker secondWorker firstStands secondStands different index pending seen
    obtain ⟨firstBefore, firstStood, firstSubset⟩ := origin first firstWorker firstStands
    obtain ⟨secondBefore, secondStood, secondSubset⟩ := origin second secondWorker secondStands
    exact separate.apart first second firstBefore secondBefore firstStood secondStood different index
      (firstSubset index pending) (visible_mono register secondSubset index seen)

section Swapping

variable (areLocal : ∀ index, ∀ rule ∈ register.rulesFor index, rule.IsLocal)
include areLocal

/-- A turn leaves the plans of all other workers as they are. -/
theorem Separate.plan_after {snapshot : Snapshot α} {place other : Nat} {worker later : Worker α}
    {change : Change α} (separate : snapshot.Separate register)
    (found : snapshot.workers[place]? = some worker)
    (planned : worker.plan register tieBreak snapshot.view.values = some (later, change))
    (different : other ≠ place) {otherWorker : Worker α}
    (otherFound : snapshot.workers[other]? = some otherWorker) :
    otherWorker.plan register tieBreak (change.onView snapshot.view).values =
      otherWorker.plan register tieBreak snapshot.view.values := by
  apply Worker.plan_congr register tieBreak areLocal
  apply agreeAt_onView
  · intro index seen
    exact (separate.inside otherWorker (List.mem_of_getElem? otherFound) index seen).1
  · intro index target
    have pending := (Worker.plan_shape register tieBreak planned).2 index target
    exact ⟨(separate.inside worker (List.mem_of_getElem? found) index
        (mem_visible register pending)).1,
      separate.apart place other worker otherWorker found otherFound (Ne.symm different) index
        pending⟩

/-- Turns of two workers lead to the same snapshot in either order. -/
theorem Separate.swap {snapshot first second : Snapshot α} {place other : Nat}
    (separate : snapshot.Separate register) (different : other ≠ place)
    (taken : snapshot.turn register tieBreak place = some first)
    (otherTaken : snapshot.turn register tieBreak other = some second) :
    ∃ both, first.turn register tieBreak other = some both ∧
      second.turn register tieBreak place = some both := by
  obtain ⟨worker, later, change, found, planned, rfl⟩ := turn_eq_some_iff.mp taken
  obtain ⟨otherWorker, otherLater, otherChange, otherFound, otherPlanned, rfl⟩ :=
    turn_eq_some_iff.mp otherTaken
  have afterFirst := separate.plan_after areLocal found planned different otherFound
  have afterSecond :=
    separate.plan_after areLocal otherFound otherPlanned (Ne.symm different) found
  have targets := (Worker.plan_shape register tieBreak planned).2
  have otherTargets := (Worker.plan_shape register tieBreak otherPlanned).2
  have lower (index : Int)
      (target : otherChange.target = some index ∨ change.target = some index) : 0 ≤ index := by
    rcases target with target | target
    · exact (separate.inside otherWorker (List.mem_of_getElem? otherFound) index
        (mem_visible register (otherTargets index target))).1
    · exact (separate.inside worker (List.mem_of_getElem? found) index
        (mem_visible register (targets index target))).1
  have unshared (index : Int) (target : otherChange.target = some index) :
      change.target ≠ some index := by
    intro same
    exact separate.apart other place otherWorker worker otherFound found different index
      (otherTargets index target) (mem_visible register (targets index same))
  refine ⟨_, turn_eq_some_iff.mpr ⟨otherWorker, otherLater, otherChange, ?_, ?_, rfl⟩,
    turn_eq_some_iff.mpr ⟨worker, later, change, ?_, ?_, ?_⟩⟩
  · rw [List.getElem?_set_ne (Ne.symm different)]
    exact otherFound
  · rw [afterFirst]
    exact otherPlanned
  · rw [List.getElem?_set_ne different]
    exact found
  · rw [afterSecond]
    exact planned
  · rw [onView_comm lower unshared, List.set_comm _ _ different]

/-- A turn that is possible after one of another worker is possible before it. -/
theorem Separate.turn_before {snapshot first both : Snapshot α} {place other : Nat}
    (separate : snapshot.Separate register) (different : other ≠ place)
    (taken : snapshot.turn register tieBreak place = some first)
    (otherTaken : first.turn register tieBreak other = some both) :
    ∃ second, snapshot.turn register tieBreak other = some second := by
  obtain ⟨worker, later, change, found, planned, rfl⟩ := turn_eq_some_iff.mp taken
  obtain ⟨otherWorker, otherLater, otherChange, otherFound, otherPlanned, rfl⟩ :=
    turn_eq_some_iff.mp otherTaken
  simp only at otherFound otherPlanned
  rw [List.getElem?_set_ne (Ne.symm different)] at otherFound
  rw [separate.plan_after areLocal found planned different otherFound] at otherPlanned
  exact ⟨_, turn_eq_some_iff.mpr ⟨otherWorker, otherLater, otherChange, otherFound, otherPlanned,
    rfl⟩⟩

end Swapping

theorem Turns.separate {turns : Nat} {snapshot finish : Snapshot α}
    (run : Turns register tieBreak turns snapshot finish)
    (separate : snapshot.Separate register) : finish.Separate register := by
  induction run with
  | none snapshot => exact separate
  | more taken rest ih => exact ih (separate.turn taken)

theorem Turns.length_eq {turns : Nat} {snapshot finish : Snapshot α}
    (run : Turns register tieBreak turns snapshot finish) :
    finish.view.values.length = snapshot.view.values.length := by
  induction run with
  | none snapshot => rfl
  | more taken rest ih =>
      obtain ⟨_, _, _, _, _, rfl⟩ := turn_eq_some_iff.mp taken
      rw [ih, length_onView]

theorem busy_of_turn {snapshot next : Snapshot α} {place : Nat}
    (taken : snapshot.turn register tieBreak place = some next) :
    ∃ worker, snapshot.workers[place]? = some worker ∧ worker.pending ≠ [] := by
  obtain ⟨worker, later, change, found, planned, _⟩ := turn_eq_some_iff.mp taken
  refine ⟨worker, found, ?_⟩
  intro idle
  unfold Worker.plan at planned
  rw [idle] at planned
  cases planned

/-- No turn is left at the end. -/
theorem Turns.eq_of_finished {turns : Nat} {snapshot finish : Snapshot α}
    (run : Turns register tieBreak turns snapshot finish) (finished : snapshot.IsFinished) :
    turns = 0 ∧ finish = snapshot := by
  cases run with
  | none => exact ⟨rfl, rfl⟩
  | more taken rest =>
      obtain ⟨worker, found, busy⟩ := busy_of_turn taken
      exact absurd (finished worker (List.mem_of_getElem? found)) busy

section Confluence

variable (areLocal : ∀ index, ∀ rule ∈ register.rulesFor index, rule.IsLocal)
include areLocal

/-- Where a run to the end is under way, every worker with pending variables can take the next
turn, and the run gets no longer by that. -/
theorem Turns.advance {turns : Nat} {snapshot finish : Snapshot α}
    (run : Turns register tieBreak turns snapshot finish) (separate : snapshot.Separate register)
    (finished : finish.IsFinished) {place : Nat} {worker : Worker α}
    (found : snapshot.workers[place]? = some worker) (busy : worker.pending ≠ []) :
    ∃ next fewer, snapshot.turn register tieBreak place = some next ∧
      Turns register tieBreak fewer next finish ∧ turns = fewer + 1 := by
  induction run with
  | none snapshot => exact absurd (finished worker (List.mem_of_getElem? found)) busy
  | @more turns chosen snapshot first finish taken rest ih =>
      by_cases same : place = chosen
      · subst same
        exact ⟨first, turns, taken, rest, rfl⟩
      · obtain ⟨mover, later, change, moverFound, planned, after⟩ := turn_eq_some_iff.mp taken
        have untouched : first.workers[place]? = some worker := by
          rw [after, List.getElem?_set_ne (Ne.symm same)]
          exact found
        obtain ⟨both, fewer, taken_next, remaining, count⟩ :=
          ih (separate.turn taken) finished untouched
        obtain ⟨second, possible⟩ := separate.turn_before areLocal same taken taken_next
        obtain ⟨common, fromFirst, fromSecond⟩ := separate.swap areLocal same taken possible
        have sameEnd : both = common := Option.some.inj (taken_next.symm.trans fromFirst)
        rw [← sameEnd] at fromSecond
        exact ⟨second, turns, possible, count ▸ .more fromSecond remaining, rfl⟩

/-- Every state that is reached on the way leads to the end of any run to the end, in the turns
that are left of it. -/
theorem Turns.remaining {turns taken : Nat} {snapshot middle finish : Snapshot α}
    (partly : Turns register tieBreak taken snapshot middle)
    (run : Turns register tieBreak turns snapshot finish) (separate : snapshot.Separate register)
    (finished : finish.IsFinished) :
    ∃ left, turns = taken + left ∧ Turns register tieBreak left middle finish := by
  induction partly generalizing turns with
  | none snapshot => exact ⟨turns, (Nat.zero_add turns).symm, run⟩
  | @more taken place snapshot next middle stepped rest ih =>
      obtain ⟨worker, found, busy⟩ := busy_of_turn stepped
      obtain ⟨other, fewer, advanced, shorter, count⟩ :=
        run.advance areLocal separate finished found busy
      have sameNext : other = next := Option.some.inj (advanced.symm.trans stepped)
      rw [sameNext] at shorter
      obtain ⟨left, total, onward⟩ := ih shorter (separate.turn stepped)
      exact ⟨left, by omega, onward⟩

/-- Two runs to the end have the same end. -/
theorem Turns.confluent {turns others : Nat} {snapshot finish other : Snapshot α}
    (run : Turns register tieBreak turns snapshot finish) (finished : finish.IsFinished)
    (otherRun : Turns register tieBreak others snapshot other) (otherFinished : other.IsFinished)
    (separate : snapshot.Separate register) : other = finish := by
  obtain ⟨left, _, onward⟩ := otherRun.remaining areLocal run separate finished
  exact (onward.eq_of_finished otherFinished).2.symm

end Confluence

end Snapshot

end Rounding

end HingeField
