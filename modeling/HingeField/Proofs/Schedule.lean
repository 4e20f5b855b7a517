import HingeField.Proofs.Interleaving

/-!
Workers that take several steps at a stretch. Main statements: the steps of a
worker with a variable are the decision of it; what a worker does alone, it
does in turns of its pool; and where a run of the pool to the end is under way,
a worker may take any number of steps, or decide all of its variables, before
the others go on.
-/

namespace HingeField.Rounding

variable {α : Type} [Scalar α] {register : Register α} {tieBreak : TieBreak}

section Decisions

/-- In how many steps a worker decides a variable. -/
def decisionSteps (register : Register α) (index : Int) : Nat :=
  if (register.rulesFor index).isEmpty then 3 else 8

/-- The steps of a worker with a variable are the decision of it. -/
theorem Worker.run_decision (register : Register α) (tieBreak : TieBreak) (index : Int)
    (rest : List Int) :
    Worker.run register tieBreak (decisionSteps register index) { pending := index :: rest } =
      (do
        let _ ← decideVariable register tieBreak index
        return { pending := rest }) := by
  unfold decisionSteps decideVariable tryBoth
  by_cases ruleless : (register.rulesFor index).isEmpty = true
  · simp only [ruleless, if_true, Worker.run, Worker.step, bind_assoc, pure_bind]
  · simp only [ruleless, Bool.false_eq_true, if_false, Worker.run, Worker.step, bind_assoc,
      pure_bind]

/-- A worker has decided its first variable exactly if the decision succeeds. -/
theorem Worker.run_decision_eq_ok_iff {index : Int} {rest : List Int} {model after : Model α}
    {later : Worker α} :
    Worker.run register tieBreak (decisionSteps register index) { pending := index :: rest } model =
        .ok later after ↔
      later = { pending := rest } ∧
        ∃ best, decideVariable register tieBreak index model = .ok best after := by
  rw [run_decision, Effect.bind_eq_ok_iff]
  constructor
  · rintro ⟨best, middle, decided, same⟩
    cases same
    exact ⟨rfl, best, decided⟩
  · rintro ⟨rfl, best, decided⟩
    exact ⟨best, after, decided, rfl⟩

end Decisions

namespace Pool

section Turns

theorem turn_of_step {pool : Pool α} {place : Nat} {worker later : Worker α} {after : Model α}
    (found : pool.workers[place]? = some worker) (busy : worker.pending ≠ [])
    (stepped : worker.step register tieBreak pool.model = .ok later after) :
    pool.turn register tieBreak place =
      some { model := after, workers := pool.workers.set place later } := by
  have nonempty : worker.pending.isEmpty = false := by
    rw [← Bool.not_eq_true, List.isEmpty_iff]
    exact busy
  unfold turn
  rw [found]
  simp only [Option.bind_eq_bind, Option.bind_some, nonempty, Bool.false_eq_true, if_false, stepped]

theorem turn_eq_some_iff {pool next : Pool α} {place : Nat} :
    pool.turn register tieBreak place = some next ↔
      ∃ worker later after, pool.workers[place]? = some worker ∧ worker.pending ≠ [] ∧
        worker.step register tieBreak pool.model = .ok later after ∧
        next = { model := after, workers := pool.workers.set place later } := by
  constructor
  · intro taken
    unfold turn at taken
    obtain ⟨worker, found, taken⟩ := Option.bind_eq_some_iff.mp taken
    split at taken
    · cases taken
    · rename_i busy
      rw [List.isEmpty_iff] at busy
      split at taken
      · rename_i later after stepped
        cases taken
        exact ⟨worker, later, after, found, busy, stepped, rfl⟩
      · cases taken
  · rintro ⟨worker, later, after, found, busy, stepped, rfl⟩
    exact turn_of_step found busy stepped

theorem Turns.append {first second : Nat} {start middle finish : Pool α}
    (run : Turns register tieBreak first start middle)
    (onward : Turns register tieBreak second middle finish) :
    Turns register tieBreak (first + second) start finish := by
  induction run with
  | none pool =>
      rw [Nat.zero_add]
      exact onward
  | more taken rest ih =>
      rw [Nat.add_right_comm]
      exact .more taken (ih onward)

/-- What a worker does alone, it does in turns of the pool. -/
theorem turns_of_run {steps : Nat} (pool : Pool α) {place : Nat} {worker later : Worker α}
    {after : Model α} (found : pool.workers[place]? = some worker)
    (success : worker.run register tieBreak steps pool.model = .ok later after) :
    ∃ turns, Turns register tieBreak turns pool
      { model := after, workers := pool.workers.set place later } := by
  induction steps generalizing pool worker with
  | zero =>
      cases success
      obtain ⟨_, same⟩ := List.getElem?_eq_some_iff.mp found
      refine ⟨0, ?_⟩
      rw [← same, List.set_getElem_self]
      exact .none pool
  | succ steps ih =>
      obtain ⟨middle, between, stepped, onward⟩ := Effect.bind_eq_ok_iff.mp success
      by_cases idle : worker.pending = []
      · unfold Worker.step at stepped
        rw [idle] at stepped
        cases stepped
        exact ih pool found onward
      · have taken := turn_of_step found idle stepped
        have placed : (pool.workers.set place middle)[place]? = some middle :=
          List.getElem?_set_self (List.getElem?_eq_some_iff.mp found).choose
        obtain ⟨turns, run⟩ := ih ⟨between, pool.workers.set place middle⟩ placed onward
        rw [List.set_set] at run
        exact ⟨turns + 1, .more taken run⟩

/-- A worker decides its variables one after the other, if nobody else takes a turn. -/
theorem turns_of_members {members : List Int} (pool : Pool α) {place : Nat} {after : Model α}
    (found : pool.workers[place]? = some { pending := members })
    (success : decideAll register tieBreak members pool.model = .ok () after) :
    ∃ turns, Turns register tieBreak turns pool
      { model := after, workers := pool.workers.set place { pending := [] } } := by
  induction members generalizing pool with
  | nil =>
      cases success
      obtain ⟨_, same⟩ := List.getElem?_eq_some_iff.mp found
      refine ⟨0, ?_⟩
      rw [← same, List.set_getElem_self]
      exact .none pool
  | cons index rest ih =>
      obtain ⟨best, middle, decided, others⟩ := decideAll_cons_eq_ok_iff.mp success
      obtain ⟨first, alone⟩ := turns_of_run pool found
        (Worker.run_decision_eq_ok_iff.mpr ⟨rfl, best, decided⟩)
      have placed := List.getElem?_set_self (a := ({ pending := rest } : Worker α))
        (List.getElem?_eq_some_iff.mp found).choose
      obtain ⟨second, onward⟩ := ih ⟨middle, pool.workers.set place { pending := rest }⟩ placed others
      rw [List.set_set] at onward
      exact ⟨first + second, alone.append onward⟩

/-- Workers before their first steps. -/
def fresh (components : List (List Int)) : List (Worker α) :=
  components.map fun members => { pending := members }

/-- Workers with nothing left, one for each component. -/
def idle (components : List (List Int)) : List (Worker α) :=
  components.map fun _ => { pending := [] }

omit [Scalar α] in
theorem getElem?_fresh (others : List (Worker α)) (members : List Int)
    (components : List (List Int)) :
    (others ++ fresh (members :: components))[others.length]? = some { pending := members } := by
  rw [List.getElem?_append_right (Nat.le_refl _), Nat.sub_self]
  rfl

omit [Scalar α] in
theorem set_fresh (others : List (Worker α)) (members : List Int) (components : List (List Int)) :
    (others ++ fresh (members :: components)).set others.length { pending := [] } =
      others ++ [{ pending := [] }] ++ fresh components := by
  rw [List.set_append_right _ _ (Nat.le_refl _), Nat.sub_self, List.append_assoc]
  rfl

omit [Scalar α] in
theorem finished_idle (model : Model α) (components : List (List Int)) :
    (Pool.mk model (idle components)).snapshot.IsFinished := by
  intro worker member
  obtain ⟨members, _, rfl⟩ := List.mem_map.mp member
  rfl

/-- The pass of component after component is an interleaving of their workers. -/
theorem turns_of_decideComponents {components : List (List Int)} (others : List (Worker α))
    {model after : Model α}
    (success : decideComponents register tieBreak components model = .ok () after) :
    ∃ turns, Turns register tieBreak turns (Pool.mk model (others ++ fresh components))
      (Pool.mk after (others ++ idle components)) := by
  induction components generalizing others model with
  | nil =>
      cases success
      exact ⟨0, .none _⟩
  | cons members components ih =>
      obtain ⟨middle, decided, rest⟩ := decideComponents_cons_eq_ok_iff.mp success
      obtain ⟨first, alone⟩ := turns_of_members ⟨model, _⟩
        (getElem?_fresh others members components) decided
      rw [set_fresh] at alone
      obtain ⟨second, onward⟩ := ih (others ++ [{ pending := [] }]) rest
      rw [List.append_assoc _ _ (idle components)] at onward
      exact ⟨first + second, alone.append onward⟩

end Turns

section Snapshots

/-- A turn does to the snapshot what it does to the pool. -/
theorem snapshot_turn {pool : Pool α} (separate : pool.snapshot.Separate register) (place : Nat) :
    (pool.turn register tieBreak place).map snapshot =
      pool.snapshot.turn register tieBreak place := by
  cases found : pool.workers[place]? with
  | none =>
      unfold turn Snapshot.turn snapshot
      simp only [found, Option.bind_eq_bind, Option.bind_none, Option.map_none]
  | some worker =>
      have inside (index : Int) (member : index ∈ worker.pending) :
          0 ≤ index ∧ index < pool.model.values.length :=
        separate.inside worker (List.mem_of_getElem? found) index (mem_visible register member)
      by_cases idle : worker.pending = []
      · have noPlan : worker.plan register tieBreak pool.model.values = none := by
          unfold Worker.plan
          rw [idle]
        unfold turn Snapshot.turn snapshot viewOf
        simp only [found, idle, noPlan, Option.bind_eq_bind, Option.bind_some, Option.bind_none,
          List.isEmpty_nil, if_true, Option.map_none]
      · rcases Worker.step_eq register tieBreak idle inside with
          ⟨later, change, planned, stepped⟩ | ⟨planned, fault, stepped⟩
        · rw [turn_of_step found idle stepped]
          symm
          apply Snapshot.turn_eq_some_iff.mpr
          refine ⟨worker, later, change, found, planned, ?_⟩
          unfold snapshot
          rw [viewOf_onModel]
        · have noTurn : pool.turn register tieBreak place = none := by
            rw [Option.eq_none_iff_forall_not_mem]
            intro next taken
            obtain ⟨other, later, after, same, _, success, _⟩ := turn_eq_some_iff.mp taken
            rw [found] at same
            cases same
            rw [stepped] at success
            cases success
          rw [noTurn]
          unfold Snapshot.turn snapshot viewOf
          simp only [found, planned, Option.bind_eq_bind, Option.bind_some, Option.bind_none,
            Option.map_none]

theorem Turns.snapshot {turns : Nat} {pool finish : Pool α}
    (run : Turns register tieBreak turns pool finish)
    (separate : pool.snapshot.Separate register) :
    Snapshot.Turns register tieBreak turns pool.snapshot finish.snapshot := by
  induction run with
  | none pool => exact .none pool.snapshot
  | @more turns place pool next finish taken rest ih =>
      have stepped : pool.snapshot.turn register tieBreak place = some next.snapshot := by
        rw [← snapshot_turn separate place, taken]
        rfl
      exact .more stepped (ih (separate.turn stepped))

variable (areLocal : ∀ index, ∀ rule ∈ register.rulesFor index, rule.IsLocal)
include areLocal

/-- Where a run to the end is under way, a worker may take any number of steps alone. -/
theorem run_of_turns (steps : Nat) {turns : Nat} {pool : Pool α} {finish : Snapshot α} {place : Nat}
    {worker : Worker α} (run : Snapshot.Turns register tieBreak turns pool.snapshot finish)
    (separate : pool.snapshot.Separate register) (finished : finish.IsFinished)
    (found : pool.workers[place]? = some worker) :
    ∃ later after fewer, worker.run register tieBreak steps pool.model = .ok later after ∧
      Snapshot.Turns register tieBreak fewer
        (Pool.mk after (pool.workers.set place later)).snapshot finish ∧
      (Pool.mk after (pool.workers.set place later)).snapshot.Separate register := by
  induction steps generalizing pool worker turns with
  | zero =>
      obtain ⟨_, same⟩ := List.getElem?_eq_some_iff.mp found
      refine ⟨worker, pool.model, turns, rfl, ?_⟩
      rw [← same, List.set_getElem_self]
      exact ⟨run, separate⟩
  | succ steps ih =>
      by_cases idle : worker.pending = []
      · obtain ⟨later, after, fewer, alone, onward⟩ := ih run separate found
        refine ⟨later, after, fewer, ?_, onward⟩
        unfold Worker.run Worker.step
        rw [idle]
        exact alone
      · obtain ⟨next, fewer, taken, shorter, _⟩ :=
          run.advance areLocal separate finished found idle
        rw [← snapshot_turn separate place] at taken
        obtain ⟨nextPool, turned, rfl⟩ := Option.map_eq_some_iff.mp taken
        obtain ⟨mover, middle, between, same, _, stepped, rfl⟩ := turn_eq_some_iff.mp turned
        rw [found] at same
        cases same
        have placed : (pool.workers.set place middle)[place]? = some middle :=
          List.getElem?_set_self (List.getElem?_eq_some_iff.mp found).choose
        have moved : pool.snapshot.turn register tieBreak place =
            some (Pool.mk between (pool.workers.set place middle)).snapshot := by
          rw [← snapshot_turn separate place, turned]
          rfl
        obtain ⟨later, after, left, alone, onward, stillSeparate⟩ :=
          ih shorter (separate.turn moved) placed
        simp only [List.set_set] at onward stillSeparate
        exact ⟨later, after, left, Effect.bind_eq_ok_iff.mpr ⟨middle, between, stepped, alone⟩,
          onward, stillSeparate⟩

/-- Where a run to the end is under way, a worker may decide all of its variables alone. -/
theorem members_of_turns {members : List Int} {turns : Nat} {pool : Pool α} {finish : Snapshot α}
    {place : Nat} (run : Snapshot.Turns register tieBreak turns pool.snapshot finish)
    (separate : pool.snapshot.Separate register) (finished : finish.IsFinished)
    (found : pool.workers[place]? = some { pending := members }) :
    ∃ after fewer, decideAll register tieBreak members pool.model = .ok () after ∧
      Snapshot.Turns register tieBreak fewer
        (Pool.mk after (pool.workers.set place { pending := [] })).snapshot finish ∧
      (Pool.mk after (pool.workers.set place { pending := [] })).snapshot.Separate register := by
  induction members generalizing pool turns with
  | nil =>
      obtain ⟨_, same⟩ := List.getElem?_eq_some_iff.mp found
      refine ⟨pool.model, turns, rfl, ?_⟩
      rw [← same, List.set_getElem_self]
      exact ⟨run, separate⟩
  | cons index rest ih =>
      obtain ⟨later, middle, fewer, alone, onward, between⟩ :=
        run_of_turns areLocal (decisionSteps register index) run separate finished found
      obtain ⟨rfl, best, decided⟩ := Worker.run_decision_eq_ok_iff.mp alone
      have placed := List.getElem?_set_self (a := ({ pending := rest } : Worker α))
        (List.getElem?_eq_some_iff.mp found).choose
      obtain ⟨after, left, others, ending, stillSeparate⟩ := ih onward between placed
      simp only [List.set_set] at ending stillSeparate
      exact ⟨after, left, decideAll_cons_eq_ok_iff.mpr ⟨best, middle, decided, others⟩, ending,
        stillSeparate⟩

/-- Where a run to the end is under way, it may decide component after component. -/
theorem decideComponents_of_turns {components : List (List Int)} (others : List (Worker α))
    {turns : Nat} {model : Model α} {finish : Snapshot α}
    (run : Snapshot.Turns register tieBreak turns
      (Pool.mk model (others ++ fresh components)).snapshot finish)
    (separate : (Pool.mk model (others ++ fresh components)).snapshot.Separate register)
    (finished : finish.IsFinished) :
    ∃ after fewer, decideComponents register tieBreak components model = .ok () after ∧
      Snapshot.Turns register tieBreak fewer
        (Pool.mk after (others ++ idle components)).snapshot finish := by
  induction components generalizing others model turns with
  | nil => exact ⟨model, turns, rfl, run⟩
  | cons members components ih =>
      obtain ⟨middle, fewer, decided, onward, between⟩ :=
        members_of_turns areLocal run separate finished (getElem?_fresh others members components)
      rw [set_fresh] at onward between
      obtain ⟨after, left, rest, ending⟩ := ih (others ++ [{ pending := [] }]) onward between
      rw [List.append_assoc _ _ (idle components)] at ending
      exact ⟨after, left, decideComponents_cons_eq_ok_iff.mpr ⟨middle, decided, rest⟩, ending⟩

end Snapshots

end Pool

end HingeField.Rounding
