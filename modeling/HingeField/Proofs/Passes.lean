import HingeField.Proofs.Components
import HingeField.Proofs.Confinement
import HingeField.Proofs.Greedy
import HingeField.Rounding.Bernoulli

/-!
What a rounding pass leaves alone. Main statements: greedy rounding, rounding
by draws and the steps of workers that share a model keep this model confined
if the variables they are given may be touched, whether they succeed or fail.
-/

namespace HingeField.Rounding

open Model

variable {α : Type} [Scalar α] {origin : Model α} {touched : Nat → Prop} {good : α → Prop}
  {indices : List Int}

def ReachesAll (origin : Model α) (touched : Nat → Prop) (indices : List Int) : Prop :=
  ∀ index ∈ indices, origin.Reaches touched index

section Values

theorem good_nearest (permits : origin.Permits touched good) (value : α) :
    good (Scalar.nearest value) := by
  unfold Scalar.nearest
  split
  · exact permits.one
  · exact permits.zero

theorem good_better (permits : origin.Permits touched good) (tieBreak : TieBreak)
    (atZero atOne : α) : good (better tieBreak atZero atOne) := by
  unfold better
  split
  · exact permits.one
  · split
    · exact permits.zero
    · cases tieBreak with
      | later => exact permits.one
      | earlier => exact permits.zero

omit [Scalar α] in
theorem gives_valuesAtWords :
    Effect.Gives (origin.Confined touched good) (fun values => ∀ value ∈ values, good value)
      (valuesAtWords indices) := by
  constructor
  · have reading : Effect.Keeps (origin.Confined touched good) (valuesAt indices) :=
      Effect.keeps_bind Effect.keeps_get fun _ => Effect.keeps_ofExcept _
    unfold valuesAtWords
    dsimp only
    split
    · exact reading
    · exact Effect.keeps_bind (Effect.keeps_throw _) fun _ => reading
  · intro start values finish confined success value member
    obtain ⟨_, read, _⟩ := valuesAtWords_eq_ok_iff.mp success
    obtain ⟨index, _, found⟩ := exists_of_mem_mapM read member
    exact confined.areGood value (Arena.mem_of_read found)

end Values

section Steps

theorem keeps_soften (permits : origin.Permits touched good)
    (reaches : ReachesAll origin touched indices) :
    Effect.Keeps (origin.Confined touched good) (soften indices) := by
  refine Effect.keeps_bind_of_gives gives_valuesAtWords fun values areGood => ?_
  apply Effect.keeps_forM
  rintro ⟨index, value⟩ member
  obtain ⟨listed, found⟩ := List.of_mem_zip member
  exact keeps_write (reaches index listed) (permits.softened value (areGood value found))

theorem gives_order :
    Effect.Gives (origin.Confined touched good) (fun ordered => ∀ index ∈ ordered, index ∈ indices)
      (order indices) := by
  constructor
  · exact Effect.keeps_bind gives_valuesAtWords.1 fun _ => Effect.keeps_pure _
  · intro start ordered finish _ success index member
    exact (perm_of_order success).1.mem_iff.mp member

theorem keeps_score (register : Register α) (index : Int) :
    Effect.Keeps (origin.Confined touched good) (score register index) := by
  refine Effect.keeps_bind Effect.keeps_get fun _ => ?_
  exact Effect.keeps_bind (Effect.keeps_ofExcept _) fun _ => Effect.keeps_pure _

variable {register : Register α} {tieBreak : TieBreak}

theorem gives_tryBoth (permits : origin.Permits touched good) {index : Int}
    (reaches : origin.Reaches touched index) {current : α} (isGood : good current) :
    Effect.Gives (origin.Confined touched good) good
      (tryBoth register tieBreak index current) := by
  refine Effect.gives_bind (keeps_write reaches permits.zero).gives fun _ _ => ?_
  refine Effect.gives_bind (keeps_score register index).gives fun atZero _ => ?_
  refine Effect.gives_bind (keeps_write reaches permits.one).gives fun _ _ => ?_
  refine Effect.gives_bind (keeps_score register index).gives fun atOne _ => ?_
  refine Effect.gives_bind (keeps_write reaches isGood).gives fun _ _ => ?_
  exact Effect.gives_pure (good_better permits tieBreak atZero atOne)

theorem keeps_decideVariable (permits : origin.Permits touched good) {index : Int}
    (reaches : origin.Reaches touched index) :
    Effect.Keeps (origin.Confined touched good) (decideVariable register tieBreak index) := by
  refine Effect.keeps_bind_of_gives (gives_readValue index) fun current isGood => ?_
  have storing (best : α) (bestGood : good best) : Effect.Keeps (origin.Confined touched good)
      (do
        writeValue index best
        commit index
        return best) := by
    refine Effect.keeps_bind (keeps_write reaches bestGood) fun _ => ?_
    exact Effect.keeps_bind (keeps_commit index) fun _ => Effect.keeps_pure best
  dsimp only
  split
  · exact Effect.keeps_bind_of_gives (Effect.gives_pure (good_nearest permits current)) storing
  · exact Effect.keeps_bind_of_gives (gives_tryBoth permits reaches isGood) storing

theorem keeps_decideAll (permits : origin.Permits touched good)
    (reaches : ReachesAll origin touched indices) :
    Effect.Keeps (origin.Confined touched good) (decideAll register tieBreak indices) :=
  Effect.keeps_forM fun index listed =>
    Effect.keeps_bind (keeps_decideVariable permits (reaches index listed)) fun _ =>
      Effect.keeps_pure _

theorem keeps_decideBy (permits : origin.Permits touched good) (workers : Int)
    (reaches : ReachesAll origin touched indices) :
    Effect.Keeps (origin.Confined touched good) (decideBy register tieBreak workers indices) := by
  unfold decideBy
  split
  · exact keeps_decideAll permits reaches
  · refine Effect.keeps_bind (Effect.keeps_mapM fun members component => ?_) fun outcomes =>
      Effect.keeps_forM fun _ _ => Effect.keeps_ofExcept _
    refine Effect.keeps_outcome (keeps_decideAll permits fun index member => ?_)
    exact reaches index (Register.mem_of_mem_components component member)

/-- The order that comes out of a preparation lists variables it was given. -/
theorem gives_prepare (permits : origin.Permits touched good)
    (reaches : ReachesAll origin touched indices) :
    Effect.Gives (origin.Confined touched good) (fun prepared => ReachesAll origin touched prepared.2)
      (prepare indices) := by
  have distinct : ReachesAll origin touched indices.eraseDups := fun index listed =>
    reaches index (List.mem_eraseDups.mp listed)
  refine Effect.gives_bind (keeps_valuesAtBits _).gives fun starting _ => ?_
  refine Effect.gives_bind (keeps_soften permits distinct).gives fun _ _ => ?_
  refine Effect.gives_bind gives_order fun ordered listed => ?_
  exact Effect.gives_pure fun index member => distinct index (listed index member)

theorem keeps_outcomeFrom (starting : List α) :
    Effect.Keeps (origin.Confined touched good) (outcomeFrom indices starting) :=
  Effect.keeps_bind (keeps_valuesAtBits _) fun _ => Effect.keeps_pure _

end Steps

section Passes

variable {register : Register α} {tieBreak : TieBreak}

theorem keeps_greedy (permits : origin.Permits touched good) (workers : Int)
    (reaches : ReachesAll origin touched indices) :
    Effect.Keeps (origin.Confined touched good) (greedy register tieBreak workers indices) := by
  rw [greedy_eq]
  refine Effect.keeps_bind_of_gives (gives_prepare permits reaches) fun prepared listed => ?_
  refine Effect.keeps_bind (keeps_decideBy permits workers listed) fun _ => ?_
  exact keeps_outcomeFrom prepared.1

theorem keeps_bernoulli (permits : origin.Permits touched good) (draws : Nat → α)
    (reaches : ReachesAll origin touched indices) :
    Effect.Keeps (origin.Confined touched good) (bernoulli draws indices) := by
  refine Effect.keeps_bind (keeps_valuesAtBits _) fun starting => ?_
  refine Effect.keeps_bind (Effect.keeps_forM ?_) fun _ => keeps_outcomeFrom starting
  rintro ⟨index, turn⟩ member
  have listed : index ∈ indices :=
    List.mem_eraseDups.mp (List.fst_mem_of_mem_zipIdx member)
  refine Effect.keeps_bind (gives_readValue index).1 fun value => ?_
  refine Effect.keeps_bind (keeps_write (reaches index listed) ?_) fun _ => keeps_commit index
  unfold drawn
  split
  · exact permits.one
  · exact permits.zero

end Passes

section Workers

variable {register : Register α} {tieBreak : TieBreak}

/-- The values that a worker has still to write are good. -/
def Phase.IsGood (good : α → Prop) : Phase α → Prop
  | .opened current => good current
  | .zeroWritten current => good current
  | .zeroScored current _ => good current
  | .oneWritten current _ => good current
  | .oneScored current best => good current ∧ good best
  | .chosen best => good best
  | _ => True

structure Worker.IsConfined (origin : Model α) (touched : Nat → Prop) (good : α → Prop)
    (worker : Worker α) : Prop where
  reaches : ReachesAll origin touched worker.pending
  isGood : worker.phase.IsGood good

structure Pool.IsConfined (origin : Model α) (touched : Nat → Prop) (good : α → Prop)
    (pool : Pool α) : Prop where
  model : origin.Confined touched good pool.model
  workers : ∀ worker ∈ pool.workers, worker.IsConfined origin touched good

theorem Worker.gives_step (permits : origin.Permits touched good) {worker : Worker α}
    (confined : worker.IsConfined origin touched good) :
    Effect.Gives (origin.Confined touched good) (Worker.IsConfined origin touched good)
      (worker.step register tieBreak) := by
  obtain ⟨pending, phase⟩ := worker
  obtain ⟨reaches, isGood⟩ := confined
  cases pending with
  | nil => exact Effect.gives_pure ⟨reaches, isGood⟩
  | cons index rest =>
      have here : origin.Reaches touched index := reaches index List.mem_cons_self
      cases phase with
      | waiting =>
          refine Effect.gives_bind (gives_readValue index) fun current currentGood => ?_
          refine Effect.gives_pure ⟨reaches, ?_⟩
          dsimp only
          split
          · exact good_nearest permits current
          · exact currentGood
      | opened current =>
          exact Effect.gives_bind (keeps_write here permits.zero).gives fun _ _ =>
            Effect.gives_pure ⟨reaches, isGood⟩
      | zeroWritten current =>
          exact Effect.gives_bind (keeps_score register index).gives fun _ _ =>
            Effect.gives_pure ⟨reaches, isGood⟩
      | zeroScored current atZero =>
          exact Effect.gives_bind (keeps_write here permits.one).gives fun _ _ =>
            Effect.gives_pure ⟨reaches, isGood⟩
      | oneWritten current atZero =>
          exact Effect.gives_bind (keeps_score register index).gives fun atOne _ =>
            Effect.gives_pure ⟨reaches, isGood, good_better permits tieBreak atZero atOne⟩
      | oneScored current best =>
          exact Effect.gives_bind (keeps_write here isGood.1).gives fun _ _ =>
            Effect.gives_pure ⟨reaches, isGood.2⟩
      | chosen best =>
          exact Effect.gives_bind (keeps_write here isGood).gives fun _ _ =>
            Effect.gives_pure ⟨reaches, trivial⟩
      | written =>
          exact Effect.gives_bind (keeps_commit index).gives fun _ _ =>
            Effect.gives_pure ⟨fun other member => reaches other (List.mem_cons_of_mem _ member),
              trivial⟩

omit [Scalar α] in
theorem Pool.IsConfined.replace {pool : Pool α} (confined : pool.IsConfined origin touched good)
    {model : Model α} (modelConfined : origin.Confined touched good model) {worker : Worker α}
    (workerConfined : worker.IsConfined origin touched good) (place : Nat) :
    Pool.IsConfined origin touched good
      { model, workers := pool.workers.set place worker } := by
  refine ⟨modelConfined, ?_⟩
  intro other member
  rcases List.mem_or_eq_of_mem_set member with old | rfl
  · exact confined.workers other old
  · exact workerConfined

theorem Pool.IsConfined.serve (permits : origin.Permits touched good) {pool : Pool α}
    (confined : pool.IsConfined origin touched good) (place : Nat) :
    (pool.serve register tieBreak place).IsConfined origin touched good := by
  unfold Pool.serve
  cases found : pool.workers[place]? with
  | none => exact confined
  | some worker =>
      have steps : Effect.Gives (origin.Confined touched good)
          (Worker.IsConfined origin touched good) (worker.step register tieBreak) :=
        Worker.gives_step permits (confined.workers worker (List.mem_of_getElem? found))
      have atEnd := steps.1 pool.model confined.model
      dsimp only
      cases ended : worker.step register tieBreak pool.model with
      | ok next model =>
          rw [ended] at atEnd
          exact confined.replace atEnd (steps.2 pool.model next model confined.model ended) place
      | error fault model =>
          rw [ended] at atEnd
          have idle : Worker.IsConfined origin touched good { pending := [] } :=
            ⟨fun index listed => absurd listed List.not_mem_nil, trivial⟩
          exact confined.replace atEnd idle place

/-- Whatever turns the workers of a pass take, their model stays confined. -/
theorem keeps_greedyTurns (permits : origin.Permits touched good) (places : List Nat)
    (reaches : ReachesAll origin touched indices) :
    Effect.Keeps (origin.Confined touched good)
      (greedyTurns register tieBreak places indices) := by
  refine Effect.keeps_bind_of_gives (gives_prepare permits reaches) fun prepared listed => ?_
  apply Effect.keeps_modify
  intro model confined
  have started : (Pool.start model (register.components prepared.2)).IsConfined origin touched
      good := by
    refine ⟨confined, ?_⟩
    intro worker member
    obtain ⟨members, component, rfl⟩ := List.mem_map.mp member
    exact ⟨fun index inside => listed index (Register.mem_of_mem_components component inside),
      trivial⟩
  refine Pool.IsConfined.model (?_ : Pool.IsConfined origin touched good _)
  revert started
  generalize Pool.start model (register.components prepared.2) = pool
  intro started
  induction places generalizing pool with
  | nil => exact started
  | cons place places ih => exact ih _ (started.serve permits place)

end Workers

end HingeField.Rounding
