import HingeField.Rounding.Greedy

/-!
Greedy rounding by several workers at once. Each worker decides the variables
of its component in their order, one elementary step after the other, and the
workers take turns in any order. They share one model, so that the values one
of them tries are in the arena while others score.

The steps of a worker with a variable are those of its decision, cut apart:
reading the current value, writing zero, scoring, writing one, scoring, writing
the current value back, writing the better value, committing it. Without rules
the better value follows the reading at once.
-/

namespace HingeField.Rounding

/-- What comes before the first decision of a greedy pass. It gives the values that the distinct
variables start with, and the order of the decisions. -/
def prepare {α : Type} [Scalar α] (indices : List Int) : Action α (List α × List Int) := do
  let distinct := indices.eraseDups
  let starting ← valuesAtBits distinct
  soften distinct
  let ordered ← order distinct
  return (starting, ordered)

/-- How far a worker is with the first of its pending variables. -/
inductive Phase (α : Type) where
  | waiting
  | opened (current : α)
  | zeroWritten (current : α)
  | zeroScored (current atZero : α)
  | oneWritten (current atZero : α)
  | oneScored (current best : α)
  | chosen (best : α)
  | written

/-- A worker with the variables it has still to decide. -/
structure Worker (α : Type) where
  pending : List Int
  phase : Phase α := .waiting

variable {α : Type} [Scalar α]

namespace Worker

/-- The next elementary step of a worker. One without pending variables has nothing to do. -/
def step (register : Register α) (tieBreak : TieBreak) (worker : Worker α) :
    Action α (Worker α) :=
  match worker.pending with
  | [] => return worker
  | index :: rest =>
      match worker.phase with
      | .waiting => do
          let current ← Model.readValue index
          return { worker with
            phase :=
              if (register.rulesFor index).isEmpty then .chosen (Scalar.nearest current)
              else .opened current }
      | .opened current => do
          Model.writeValue index Scalar.zero
          return { worker with phase := .zeroWritten current }
      | .zeroWritten current => do
          let atZero ← score register index
          return { worker with phase := .zeroScored current atZero }
      | .zeroScored current atZero => do
          Model.writeValue index Scalar.one
          return { worker with phase := .oneWritten current atZero }
      | .oneWritten current atZero => do
          let atOne ← score register index
          return { worker with phase := .oneScored current (better tieBreak atZero atOne) }
      | .oneScored current best => do
          Model.writeValue index current
          return { worker with phase := .chosen best }
      | .chosen best => do
          Model.writeValue index best
          return { worker with phase := .written }
      | .written => do
          Model.commit index
          return { pending := rest }

/-- So many steps of a worker on its own. -/
def run (register : Register α) (tieBreak : TieBreak) : Nat → Worker α → Action α (Worker α)
  | 0, worker => return worker
  | steps + 1, worker => do run register tieBreak steps (← worker.step register tieBreak)

end Worker

/-- Workers on one model. -/
structure Pool (α : Type) where
  model : Model α
  workers : List (Worker α)

namespace Pool

/-- One worker for each component, before their first steps. -/
def start (model : Model α) (components : List (List Int)) : Pool α :=
  { model, workers := components.map fun members => { pending := members } }

def IsFinished (pool : Pool α) : Prop :=
  ∀ worker ∈ pool.workers, worker.pending = []

/-- One step of the worker at a place. There is none if the worker has nothing to do, or if the
step fails. -/
def turn (register : Register α) (tieBreak : TieBreak) (place : Nat) (pool : Pool α) :
    Option (Pool α) := do
  let worker ← pool.workers[place]?
  if worker.pending.isEmpty then none
  else match worker.step register tieBreak pool.model with
    | .ok next model => some { model, workers := pool.workers.set place next }
    | .error _ _ => none

/-- So many turns, the workers in any order. -/
inductive Turns (register : Register α) (tieBreak : TieBreak) : Nat → Pool α → Pool α → Prop where
  | none (pool : Pool α) : Turns register tieBreak 0 pool pool
  | more {turns place : Nat} {pool next finish : Pool α}
      (taken : pool.turn register tieBreak place = some next)
      (rest : Turns register tieBreak turns next finish) :
      Turns register tieBreak (turns + 1) pool finish

/-- One step of the worker at a place, if there is one. A worker whose step fails gives up. -/
def serve (register : Register α) (tieBreak : TieBreak) (pool : Pool α) (place : Nat) : Pool α :=
  match pool.workers[place]? with
  | none => pool
  | some worker =>
      match worker.step register tieBreak pool.model with
      | .ok next model => { model, workers := pool.workers.set place next }
      | .error _ model => { model, workers := pool.workers.set place { pending := [] } }

end Pool

/-- A greedy pass by a worker for each component, as far as they come in the given turns. -/
def greedyTurns (register : Register α) (tieBreak : TieBreak) (places : List Nat)
    (indices : List Int) : Action α Unit := do
  let (_, ordered) ← prepare indices
  modify fun model =>
    (places.foldl (Pool.serve register tieBreak)
      (Pool.start model (register.components ordered))).model

end HingeField.Rounding
