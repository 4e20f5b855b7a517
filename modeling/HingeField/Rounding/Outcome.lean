import HingeField.Model

/-!
The outcome of a rounding pass: the rounded variables with their final values,
and how many of them ended away from the nearest value of their start.
-/

namespace HingeField.Rounding

variable {α : Type} [Scalar α]

structure Outcome (α : Type) where
  indices : List Int
  values : List α
  changed : Nat

/-- The number of variables that ended true. -/
def Outcome.ones (outcome : Outcome α) : Nat :=
  (outcome.values.filter fun value => Scalar.equal value Scalar.one).length

/-- The values at the given positions; the first position outside the arena is the fault. -/
def valuesAt (indices : List Int) : Action α (List α) := do
  let arena := (← get).values
  Effect.ofExcept (indices.mapM arena.read)

/-- The values at indices all of which must be machine words. -/
def valuesAtWords (indices : List Int) : Action α (List α) := do
  unless indices.all isWord do throw .wordOverflow
  valuesAt indices

/-- The values at indices that are taken as machine words. Words without a sign are read by their
bits if all of the indices are such; otherwise a list with one of them holds no indices. -/
def valuesAtBits (indices : List Int) : Action α (List α) := do
  if indices.all isWord then valuesAt indices
  else if indices.all isOverWord then
    valuesAt (indices.map fun index => index - 2 * wordBound)
  else throw .notAnIndex

/-- The outcome for variables that had the given values at the start. -/
def outcomeFrom (indices : List Int) (starting : List α) : Action α (Outcome α) := do
  let values ← valuesAtBits indices
  let changed :=
    (values.zip starting).filter fun (value, start) =>
      !Scalar.equal value (Scalar.nearest start)
  return { indices, values, changed := changed.length }

end HingeField.Rounding
