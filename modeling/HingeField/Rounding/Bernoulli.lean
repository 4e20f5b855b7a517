import HingeField.Rounding.Outcome

/-!
Rounding by draws: a variable becomes one exactly when the number drawn for it
does not exceed its value.
-/

namespace HingeField.Rounding

variable {α : Type} [Scalar α]

/-- The value that a draw gives a variable. -/
def drawn (draw value : α) : α :=
  if Scalar.atMost draw value then Scalar.one else Scalar.zero

/-- Rounds and commits one variable. -/
def roundByDraw (index : Int) (draw : α) : Action α Unit := do
  let value ← Model.readValue index
  Model.writeValue index (drawn draw value)
  Model.commit index

/-- Rounds the distinct variables of a list in their order, the k-th of them by the k-th draw. -/
def bernoulli (draws : Nat → α) (indices : List Int) : Action α (Outcome α) := do
  let distinct := indices.eraseDups
  let starting ← valuesAtBits distinct
  distinct.zipIdx.forM fun (index, turn) => roundByDraw index (draws turn)
  outcomeFrom distinct starting

end HingeField.Rounding
