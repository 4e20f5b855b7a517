import HingeField.Register
import HingeField.Rounding.Outcome

/-!
Greedy rounding. The open variables are softened, ordered by value, and decided
one after the other: each is tried at zero and at one, takes the value at which
its own rules score higher, and is committed. A variable without rules takes
its nearest value.

Decisions read the current values of the other variables, so they depend on
those already made. Components of the register share no rules and may be
decided in turn by separate workers.

A decision whose scoring fails leaves the value it was trying in the arena.
-/

namespace HingeField.Rounding

/-- Which value a variable takes when both score the same. -/
inductive TieBreak where
  | later
  | earlier
deriving DecidableEq

/-- One is tried after zero, so `later` means one. -/
def TieBreak.ofName (name : String) : Except Fault TieBreak :=
  if name = "later" then .ok .later
  else if name = "earlier" then .ok .earlier
  else .error (.unknownTieBreak name)

variable {α : Type} [Scalar α]

/-- Softens the values at the given positions; a position listed twice is softened once. -/
def soften (indices : List Int) : Action α Unit := do
  let values ← valuesAtWords indices
  (indices.zip values).forM fun (index, value) =>
    Model.writeValue index (Scalar.softened value)

/-- Whether a value must stand before another one: the greater first, what is no number last. -/
def precedes (first second : α) : Bool :=
  Scalar.less second first || (Scalar.equal first first && !Scalar.equal second second)

/-- The variables by descending value; equal ones keep their order. -/
def order (indices : List Int) : Action α (List Int) := do
  let values ← valuesAtWords indices
  let sorted :=
    (indices.zip values).mergeSort fun first second => !precedes second.2 first.2
  return sorted.map (·.1)

/-- The sum of the scores of a variable's own rules. -/
def score (register : Register α) (index : Int) : Action α α := do
  let arena := (← get).values
  let scores ←
    Effect.ofExcept
      ((register.rulesFor index).mapM fun rule => rule.expectedCompatibility arena)
  return Scalar.sum scores

/-- The better of zero and one by their scores. -/
def better (tieBreak : TieBreak) (atZero atOne : α) : α :=
  if Scalar.less atZero atOne then Scalar.one
  else if Scalar.less atOne atZero then Scalar.zero
  else match tieBreak with
    | .later => Scalar.one
    | .earlier => Scalar.zero

/-- Tries both values of a variable and puts the current one back. -/
def tryBoth (register : Register α) (tieBreak : TieBreak) (index : Int) (current : α) :
    Action α α := do
  Model.writeValue index Scalar.zero
  let atZero ← score register index
  Model.writeValue index Scalar.one
  let atOne ← score register index
  Model.writeValue index current
  return better tieBreak atZero atOne

/-- Chooses, stores and commits the value of a variable. -/
def decideVariable (register : Register α) (tieBreak : TieBreak) (index : Int) : Action α α := do
  let current ← Model.readValue index
  let best ←
    if (register.rulesFor index).isEmpty then pure (Scalar.nearest current)
    else tryBoth register tieBreak index current
  Model.writeValue index best
  Model.commit index
  return best

def decideAll (register : Register α) (tieBreak : TieBreak) (indices : List Int) :
    Action α Unit :=
  indices.forM fun index => do
    let _ ← decideVariable register tieBreak index

/-- Decides each component to its end or its failure. The first failing component gives the fault,
after all have run. -/
def decideComponents (register : Register α) (tieBreak : TieBreak)
    (components : List (List Int)) : Action α Unit := do
  let outcomes ←
    components.mapM fun members => Effect.outcome (decideAll register tieBreak members)
  outcomes.forM Effect.ofExcept

/-- A greedy pass over the distinct variables of a list. One worker decides them in a single order;
several take a component each, which keeps the order inside it. -/
def greedy (register : Register α) (tieBreak : TieBreak) (workers : Int)
    (indices : List Int) : Action α (Outcome α) := do
  let distinct := indices.eraseDups
  let starting ← valuesAtBits distinct
  soften distinct
  let ordered ← order distinct
  if workers ≤ 1 then decideAll register tieBreak ordered
  else decideComponents register tieBreak (register.components ordered)
  outcomeFrom distinct starting

end HingeField.Rounding
