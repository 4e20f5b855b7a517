import HingeField.Assignment
import HingeField.Model

/-!
Potential tables. A rule's scope is the blocks that own its atoms; its table
holds the potential of the rule for every joint assignment of the scope, in the
order of the enumeration, with free variables at their current values.

The rule is evaluated on the model itself: each assignment is put into the
blocks of the scope, and the values found there at the start are put back when
the table is complete or its building fails.
-/

namespace HingeField

/-- The table of one rule. Exponents are kept, since a potential may round to zero. -/
structure PotentialTable where
  scope : List Nat
  cardinalities : List Int
  logPotentials : List Float
  potentials : List Float

def PotentialTable.size (table : PotentialTable) : Nat :=
  table.potentials.length

namespace Model

section Scope

variable {α : Type}

/-- The blocks that own atoms of a rule, ascending and without repetition; free atoms have none. -/
def scopeOf (model : Model α) (rule : Rule α) : Except Fault (List Nat) := do
  let owners ← rule.body.atoms.mapM model.blockOf
  return (owners.filterMap id).eraseDups.mergeSort

def blocksAt (model : Model α) (scope : List Int) : Except Fault (List Block) :=
  scope.mapM model.blockAt

def cardinalitiesAt (model : Model α) (scope : List Int) : Except Fault (List Int) := do
  return (← model.blocksAt scope).map (·.cardinality)

end Scope

/-- Puts each block of a scope into its state; codes or blocks without a partner are left out. -/
def applyAssignment {α : Type} [Scalar α] (scope codes : List Int) : Action α Unit :=
  (scope.zip codes).forM fun (block, code) => assignCategory block code

/-- The exponent and the potential of a rule in the state that an assignment names. -/
def tableEntry (rule : Rule Float) (scope : List Int) (digits : List Nat) :
    Action Float (Float × Float) := do
  applyAssignment scope (digits.map Int.ofNat)
  let exponent ← Effect.ofExcept (rule.logPotential (← get).values)
  let potential ← Effect.ofExcept (exponential exponent)
  return (exponent, potential)

/-- Puts the members found at the start back into their blocks. -/
def putBack (saved : List (Block × List Float)) : Action Float Unit :=
  saved.forM fun (block, members) => putMembers block members

/-- Builds the table of a rule, if there is room for its entries. -/
def buildTable (rule : Rule Float) : Action Float PotentialTable := do
  let model ← get
  let scope ← Effect.ofExcept (model.scopeOf rule)
  let positions := scope.map Int.ofNat
  let blocks ← Effect.ofExcept (model.blocksAt positions)
  let cardinalities := blocks.map (·.cardinality)
  Effect.ofExcept (checkRoom (Assignment.count cardinalities).toNat)
  let saved := blocks.map fun block => (block, block.members model.values)
  let entries ←
    Effect.outcome ((Assignment.all cardinalities).mapM (tableEntry rule positions))
  putBack saved
  let entries ← Effect.ofExcept entries
  return {
    scope
    cardinalities
    logPotentials := entries.map (·.1)
    potentials := entries.map (·.2) }

end Model

end HingeField
