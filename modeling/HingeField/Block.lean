import HingeField.Fault

/-!
Blocks: runs of consecutive variables of which at most one is true. A category
code names a state of the block. Unless exactly one variable must be true, code
0 is the state in which none is, and the variables follow from code 1.
-/

namespace HingeField

structure Block where
  start : Int
  stop : Int
  exactlyOne : Bool := true
deriving DecidableEq, Inhabited

namespace Block

def size (block : Block) : Int :=
  block.stop - block.start

/-- The number of category codes. -/
def cardinality (block : Block) : Int :=
  if block.exactlyOne then block.size else block.size + 1

/-- The indices of the block's variables in ascending order. -/
def indices (block : Block) : List Int :=
  (List.range block.size.toNat).map fun (offset : Nat) => block.start + offset

/-- The variable that a category code switches on, if it switches one on. -/
def variableFor (block : Block) (code : Int) : Except Fault (Option Int) :=
  if 0 ≤ code ∧ code < block.cardinality then
    .ok <|
      if block.exactlyOne then some (block.start + code)
      else if code = 0 then none
      else some (block.start + code - 1)
  else .error (.categoryOutOfRange code block.cardinality)

/-- The part of an arena that belongs to the block. -/
def members {α : Type} (block : Block) (values : List α) : List α :=
  (values.drop block.start.toNat).take block.size.toNat

/-- Puts new values in the place of the block's members. -/
def replaceMembers {α : Type} (block : Block) (values new : List α) : List α :=
  values.take block.start.toNat ++ new ++ values.drop block.stop.toNat

end Block

end HingeField
