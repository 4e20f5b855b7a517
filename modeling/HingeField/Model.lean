import HingeField.Block
import HingeField.Effect
import HingeField.Keyed
import HingeField.Rule

/-!
The model: an arena of truth values, the blocks its variables are grouped in,
the rules over it, and the values committed so far.

Operations on a model are effects, which keep the changes made up to a failure;
the operations below that check before they change therefore change nothing
when they fail. Variables outside every block are free: rules may read them,
but they have no category.
-/

namespace HingeField

/-- A committed value, as the journal records it. -/
structure Commit (α : Type) where
  index : Int
  value : α

/-- Variables, blocks and rules. In `owners` stands the block of each variable. The journal, if one
is kept, receives every commit in order, while `committed` holds the last value committed for each
variable. -/
structure Model (α : Type) where
  values : Arena α := []
  owners : List (Option Nat) := []
  blocks : List Block := []
  rules : List (Rule α) := []
  committed : List (Int × α) := []
  keepsJournal : Bool := true
  journal : List (Commit α) := []

/-- An operation on a model. -/
abbrev Action (α β : Type) := Effect (Model α) β

namespace Model

section Layout

variable {α : Type}

def variableCount (model : Model α) : Nat :=
  model.values.length

def cardinalities (model : Model α) : List Int :=
  model.blocks.map (·.cardinality)

/-- The block that owns a variable; `none` for a free one. -/
def blockOf (model : Model α) (index : Int) : Except Fault (Option Nat) :=
  match elementAt? model.owners index with
  | some owner => .ok owner
  | none => .error (positionFault index)

def blockAt (model : Model α) (position : Int) : Except Fault Block :=
  match elementAt? model.blocks position with
  | some block => .ok block
  | none => .error (positionFault position)

def ruleAt (model : Model α) (position : Int) : Except Fault (Rule α) :=
  match elementAt? model.rules position with
  | some rule => .ok rule
  | none => .error (positionFault position)

/-- Appends variables with one owner. -/
def grow (model : Model α) (values : List α) (owner : Option Nat) : Model α :=
  { model with
    values := model.values ++ values
    owners := model.owners ++ List.replicate values.length owner }

def text (model : Model α) : String :=
  "BlockModel(variables=" ++ toString model.values.length ++ ", blocks=" ++
    toString model.blocks.length ++ ", rules=" ++ toString model.rules.length ++ ")"

end Layout

section Construction

variable {α : Type} [Scalar α]

/-- Not outside the unit interval. A value that is not a number is not outside. -/
def isAdmissible (value : α) : Bool :=
  !(Scalar.less value Scalar.zero || Scalar.less Scalar.one value)

/-- Appends a free variable and returns its index. -/
def addVariable (value : α) : Action α Nat := do
  let model ← get
  unless isAdmissible value do throw .truthRange
  set (model.grow [value] none)
  return model.variableCount

/-- The initial values of a block, with the dimensions of the array they came in. In an array that
is not regular only the dimensions that all its rows share are known. -/
structure InitialValues (α : Type) where
  shape : List Nat
  cells : List α
  isRegular : Bool := true

namespace InitialValues

/-- The array without dimensions that holds one value. -/
def single (value : α) : InitialValues α :=
  { shape := [], cells := [value] }

/-- The dimensions on which two shapes agree from the outside in. -/
def commonShape : List Nat → List Nat → List Nat
  | m :: ms, n :: ns => if m = n then m :: commonShape ms ns else []
  | _, _ => []

/-- The array whose rows are the given arrays. It is regular if they are and have one shape. -/
def stack : List (InitialValues α) → InitialValues α
  | [] => { shape := [0], cells := [] }
  | row :: rows =>
      { shape := (rows.length + 1) :: (rows.map (·.shape)).foldl commonShape row.shape
        cells := ((row :: rows).map (·.cells)).flatten
        isRegular := (row :: rows).all fun next => next.isRegular && next.shape == row.shape }

/-- Whether an array has more dimensions than allowed; rows that differ only beyond the last one
allowed count as further dimensions. -/
def isTooDeep (values : InitialValues α) : Bool :=
  if values.isRegular then maximalDimensions < values.shape.length
  else maximalDimensions ≤ values.shape.length

/-- Refuses an array with too many dimensions, or with rows that differ in them. -/
def checkShape (values : InitialValues α) : Except Fault Unit :=
  if values.isTooDeep then .error .tooManyDimensions
  else if !values.isRegular then .error (.raggedValues values.shape)
  else .ok ()

end InitialValues

/-- So many zeros, if there is room for them. -/
def zeros (size : Nat) : Except Fault (List α) := do
  checkRoom size
  return List.replicate size Scalar.zero

/-- The values of a new block: zeros unless given, and then one admissible value for each of its
variables. -/
def blockValues (size : Int) : Option (InitialValues α) → Except Fault (List α)
  | none => zeros size.toNat
  | some given => do
      given.checkShape
      if given.shape ≠ [size.toNat] then .error (.valuesShape size given.shape)
      else if given.cells.all isAdmissible then .ok given.cells
      else .error .truthRange

/-- Appends a block of fresh variables and returns its index. -/
def addBlock (size : Int) (exactlyOne : Bool) (initial : Option (InitialValues α)) :
    Action α Nat := do
  let model ← get
  if size < 1 then throw (.blockSize size)
  let values ← Effect.ofExcept (blockValues size initial)
  let start : Int := model.variableCount
  let grown := model.grow values (some model.blocks.length)
  set { grown with blocks := model.blocks ++ [Block.mk start (start + size) exactlyOne] }
  return model.blocks.length

def addRule (rule : Rule α) : Action α Unit :=
  modify fun model => { model with rules := model.rules ++ [rule] }

end Construction

section Access

variable {α : Type}

def readValue (index : Int) : Action α α := do
  Effect.ofExcept ((← get).values.read index)

/-- Stores any value at a position. -/
def writeValue (index : Int) (value : α) : Action α Unit := do
  let model ← get
  let values ← Effect.ofExcept (model.values.write index value)
  set { model with values }

/-- Stores a value of the unit interval at a position. -/
def setValue (index : Int) (value : Float) : Action Float Unit := do
  unless 0.0 ≤ value ∧ value ≤ 1.0 do throw (.truthOutside value)
  writeValue index value

def snapshot : Action α (Arena α) := do
  return (← get).values

/-- Puts back all values of an arena of the same size. -/
def restore (values : Arena α) : Action α Unit := do
  let model ← get
  unless values.length = model.values.length do throw .snapshotSize
  set { model with values }

/-- Puts back values that come as an array, which must have one dimension. -/
def restoreArray (given : InitialValues α) : Action α Unit := do
  Effect.ofExcept given.checkShape
  if given.shape = [given.cells.length] then restore given.cells else throw .snapshotSize

/-- Puts new values in the place of a block's members. -/
def putMembers (block : Block) (members : List α) : Action α Unit :=
  modify fun model => { model with values := block.replaceMembers model.values members }

end Access

section Categories

variable {α : Type} [Scalar α]

/-- Makes all members of a block false. -/
def clearMembers (block : Block) : Action α Unit :=
  putMembers block (List.replicate block.size.toNat Scalar.zero)

def clearBlock (position : Int) : Action α Unit := do
  let block ← Effect.ofExcept ((← get).blockAt position)
  clearMembers block

/-- Puts a block into the state that a category code names. -/
def assignCategory (position code : Int) : Action α Unit := do
  let block ← Effect.ofExcept ((← get).blockAt position)
  let chosen ← Effect.ofExcept (block.variableFor code)
  clearMembers block
  match chosen with
  | some index => writeValue index Scalar.one
  | none => pure ()

/-- The offsets of the members that are true. -/
def trueOffsets (members : List α) : List Nat :=
  (members.zipIdx.filter fun member => Scalar.equal member.1 Scalar.one).map (·.2)

/-- Zero or one. -/
def isDiscrete (value : α) : Bool :=
  Scalar.equal value Scalar.zero || Scalar.equal value Scalar.one

/-- The code of the state a block is in: all members are discrete and the number of true ones is
one, or at most one where none is allowed. -/
def categoryOf (model : Model Float) (position : Int) : Except Fault Int := do
  let block ← model.blockAt position
  let members := block.members model.values
  let chosen := trueOffsets members
  if 1 < chosen.length || !members.all isDiscrete then
    throw (.notDiscrete position members)
  match chosen with
  | [] => if block.exactlyOne then throw (.noTrueMember position) else return 0
  | offset :: _ => return if block.exactlyOne then (offset : Int) else offset + 1

/-- The blocks whose number of true members is not allowed, in ascending order. -/
def violations (model : Model α) : List Nat :=
  (model.blocks.zipIdx.filter fun (block, _) =>
    let count := (trueOffsets (block.members model.values)).length
    1 < count || (block.exactlyOne && count != 1)).map (·.2)

end Categories

section Commits

variable {α : Type}

/-- Records the current value of a variable as durable. -/
def commit (index : Int) : Action α Unit := do
  let value ← readValue index
  modify fun model =>
    { model with
      committed := Keyed.put model.committed index value
      journal := if model.keepsJournal then model.journal ++ [⟨index, value⟩] else model.journal }

end Commits

end Model

end HingeField
