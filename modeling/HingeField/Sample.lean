import HingeField.Effect
import HingeField.Random.Generator
import HingeField.Rule

/-!
Grouping and sampling of named items. Samples keep the order of the items they
are drawn from; a stratified sample draws from each name in turn.
-/

namespace HingeField

/-- Items that have a name. -/
class Named (β : Type) where
  name : β → String

instance {α : Type} : Named (Rule α) := ⟨Rule.name⟩

/-- An item keeps its name when it is paired with its position. -/
instance {β ι : Type} [Named β] : Named (β × ι) := ⟨fun item => Named.name item.1⟩

namespace Sample

variable {β : Type} [Named β]

def withName (items : List β) (name : String) : List β :=
  items.filter fun item => Named.name item == name

/-- By name, items of one name in their order. -/
def sortByName (items : List β) : List β :=
  items.mergeSort fun first second => !(Named.name second < Named.name first)

/-- The distinct names in ascending order. -/
def names (items : List β) : List String :=
  (items.map Named.name).eraseDups.mergeSort fun first second => !(second < first)

/-- A source of choices: distinct positions below a population, as many as asked for. -/
abbrev Chooser (σ : Type) := Nat → Int → Effect σ (List Int)

/-- The choices of a seeded generator. -/
def chooseRandomly : Chooser Random.Generator := fun population count => do
  if population = 0 ∧ count ≠ 0 then throw .emptyPopulation
  if !isWord count then throw .wordOverflow
  if count < 0 then throw .negativeSampleSize
  let (chosen, generator) := Random.choose population count.toNat (← get)
  set generator
  return chosen.map Int.ofNat

/-- Given choices, cut to the size asked for. -/
def chooseGiven (picks : List Int) : Chooser Unit := fun _ count =>
  return takeUntil picks count

/-- The element at a position, which must be there. -/
def pick {σ : Type} (items : List β) (position : Int) : Effect σ β :=
  match elementAt? items position with
  | some item => pure item
  | none => throw (positionFault position)

/-- The elements at positions that stand together in one array. Where some are words without a sign
and the others words with one, the array holds real numbers, which are no positions. -/
def pickAll {σ : Type} (items : List β) (positions : List Int) : Effect σ (List β) :=
  let isUnsigned := positions.any isOverWord
  if isUnsigned && positions.all isOverWord then throw .unsignedPositionOverflow
  else if isUnsigned && positions.all fun position => isWord position || isOverWord position then
    throw .notAPosition
  else positions.mapM (pick items)

/-- At most `count` items in their order. Nothing is drawn when all of them are wanted. -/
def sample {σ : Type} (choose : Chooser σ) (items : List β) (count : Int) :
    Effect σ (List β) := do
  if items.length ≤ count then return items
  let chosen ← choose items.length count
  pickAll items chosen.mergeSort

/-- At most `count` items of each name, the names in ascending order, from one source of choices. -/
def stratified {σ : Type} (choose : Chooser σ) (items : List β) (count : Int) :
    Effect σ (List β) := do
  let groups ← (names items).mapM fun name => sample choose (withName items name) count
  return groups.flatten

/-- The generator of a seed, which may not be negative. -/
def generatorOf (seed : Int) : Except Fault Random.Generator :=
  if seed < 0 then .error .negativeSeed else .ok (Random.Generator.ofSeed seed.toNat)

/-- The result of a computation that starts from a given source of choices. -/
def runFrom {σ γ : Type} (source : σ) (computation : Effect σ γ) : Except Fault γ :=
  match computation source with
  | .ok value _ => .ok value
  | .error fault _ => .error fault

/-- A sample drawn with a seed. The seed is looked at only if something is drawn. -/
def sampleSeeded (items : List β) (count seed : Int) : Except Fault (List β) :=
  if items.length ≤ count then .ok items
  else do
    let generator ← generatorOf seed
    runFrom generator (sample chooseRandomly items count)

def stratifiedSeeded (items : List β) (count seed : Int) : Except Fault (List β) := do
  let generator ← generatorOf seed
  runFrom generator (stratified chooseRandomly items count)

end Sample

end HingeField
