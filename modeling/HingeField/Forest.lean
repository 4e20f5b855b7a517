import HingeField.Keyed

/-!
Disjoint sets of integers as a parent-pointer forest.

Every key has a parent; a key that is its own parent is a root and stands for
its set. Finding a root shortens the path it follows: each key visited is
hung below its grandparent, and the search goes on from there. Keys that were
never entered are their own roots.
-/

namespace HingeField

structure Forest where
  links : List (Int × Int)

namespace Forest

/-- Every distinct key is a set of its own. -/
def singletons (keys : List Int) : Forest :=
  ⟨keys.map fun key => (key, key)⟩

def keys (forest : Forest) : List Int :=
  forest.links.map (·.1)

def parent (forest : Forest) (key : Int) : Int :=
  (forest.links.lookup key).getD key

/-- Hangs a key below another one. -/
def hang (forest : Forest) (key below : Int) : Forest :=
  ⟨forest.links.map fun link => if link.1 = key then (key, below) else link⟩

/-- Follows parents for at most `steps` steps, hanging each key visited below its grandparent. -/
def follow : Nat → Forest → Int → Int × Forest
  | 0, forest, key => (key, forest)
  | steps + 1, forest, key =>
      if forest.parent key = key then (key, forest)
      else
        let grandparent := forest.parent (forest.parent key)
        follow steps (forest.hang key grandparent) grandparent

/-- The root of a key. A path has no more links than the forest has keys. -/
def find (forest : Forest) (key : Int) : Int × Forest :=
  follow forest.links.length forest key

/-- Hangs the root of the second key below the root of the first. -/
def unite (forest : Forest) (first second : Int) : Forest :=
  let (firstRoot, forest) := forest.find first
  let (secondRoot, forest) := forest.find second
  if firstRoot = secondRoot then forest else forest.hang secondRoot firstRoot

/-- Unites all keys of a list with the first one. -/
def uniteAll (forest : Forest) : List Int → Forest
  | [] => forest
  | first :: others => others.foldl (fun forest other => forest.unite first other) forest

/-- The sets that the listed keys belong to, in the order of their first members. -/
def groupsOf (forest : Forest) (listed : List Int) : List (List Int) :=
  let step := fun (state : Forest × List (Int × List Int)) key =>
    let (root, forest) := state.1.find key
    (forest, Keyed.append state.2 root key)
  (listed.foldl step (forest, [])).2.map (·.2)

end Forest

end HingeField
