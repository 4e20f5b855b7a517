import HingeField.Forest
import HingeField.Rule

/-!
The register of rules by atom. Each registered rule is filed once under each
distinct atom it refers to, so that a variable can be scored against its own
rules alone. Atoms are keys as written: -1 is not the last variable here.
-/

namespace HingeField

/-- Registered rules, with their positions filed by atom. -/
structure Register (α : Type) where
  rules : List (Rule α) := []
  byAtom : List (Int × List Nat) := []

namespace Register

variable {α : Type}

/-- Files a rule behind those already filed under its atoms. -/
def insert (register : Register α) (rule : Rule α) : Register α :=
  { rules := register.rules ++ [rule]
    byAtom :=
      rule.atoms.eraseDups.foldl
        (fun byAtom atom => Keyed.append byAtom atom register.rules.length)
        register.byAtom }

def ofList (rules : List (Rule α)) : Register α :=
  rules.foldl insert {}

def size (register : Register α) : Nat :=
  register.rules.length

/-- The positions of the rules filed under an atom, in the order of registration. -/
def positionsFor (register : Register α) (atom : Int) : List Nat :=
  (register.byAtom.lookup atom).getD []

/-- The rules filed under an atom, in the order of registration. -/
def rulesFor (register : Register α) (atom : Int) : List (Rule α) :=
  (register.positionsFor atom).filterMap fun position => register.rules[position]?

/-- The connected components of the given variables, two of which are joined when a rule refers to
both. Components and their members are in the order in which the variables are first listed. -/
def components (register : Register α) (indices : List Int) : List (List Int) :=
  let distinct := indices.eraseDups
  let joined :=
    register.rules.foldl
      (fun forest rule => forest.uniteAll (rule.atoms.filter fun atom => distinct.contains atom))
      (Forest.singletons distinct)
  joined.groupsOf distinct

end Register

end HingeField
