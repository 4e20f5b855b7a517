import HingeField.Exponential
import HingeField.Keyed
import HingeField.Scalar

/-!
Weighted ground rules over an arena of truth values.

A rule measures how far the arena is from satisfying it, its incompatibility.
A clause is a disjunction of literals, a linear rule bounds a weighted sum from
above, and a custom rule supplies its own measure. The potential of a rule is
the exponential of its negated weighted incompatibility. Greedy rounding scores
by the expected compatibility, which for a clause reads truth values as
independent probabilities.
-/

namespace HingeField

/-- One truth value per variable. -/
abbrev Arena (α : Type) := List α

/-- The truth value at a position. -/
def Arena.read {α : Type} (arena : Arena α) (index : Int) : Except Fault α :=
  match elementAt? arena index with
  | some value => .ok value
  | none => .error (indexFault index arena.length)

/-- Replaces the truth value at a position. -/
def Arena.write {α : Type} (arena : Arena α) (index : Int) (value : α) :
    Except Fault (Arena α) :=
  match resolvePosition? arena.length index with
  | some offset => .ok (arena.set offset value)
  | none => .error (indexFault index arena.length)

theorem Arena.length_write {α : Type} {arena written : Arena α} {index : Int} {value : α}
    (success : arena.write index value = .ok written) : written.length = arena.length := by
  unfold Arena.write at success
  split at success
  · cases success
    exact List.length_set
  · cases success

structure Literal where
  atom : Int
  positive : Bool
deriving DecidableEq

structure Term (α : Type) where
  atom : Int
  coefficient : α

/-- Terms of one atom are one term: it keeps the first place and the last coefficient. -/
def mergeTerms {α : Type} (terms : List (Term α)) : List (Term α) :=
  let merged :=
    terms.foldl (fun merged term => Keyed.put merged term.atom term.coefficient) []
  merged.map fun (atom, coefficient) => ⟨atom, coefficient⟩

/-- A measure supplied from outside, with the name of its kind and the atoms it refers to. -/
structure CustomMeasure (α : Type) where
  kind : String
  atoms : List Int
  measure : Arena α → Except Fault α

inductive RuleBody (α : Type) where
  | clause (literals : List Literal) (squared : Bool)
  | linear (terms : List (Term α)) (bound : α) (squared : Bool)
  | custom (measure : CustomMeasure α)

structure Rule (α : Type) where
  weight : α
  name : String
  body : RuleBody α

/-- The name of a rule's kind; a rule without a name of its own is called by it. -/
def RuleBody.kind {α : Type} : RuleBody α → String
  | .clause _ _ => "LogicalRule"
  | .linear _ _ _ => "ArithmeticRule"
  | .custom measure => measure.kind

/-- The atoms in traversal order, as often as they are mentioned. -/
def RuleBody.atoms {α : Type} : RuleBody α → List Int
  | .clause literals _ => literals.map (·.atom)
  | .linear terms _ _ => terms.map (·.atom)
  | .custom measure => measure.atoms

namespace Rule

section Evaluation

variable {α : Type} [Scalar α]

def kind (rule : Rule α) : String :=
  rule.body.kind

def atoms (rule : Rule α) : List Int :=
  rule.body.atoms

/-- The truth value of a literal. -/
def literalTruth (arena : Arena α) (literal : Literal) : Except Fault α := do
  let value ← arena.read literal.atom
  return if literal.positive then value else Scalar.one - value

/-- One summand of a linear rule. -/
def termValue (arena : Arena α) (term : Term α) : Except Fault α := do
  let value ← arena.read term.atom
  return term.coefficient * value

/-- The square of a distance. Only for a rule without atoms is an overflow a fault. -/
def square (hasAtoms : Bool) (distance : α) : Except Fault α :=
  let result := Scalar.square distance
  if !hasAtoms && Scalar.isFinite distance && !Scalar.isFinite result then
    .error .squareOverflow
  else .ok result

/-- The distance of the arena from satisfying the rule. -/
def incompatibility (rule : Rule α) (arena : Arena α) : Except Fault α :=
  match rule.body with
  | .clause literals squared => do
      let truths ← literals.mapM (literalTruth arena)
      let distance := Scalar.positivePart (Scalar.one - Scalar.sum truths)
      if squared then square (!literals.isEmpty) distance else return distance
  | .linear terms bound squared => do
      let summands ← terms.mapM (termValue arena)
      let distance := Scalar.positivePart (Scalar.sum summands - bound)
      if squared then square (!terms.isEmpty) distance else return distance
  | .custom custom => custom.measure arena

/-- The product of the complements of the truth values. -/
def falsity (truths : List α) : α :=
  truths.foldl (fun product truth => product * (Scalar.one - truth)) Scalar.one

/-- The score of greedy rounding; higher is better. -/
def expectedCompatibility (rule : Rule α) (arena : Arena α) : Except Fault α :=
  match rule.body with
  | .clause literals _ => do
      let truths ← literals.mapM (literalTruth arena)
      return rule.weight * (Scalar.one - falsity truths)
  | _ => do
      let distance ← rule.incompatibility arena
      return -rule.weight * distance

/-- The exponent of the rule's potential. -/
def logPotential (rule : Rule α) (arena : Arena α) : Except Fault α := do
  let distance ← rule.incompatibility arena
  return -rule.weight * distance

end Evaluation

/-- A rule with a checked weight; an absent or empty name gives way to the name of the kind. -/
def create (body : RuleBody Float) (weight : Float) (name : Option String) :
    Except Fault (Rule Float) :=
  if weight < 0.0 ∨ weight.isNaN then .error (.negativeWeight weight)
  else
    let given := name.getD ""
    .ok { weight, body, name := if given.isEmpty then body.kind else given }

def potential (rule : Rule Float) (arena : Arena Float) : Except Fault Float := do
  let exponent ← rule.logPotential arena
  exponential exponent

def literalText (literal : Literal) : String :=
  (if literal.positive then "" else "~") ++ "x" ++ toString literal.atom

def termText (term : Term Float) : String :=
  Decimal.realText term.coefficient ++ "*x" ++ toString term.atom

def text (rule : Rule Float) : String :=
  let weight := Decimal.realText rule.weight
  let power := fun squared : Bool => if squared then "^2" else ""
  match rule.body with
  | .clause literals squared =>
      weight ++ " * (" ++ String.intercalate " | " (literals.map literalText) ++ ")" ++
        power squared
  | .linear terms bound squared =>
      let sum :=
        if terms.isEmpty then "0" else String.intercalate " + " (terms.map termText)
      weight ++ " * (" ++ sum ++ " <= " ++ Decimal.realText bound ++ ")" ++ power squared
  | .custom custom =>
      custom.kind ++ "(name=" ++ Text.quoted rule.name ++ ", weight=" ++ weight ++
        ", atoms=" ++ bracketed (custom.atoms.map toString) ++ ")"

end Rule

end HingeField
