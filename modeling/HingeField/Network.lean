import HingeField.Table

/-!
The network text that a solver reads:

    MARKOV
    <number of blocks>
    <their cardinalities>
    <number of rules>
    <scope size> <block> …          one line per rule, empty without a scope
                                    then per rule an empty line,
    <number of entries>
     <potential> <potential> …      each with a space before it

Scopes and tables name blocks in ascending order, whatever the order of a
rule's atoms. Text that was written before a failure stays written.
-/

namespace HingeField.Network

/-- A model on its way into text. -/
structure Draft where
  model : Model Float
  text : String := ""

/-- A step of writing. -/
abbrev Writer (β : Type) := Effect Draft β

def write (text : String) : Writer Unit :=
  modify fun draft => { draft with text := draft.text ++ text }

/-- Runs an action on the model that is being written. -/
def onModel {β : Type} (action : Action Float β) : Writer β :=
  Effect.onPart Draft.model (fun draft model => { draft with model }) action

def scopeLine (scope : List Nat) : String :=
  match scope with
  | [] => "\n"
  | _ => String.intercalate " " ((scope.length :: scope).map toString) ++ "\n"

def potentialLine (potentials : List Float) : String :=
  String.join (potentials.map fun potential => " " ++ Decimal.realText potential) ++ "\n"

def header (model : Model Float) : String :=
  "MARKOV\n" ++ toString model.blocks.length ++ "\n" ++
    String.intercalate " " (model.cardinalities.map toString) ++ "\n" ++
    toString model.rules.length ++ "\n"

def writeScope (rule : Rule Float) : Writer Unit := do
  let scope ← onModel do Effect.ofExcept ((← get).scopeOf rule)
  write (scopeLine scope)

def tableLines (table : PotentialTable) : String :=
  toString table.size ++ "\n" ++ potentialLine table.potentials

def writeTable (rule : Rule Float) : Writer Unit := do
  write "\n"
  let table ← onModel (Model.buildTable rule)
  write (tableLines table)

/-- Writes the header, then all scopes, then all tables. -/
def writeModel : Writer Unit := do
  let model := (← get).model
  write (header model)
  model.rules.forM writeScope
  model.rules.forM writeTable

/-- The text that reaches the output, with the fault that ended the writing early, if one did. -/
def writing : Action Float (String × Option Fault) := fun model =>
  match writeModel { model } with
  | .ok () draft => .ok (draft.text, none) draft.model
  | .error fault draft => .ok (draft.text, some fault) draft.model

/-- The whole network text of a model. -/
def render : Action Float String := do
  match (← writing) with
  | (text, none) => return text
  | (_, some fault) => throw fault

end HingeField.Network
