import HingeField.Model
import HingeField.Sample

/-!
A printable summary of rules over a model: one section per rule, sorted by
name, with the rule's incompatibility, kind and text and the value of each of
its atoms.
-/

namespace HingeField.Summary

/-- The width of a section unless another one is asked for. -/
def standardWidth : Int := 79

/-- Centres a text in a line of a fill character. When the padding is odd, the extra place is on the
left in an odd width. -/
def centered (text : List Char) (width : Int) (fill : Char) : List Char :=
  let padding := width - text.length
  if padding ≤ 0 then text
  else
    let extra := if padding % 2 = 1 ∧ width % 2 = 1 then 1 else 0
    let left := (padding / 2 + extra).toNat
    List.replicate left fill ++ text ++ List.replicate (padding.toNat - left) fill

def atomLine (arena : Arena Float) (atom : Int) : Except Fault String := do
  let value ← arena.read atom
  return "ATOM: " ++ Decimal.realText value ++ ":" ++ toString atom

/-- The width from which on there is no room for a line. -/
def widestLine : Int := 0x10000000000

/-- Refuses a width that no line can have. -/
def checkWidth (width : Int) : Except Fault Unit :=
  if !isWord width then .error .sizeOverflow
  else if widestLine ≤ width then .error .exhaustedMemory
  else .ok ()

def ruleSection (arena : Arena Float) (width : Int) (rule : Rule Float) :
    Except Fault (List String) := do
  checkWidth width
  let distance ← rule.incompatibility arena
  let atoms ← rule.atoms.mapM (atomLine arena)
  return [
    String.ofList (centered (" " ++ rule.name ++ " ").toList width '='),
    "INCO: " ++ Decimal.realText distance,
    "CLAS: " ++ rule.kind,
    String.ofList (takeUntil ("STRI: " ++ rule.text).toList width)] ++ atoms

def format (rules : List (Rule Float)) (arena : Arena Float) (width : Int) :
    Except Fault String := do
  let sections ← (Sample.sortByName rules).mapM (ruleSection arena width)
  return String.intercalate "\n" sections.flatten

/-- The printed summary of the rules, or only of those with a given name. -/
def printed (rules : List (Rule Float)) (arena : Arena Float) (name : Option String)
    (width : Int) : Except Fault String := do
  let chosen :=
    match name with
    | some name => Sample.withName rules name
    | none => rules
  return (← format chosen arena width) ++ "\n"

/-- What a rule is listed as: its sort, name and weight. -/
structure RuleInfo where
  kind : String
  name : String
  weight : Float

def rulesInfo (rules : List (Rule Float)) : List RuleInfo :=
  rules.map fun rule => { kind := "compatibility", name := rule.name, weight := rule.weight }

end HingeField.Summary
