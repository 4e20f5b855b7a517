import HingeField.Shell.Integer
import HingeField.Shell.Session

/-!
Integer arithmetic of scripts. Operators bind in levels, and those of one level
from the left. Comparisons and connectives give one or zero; what a connective
or a choice leaves out is read, but neither computed nor assigned.
-/

namespace HingeField.Shell

inductive Symbol where
  | number (value : Int)
  | name (text : String)
  | sign (text : String)
  | unknown
deriving DecidableEq

/-- The operators between two values with their levels; lower ones bind more tightly. -/
def operatorLevels : List (String × Nat) :=
  [("*", 0), ("/", 0), ("%", 0), ("+", 1), ("-", 1), ("<<", 2), (">>", 2), ("<", 3), ("<=", 3),
    (">", 3), (">=", 3), ("==", 4), ("!=", 4), ("&", 5), ("^", 6), ("|", 7)]

/-- More than any level of an operator. -/
def loosestLevel : Nat := 8

/-- The signs of assignments and the operators they apply. -/
def assigningSigns : List (String × Option String) :=
  [("=", none), ("*=", some "*"), ("/=", some "/"), ("%=", some "%"), ("+=", some "+"),
    ("-=", some "-"), ("<<=", some "<<"), (">>=", some ">>"), ("&=", some "&"), ("^=", some "^"),
    ("|=", some "|")]

/-- Every sign of an expression, longer ones before those they start with. -/
def arithmeticSigns : List String :=
  ["<<=", ">>=", "<<", ">>", "<=", ">=", "==", "!=", "&&", "||", "*=", "/=", "%=", "+=", "-=", "&=",
    "^=", "|=", "<", ">", "=", "!", "&", "|", "*", "/", "%", "+", "-", "^", "~", "(", ")", "?", ":"]

/-- The symbols of an expression up to the first that is unknown. -/
def symbolsOf : Nat → List Char → List Symbol
  | 0, _ => []
  | _ + 1, [] => []
  | fuel + 1, c :: rest =>
      if c == ' ' || c == '\t' || c == '\n' then symbolsOf fuel rest
      else if c.isDigit then
        let read := readInteger readAnyBase (c :: rest)
        .number read.value :: symbolsOf fuel read.rest
      else if isNameStart c then
        let name := (c :: rest).takeWhile isNameChar
        .name (String.ofList name) :: symbolsOf fuel ((c :: rest).drop name.length)
      else match arithmeticSigns.find? fun sign => sign.toList.isPrefixOf (c :: rest) with
      | some sign => .sign sign :: symbolsOf fuel ((c :: rest).drop sign.length)
      | none => [.unknown]

def ofTruth (holds : Bool) : Int :=
  if holds then 1 else 0

/-- An operation on the 64 bits of two integers. -/
def onBits (operation : Nat → Nat → Nat) (left right : Int) : Int :=
  let bits := fun value : Int => (value.emod 0x10000000000000000).toNat
  wrapped (operation (bits left) (bits right))

/-- How far a shift goes: as far as the low bits of its count say. -/
def shiftCount (count : Int) : Nat :=
  (count.emod 64).toNat

/-- The result of an operator; division by zero has none. -/
def operate (sign : String) (left right : Int) : Option Int :=
  match sign with
  | "*" => some (wrapped (left * right))
  | "/" => if right = 0 then none else some (wrapped (left.tdiv right))
  | "%" => if right = 0 then none else some (left.tmod right)
  | "+" => some (wrapped (left + right))
  | "-" => some (wrapped (left - right))
  | "<<" => some (wrapped (left * Nat.pow 2 (shiftCount right)))
  | ">>" => some (left / Nat.pow 2 (shiftCount right))
  | "<" => some (ofTruth (left < right))
  | "<=" => some (ofTruth (left ≤ right))
  | ">" => some (ofTruth (right < left))
  | ">=" => some (ofTruth (right ≤ left))
  | "==" => some (ofTruth (left == right))
  | "!=" => some (ofTruth (left != right))
  | "&" => some (onBits (· &&& ·) left right)
  | "^" => some (onBits (· ^^^ ·) left right)
  | _ => some (onBits (· ||| ·) left right)

/-- The integer that a variable holds; one without a value holds zero. -/
def integerOf (name : String) : Act Int := do
  let text := ((← get).valueOf? name).getD ""
  match operand? text with
  | some value => return value
  | none => fail ("Illegal number: " ++ text)

/-- An expression: its text, for messages, and what is left of its symbols. -/
structure Sum where
  text : String
  symbols : List Symbol

/-- A step of a computation. -/
abbrev Computing := StateT Sum Act

namespace Computing

def refuse {α : Type} (text : String) : Computing α := do
  let whole := (← get).text
  (fail ("arithmetic expression: " ++ text ++ ": \"" ++ whole ++ "\"") : Act α)

def next : Computing (Option Symbol) := do
  return (← get).symbols.head?

def skip (count : Nat) : Computing Unit :=
  modify fun sum => { sum with symbols := sum.symbols.drop count }

/-- Takes a sign off if it comes next. -/
def takes (sign : String) : Computing Bool := do
  if (← next) == some (.sign sign) then
    skip 1
    return true
  else return false

/-- The operator that comes next, with its level. -/
def nextOperator : Computing (Option (String × Nat)) := do
  match ← next with
  | some (.sign text) => return (operatorLevels.lookup text).map fun level => (text, level)
  | _ => return none

def apply (sign : String) (left right : Int) : Computing Int := do
  match operate sign left right with
  | some value => return value
  | none => refuse "division by zero"

end Computing

open Computing

mutual

/-- A value with the signs in front of it. -/
def computeOperand : Nat → Bool → Computing Int
  | 0, _ => refuse "expecting primary"
  | fuel + 1, isLive => do
      match ← next with
      | some (.number value) =>
          skip 1
          return value
      | some (.name text) =>
          skip 1
          if isLive then (integerOf text : Act Int) else return 0
      | some (.sign "(") =>
          skip 1
          let value ← computeAssignment fuel isLive
          unless ← takes ")" do refuse "expecting ')'"
          return value
      | some (.sign "+") => skip 1; computeOperand fuel isLive
      | some (.sign "-") => skip 1; return wrapped (-(← computeOperand fuel isLive))
      | some (.sign "!") => skip 1; return ofTruth ((← computeOperand fuel isLive) == 0)
      | some (.sign "~") => skip 1; return -(← computeOperand fuel isLive) - 1
      | _ => refuse "expecting primary"

/-- What operators tighter than a level make of a value. -/
def computeOperators : Nat → Bool → Nat → Int → Computing Int
  | 0, _, _, left => return left
  | fuel + 1, isLive, level, left => do
      match ← nextOperator with
      | none => return left
      | some (sign, own) =>
          if level ≤ own then return left
          skip 1
          let operand ← computeOperand fuel isLive
          let right ← computeOperators fuel isLive own operand
          let value ← if isLive then apply sign left right else pure right
          computeOperators fuel isLive level value

def computeBoth : Nat → Bool → Computing Int
  | 0, _ => return 0
  | fuel + 1, isLive => do
      let left ← computeOperators fuel isLive loosestLevel (← computeOperand fuel isLive)
      if ← takes "&&" then
        let right ← computeBoth fuel (isLive && left != 0)
        return ofTruth (left != 0 && right != 0)
      else return left

def computeEither : Nat → Bool → Computing Int
  | 0, _ => return 0
  | fuel + 1, isLive => do
      let left ← computeBoth fuel isLive
      if ← takes "||" then
        let right ← computeEither fuel (isLive && left == 0)
        return ofTruth (left != 0 || right != 0)
      else return left

def computeChoice : Nat → Bool → Computing Int
  | 0, _ => return 0
  | fuel + 1, isLive => do
      let condition ← computeEither fuel isLive
      if ← takes "?" then
        let first ← computeAssignment fuel (isLive && condition != 0)
        unless ← takes ":" do refuse "expecting ':'"
        let second ← computeChoice fuel (isLive && condition == 0)
        return if condition != 0 then first else second
      else return condition

def computeAssignment : Nat → Bool → Computing Int
  | 0, _ => return 0
  | fuel + 1, isLive => do
      match (← get).symbols with
      | .name text :: .sign sign :: _ =>
          match assigningSigns.lookup sign with
          | some operator? =>
              skip 2
              let right ← computeAssignment fuel isLive
              if !isLive then return right
              let value ←
                match operator? with
                | some operator => apply operator (← (integerOf text : Act Int)) right
                | none => pure right
              (setVariable text (toString value) : Act Unit)
              return value
          | none => computeChoice fuel isLive
      | _ => computeChoice fuel isLive

end

/-- The value of an expression. -/
def evaluateExpression (text : String) : Act Int := do
  let chars := text.toList
  let symbols := symbolsOf (chars.length + 1) chars
  let computation : Computing Int := do
    let value ← computeAssignment (8 * symbols.length + 8) true
    unless (← get).symbols.isEmpty do refuse "expecting EOF"
    return value
  computation.run' { text, symbols }

end HingeField.Shell
