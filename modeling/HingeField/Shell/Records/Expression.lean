import HingeField.Shell.Integer
import HingeField.Shell.Utility.Regex

/-!
Regular expressions as programs for records write them: the extended form on
bytes, with escapes for single bytes inside and outside of sets. The start and the
end stand for those of the whole text, wherever they are written.
-/

namespace HingeField.Shell.Records

open Utility (Regex Member CharSet)

/-- Why a text is no regular expression. -/
inductive ExpressionDefect where
  | missingOperand
  | missingClosing
  | badSet
  | repeatedStart
  | badInterval

def ExpressionDefect.message : ExpressionDefect → String
  | .missingOperand => "missing operand"
  | .missingClosing => "missing ')'"
  | .badSet => "bad class -- [], [^] or ["
  | .repeatedStart => "syntax error ^* or ^+"
  | .badInterval => "bad interval expression"

/-- The byte of digits behind a backslash, and the rest. -/
def numberedByte (base most : Nat) (text : List Char) : Char × List Char :=
  let digits := (text.take most).takeWhile fun c => (digitOf? base c).isSome
  let value := digits.foldl (fun value c => value * base + (digitOf? base c).getD 0) 0
  (Char.ofNat (value % 256), text.drop digits.length)

/-- The byte that letters behind a backslash stand for. -/
def controlByte? (c : Char) : Option Char :=
  match c with
  | 'a' => some '\x07'
  | 'b' => some '\x08'
  | 't' => some '\t'
  | 'n' => some '\n'
  | 'v' => some '\x0b'
  | 'f' => some '\x0c'
  | 'r' => some '\r'
  | _ => none

/-- The byte behind a backslash in an expression, and the rest. -/
def escapedByte (text : List Char) : Char × List Char :=
  match text with
  | [] => ('\\', [])
  | 'x' :: rest =>
      if rest.head?.any fun c => (digitOf? 16 c).isSome then numberedByte 16 2 rest else ('x', rest)
  | c :: rest =>
      match controlByte? c with
      | some control => (control, rest)
      | none =>
          if (digitOf? 8 c).isSome then numberedByte 8 3 text else (c, rest)

/-! ### Sets -/

/-- The name of a class at the start of a text, and the rest. -/
def className? (text : List Char) : Option (String × List Char) :=
  match text with
  | '[' :: ':' :: rest =>
      let name := rest.takeWhile Char.isAlpha
      match rest.drop name.length with
      | ':' :: ']' :: rest => some (String.ofList name, rest)
      | _ => none
  | _ => none

/-- The members of a set up to its closing bracket, and the rest. -/
def readMembers : Nat → Bool → List Char → Except ExpressionDefect (List Member × List Char)
  | 0, _, _ => .error .badSet
  | _ + 1, _, [] => .error .badSet
  | fuel + 1, isStart, c :: rest => do
      if c == ']' && !isStart then return ([], rest)
      match className? (c :: rest) with
      | some (name, rest) =>
          if (inClass? name 'a').isNone then throw .badSet
          let (members, rest) ← readMembers fuel false rest
          return (.named name :: members, rest)
      | none =>
          let byte := fun (c : Char) (rest : List Char) =>
            if c == '\\' && !rest.isEmpty then escapedByte rest else (c, rest)
          let (low, behind) := byte c rest
          match behind with
          | '-' :: next :: rest =>
              if next == ']' then
                let (members, rest) ← readMembers fuel false behind
                return (.range low low :: members, rest)
              else
                let (high, rest) := byte next rest
                let (members, rest) ← readMembers fuel false rest
                if low ≤ high then return (.range low high :: members, rest)
                return (.range low low :: .range '-' '-' :: .range high high :: members, rest)
          | behind =>
              let (members, rest) ← readMembers fuel false behind
              return (.range low low :: members, rest)

/-- The set behind an opening bracket. -/
def readSet (text : List Char) : Except ExpressionDefect (Regex × List Char) := do
  let (isNegated, inside) :=
    match text with
    | '^' :: rest => (true, rest)
    | rest => (false, rest)
  let (members, rest) ← readMembers (inside.length + 1) true inside
  return (.set { isNegated, members }, rest)

/-! ### Repetitions -/

/-- The bounds behind an opening brace, and the rest; `none` if the brace stands for itself. -/
def interval? (text : List Char) : Option (Nat × Option Nat × List Char) :=
  let number := fun digits : List Char => (String.ofList digits).toNat?
  let least := text.takeWhile Char.isDigit
  match text.drop least.length with
  | '\x7d' :: rest => (number least).map fun least => (least, some least, rest)
  | ',' :: behind =>
      let most := behind.takeWhile Char.isDigit
      match behind.drop most.length with
      | '\x7d' :: rest => some ((number least).getD 0, number most, rest)
      | _ => none
  | _ => none

/-- Adds the repetitions that stand behind a part. -/
def readRepetitions : Nat → Bool → Regex → List Char → Except ExpressionDefect (Regex × List Char)
  | 0, _, part, text => .ok (part, text)
  | fuel + 1, isStart, part, text =>
      match text with
      | '*' :: rest =>
          if isStart then .error .repeatedStart
          else readRepetitions fuel false (.repeated part 0 none) rest
      | '+' :: rest =>
          if isStart then .error .repeatedStart
          else readRepetitions fuel false (.repeated part 1 none) rest
      | '?' :: rest => readRepetitions fuel false (.repeated part 0 (some 1)) rest
      | '\x7b' :: rest =>
          match interval? rest with
          | none => .ok (part, text)
          | some (least, most?, rest) =>
              if most?.any (· < least) then .error .badInterval
              else readRepetitions fuel false (.repeated part least most?) rest
      | text => .ok (part, text)

mutual

/-- Alternatives up to the end, or to a closing parenthesis inside of a group. -/
def readAlternatives : Nat → Bool → List Char → Except ExpressionDefect (Regex × List Char)
  | 0, _, _ => .error .missingOperand
  | fuel + 1, isInside, text => do
      let (first, rest) ← readSequence fuel isInside true text
      match rest with
      | '|' :: rest =>
          let (others, rest) ← readAlternatives fuel isInside rest
          return (.either first others, rest)
      | rest => return (first, rest)

/-- Parts up to the end of an alternative, of which there must be one at its start. -/
def readSequence : Nat → Bool → Bool → List Char → Except ExpressionDefect (Regex × List Char)
  | 0, _, _, _ => .error .missingOperand
  | fuel + 1, isInside, isStart, text => do
      let isOver :=
        match text with
        | [] => true
        | '|' :: _ => true
        | ')' :: _ => isInside
        | _ => false
      if isOver then
        if isStart then throw .missingOperand
        return (.nothing, text)
      let (part, rest) ← readPart fuel isStart text
      let (others, rest) ← readSequence fuel isInside false rest
      return (.both part others, rest)

/-- One part with the repetitions behind it. -/
def readPart : Nat → Bool → List Char → Except ExpressionDefect (Regex × List Char)
  | 0, _, _ => .error .missingOperand
  | fuel + 1, isStart, text =>
      let repeated := fun (part : Regex) (rest : List Char) =>
        readRepetitions (fuel + 1) false part rest
      match text with
      | [] => .error .missingOperand
      | '*' :: _ | '+' :: _ | '?' :: _ => .error .missingOperand
      | '^' :: rest => readRepetitions (fuel + 1) true .textStart rest
      | '$' :: rest => repeated .textEnd rest
      | '.' :: rest => repeated .any rest
      | '[' :: rest => do
          let (set, rest) ← readSet rest
          repeated set rest
      | '(' :: ')' :: rest =>
          if isStart then .error .missingOperand else repeated .nothing rest
      | '(' :: rest => do
          match ← readAlternatives fuel true rest with
          | (body, ')' :: rest) => repeated body rest
          | _ => throw .missingClosing
      | '\\' :: rest =>
          let (c, rest) := escapedByte rest
          repeated (.char c) rest
      | c :: rest => repeated (.char c) rest

end

/-- Reads a regular expression; an empty one fits everywhere. -/
def readExpression (text : String) : Except ExpressionDefect Regex := do
  if text.isEmpty then return .nothing
  return (← readAlternatives (4 * text.length + 8) false text.toList).1

/-! ### Matching -/

/-- How expressions are matched against a text of bytes. -/
def matchingOf (octets : String) : Utility.Matching :=
  { text := octets.toList.toArray, isNarrow := true }

/-- Whether an expression fits somewhere in a text. -/
def isFoundIn (octets : String) (regex : Regex) : Bool :=
  ((matchingOf octets).find? regex 0).isSome

end HingeField.Shell.Records
