import HingeField.Shell.Host.Status
import HingeField.Shell.Integer

/-!
Conditions on texts, integers and files. An operand that looks like an operator
is taken for a text where no operator can stand.
-/

namespace HingeField.Shell

inductive Operator where
  | onFile (letter : Char)
  | isEmpty
  | isFilled
  | isTerminal
  | compareTexts (sign : String)
  | compareIntegers (sign : String)
  | compareFiles (sign : String)
  | negation
  | both
  | either
  | opening
  | closing
deriving DecidableEq

namespace Operator

def of? (text : String) : Option Operator :=
  match text with
  | "-z" => some .isEmpty
  | "-n" => some .isFilled
  | "-t" => some .isTerminal
  | "=" | "!=" | "<" | ">" => some (.compareTexts text)
  | "-eq" | "-ne" | "-gt" | "-ge" | "-lt" | "-le" => some (.compareIntegers text)
  | "-nt" | "-ot" | "-ef" => some (.compareFiles text)
  | "!" => some .negation
  | "-a" => some .both
  | "-o" => some .either
  | "(" => some .opening
  | ")" => some .closing
  | text =>
      match text.toList with
      | ['-', letter] =>
          if "rwxefdcbpugksLhOGS".toList.contains letter then some (.onFile letter) else none
      | _ => none

/-- Whether an operator stands between two operands. -/
def isBinary : Operator → Bool
  | .compareTexts _ => true
  | .compareIntegers _ => true
  | .compareFiles _ => true
  | _ => false

/-- Whether an operator stands in front of one operand. -/
def isUnary : Operator → Bool
  | .onFile _ => true
  | .isEmpty => true
  | .isFilled => true
  | .isTerminal => true
  | _ => false

end Operator

/-- Why a condition makes no sense. -/
inductive ConditionDefect where
  | notAnInteger (text : String)
  | noOperandFor (operator : String)
  | unexpected (text : String)
  | notClosed
  | noBracket

/-- A condition that is read: the operands, and the place reached. -/
abbrev Judging := StateT Nat (ReaderT (Machine × List String) (Except ConditionDefect))

namespace Judging

def operandAt? (place : Nat) : Judging (Option String) := do
  let operands := (← read).2
  return operands[place]?

/-- The operator that the operand at a place is, where it stands. -/
def operatorAt? (place : Nat) : Judging (Option Operator) := do
  let operands := (← read).2
  match operands[place]?.bind Operator.of? with
  | none => return none
  | some operator =>
      let next := operands[place + 1]?
      let isLast := next.isNone
      let isAmongTwo :=
        isLast ||
          (operands[place + 2]?.isSome && (next.bind Operator.of?).any Operator.isBinary)
      if operator.isUnary && isAmongTwo then return none
      else if operator == .opening && isLast then return none
      else return some operator

def integerOf (text : String) : Judging Int :=
  match decimal? text with
  | some value => return value
  | none => throw (.notAnInteger text)

/-- Whether what is known of a file is what a letter asks for. Nothing is forbidden but to execute
what nobody may execute. -/
def fitsLetter (letter : Char) (status : FileStatus) : Bool :=
  let hasBit := fun bit : Nat => status.node.mode &&& bit != 0
  match letter with
  | 'x' => status.kind == .directory || status.node.isExecutable
  | 's' => status.node.size != 0
  | 'f' => status.kind == .regular
  | 'd' => status.kind == .directory
  | 'L' | 'h' => status.kind == .link
  | 'p' => status.kind == .fifo
  | 'c' => status.kind == .device
  | 'b' | 'S' => false
  | 'u' => hasBit 0o4000
  | 'g' => hasBit 0o2000
  | 'k' => hasBit 0o1000
  | 'O' => status.node.owner == 0
  | 'G' => status.node.group == 0
  | _ => true

/-- Whether a file is what a letter asks for. -/
def judgeFile (letter : Char) (name : String) : Judging Bool := do
  let machine := (← read).1
  match machine.status (letter != 'L' && letter != 'h') name with
  | .error _ => return false
  | .ok status => return fitsLetter letter status

/-- The files that are compared, as far as they are there. -/
def comparedFiles (left right : String) : Judging (Option FileStatus × Option FileStatus) := do
  let machine := (← read).1
  return (machine.status? left, machine.status? right)

def judgeUnary (operator : Operator) (operand : String) : Judging Bool := do
  match operator with
  | .isEmpty => return operand.isEmpty
  | .isFilled => return !operand.isEmpty
  | .isTerminal =>
      let _ ← integerOf operand
      return false
  | .onFile letter => judgeFile letter operand
  | _ => return false

def judgeBinary (operator : Operator) (left right : String) : Judging Bool := do
  match operator with
  | .compareTexts "=" => return left == right
  | .compareTexts "!=" => return left != right
  | .compareTexts "<" => return left < right
  | .compareTexts _ => return right < left
  | .compareIntegers sign =>
      let first ← integerOf left
      let second ← integerOf right
      match sign with
      | "-eq" => return first == second
      | "-ne" => return first != second
      | "-gt" => return second < first
      | "-ge" => return second ≤ first
      | "-lt" => return first < second
      | _ => return first ≤ second
  | .compareFiles sign =>
      match ← comparedFiles left right with
      | (some first, some second) =>
          match sign with
          | "-ef" => return first.number == second.number
          | "-nt" => return second.node.modified < first.node.modified
          | _ => return first.node.modified < second.node.modified
      | _ => return false
  | _ => return false

mutual

/-- Alternatives of which one must hold. All of them are read. -/
def judgeEither : Nat → Judging Bool
  | 0 => return false
  | fuel + 1 => do
      let first ← judgeBoth fuel
      let place ← get
      if (← operatorAt? (place + 1)) == some .either then
        set (place + 2)
        return (← judgeEither fuel) || first
      else return first

def judgeBoth : Nat → Judging Bool
  | 0 => return false
  | fuel + 1 => do
      let first ← judgeNegation fuel
      let place ← get
      if (← operatorAt? (place + 1)) == some .both then
        set (place + 2)
        return (← judgeBoth fuel) && first
      else return first

def judgeNegation : Nat → Judging Bool
  | 0 => return false
  | fuel + 1 => do
      let place ← get
      if (← operatorAt? place) == some .negation then
        if (← operandAt? (place + 1)).isSome then
          set (place + 1)
          return !(← judgeNegation fuel)
        else return true
      else judgePrimary fuel

def judgePrimary : Nat → Judging Bool
  | 0 => return false
  | fuel + 1 => do
      let place ← get
      match ← operandAt? place, ← operatorAt? place with
      | none, _ => return false
      | some _, some .opening =>
          set (place + 1)
          if (← operatorAt? (place + 1)) == some .closing then return false
          let holds ← judgeEither fuel
          modify (· + 1)
          unless (← operatorAt? (← get)) == some .closing do throw .notClosed
          return holds
      | some text, operator? =>
          match operator?.filter Operator.isUnary with
          | some operator =>
              set (place + 1)
              match ← operandAt? (place + 1) with
              | some operand => judgeUnary operator operand
              | none => throw (.noOperandFor text)
          | none =>
              match (← operatorAt? (place + 1)).filter Operator.isBinary with
              | some operator => judgeComparison place operator
              | none => return !text.isEmpty

/-- A comparison whose first operand stands at a place. -/
def judgeComparison (place : Nat) (operator : Operator) : Judging Bool := do
  set (place + 2)
  let left := (← operandAt? place).getD ""
  match ← operandAt? (place + 2) with
  | some right => judgeBinary operator left right
  | none => throw (.noOperandFor ((← operandAt? (place + 1)).getD ""))

end

/-- Reads a condition. Behind it, no operand may be left. -/
def judgeWhole (isComparison : Bool) : Judging Bool := do
  let operands := (← read).2
  let holds ←
    match operands[1]?.bind Operator.of? with
    | some operator =>
        if isComparison then judgeComparison 0 operator
        else judgeEither (4 * operands.length + 8)
    | none => judgeEither (4 * operands.length + 8)
  let place ← get
  match ← operandAt? place, ← operandAt? (place + 1) with
  | some text, some _ => throw (.unexpected text)
  | _, _ => return holds

end Judging

/-- Whether a condition holds; otherwise why it makes no sense. Of three operands the one in the
middle is preferred as the operator; outer parentheses and an exclamation mark around up to three
operands are taken off first. -/
def judge (machine : Machine) : List String → Except ConditionDefect Bool
  | [] => return false
  | first :: rest =>
      let operands := first :: rest
      let run := fun (isComparison : Bool) (operands : List String) =>
        ((Judging.judgeWhole isComparison).run' 0).run (machine, operands)
      let isShort := operands.length == 3 || operands.length == 4
      let isComparison :=
        operands.length == 3 && (rest.head?.bind Operator.of?).any Operator.isBinary
      if isComparison then run true operands
      else if isShort && first == "(" && rest.getLast? == some ")" then run false rest.dropLast
      else if isShort && first == "!" then do return !(← judgeBehindMark machine rest)
      else run false operands
where
  /-- A condition behind an exclamation mark; a further one in front of three operands changes
  nothing. -/
  judgeBehindMark (machine : Machine) (operands : List String) : Except ConditionDefect Bool :=
    let run := fun (isComparison : Bool) (operands : List String) =>
      ((Judging.judgeWhole isComparison).run' 0).run (machine, operands)
    if operands.length == 3 then
      if (operands[1]?.bind Operator.of?).any Operator.isBinary then run true operands
      else if operands.head? == some "(" && operands.getLast? == some ")" then
        run false (operands.drop 1).dropLast
      else if operands.head? == some "!" then run false (operands.drop 1)
      else run false operands
    else run false operands

/-- The operands of a condition in brackets. -/
def bracketed (operands : List String) : Except ConditionDefect (List String) :=
  if operands.getLast? = some "]" then .ok operands.dropLast else .error .noBracket

end HingeField.Shell
