import HingeField.Shell.Condition

/-!
Conditions as the program for them reads them. How many operands there are
settles what up to four of them mean; more are read as terms between "or" and
"and", and an operand that is left is refused.
-/

namespace HingeField.Shell

/-- The operands of a condition and the place reached among them. -/
abbrev Reasoning := StateT Nat (ReaderT (Machine × List String) (Except String))

namespace Reasoning

def operands : Reasoning (List String) := do
  return (← read).2

/-- The operand at a distance from the place reached. -/
def ahead? (distance : Nat) : Reasoning (Option String) := do
  let place ← get
  return (← operands)[place + distance]?

def ahead (distance : Nat) : Reasoning String := do
  return (← ahead? distance).getD ""

/-- Complains that the operands end too early. -/
def refuseEnd {α : Type} : Reasoning α := do
  throw ("missing argument after " ++ inCurlyQuotes ((← operands).getLastD ""))

def step : Reasoning Unit :=
  modify (· + 1)

/-- Goes to the next operand, which must be there. -/
def stepInside : Reasoning Unit := do
  step
  if (← ahead? 0).isNone then refuseEnd

/-- Whether an operand compares those beside it. -/
def isComparing (text : String) : Bool :=
  text == "==" || (Operator.of? text).any Operator.isBinary

/-- Whether an operand is a hyphen and one letter. -/
def isFlag (text : String) : Bool :=
  text.length == 2 && text.startsWith "-"

def integerOf (text : String) : Reasoning Unit := do
  if (decimal? text).isNone then throw ("invalid integer " ++ inCurlyQuotes text)

/-- Carries a judgement of other operands out. Only an operand that is no integer can fail it. -/
def ofJudging {α : Type} (judging : Judging α) : Reasoning α := do
  match (judging.run' 0).run (← read) with
  | .ok value => return value
  | .error (.notAnInteger text) => throw ("invalid integer " ++ inCurlyQuotes text)
  | .error _ => refuseEnd

def oneOperand : Reasoning Bool := do
  let text ← ahead 0
  step
  return !text.isEmpty

def unaryOperator : Reasoning Bool := do
  let sign ← ahead 0
  match (Operator.of? sign).filter Operator.isUnary with
  | some operator =>
      stepInside
      let operand ← ahead 0
      step
      ofJudging (Judging.judgeUnary operator operand)
  | none => throw (inCurlyQuotes sign ++ ": unary operator expected")

def binaryOperator : Reasoning Bool := do
  let left ← ahead 0
  let sign ← ahead 1
  let right ← ahead 2
  modify (· + 3)
  match Operator.of? (if sign == "==" then "=" else sign) with
  | some (.compareFiles sign) =>
      match sign, ← ofJudging (Judging.comparedFiles left right) with
      | "-nt", (some _, none) => return true
      | "-ot", (none, some _) => return true
      | _, _ => ofJudging (Judging.judgeBinary (.compareFiles sign) left right)
  | some operator => ofJudging (Judging.judgeBinary operator left right)
  | none => return false

def twoOperands : Reasoning Bool := do
  let first ← ahead 0
  if first == "!" then
    step
    return !(← oneOperand)
  else if isFlag first then unaryOperator
  else refuseEnd

mutual

/-- What so many operands from the place reached mean. -/
def counted : Nat → Nat → Reasoning Bool
  | 0, _ => return false
  | fuel + 1, count => do
      let first ← ahead 0
      let last ← ahead (count - 1)
      match count with
      | 1 => oneOperand
      | 2 => twoOperands
      | 3 => threeOperands fuel
      | 4 =>
          if first == "!" then
            stepInside
            return !(← threeOperands fuel)
          else if first == "(" && last == ")" then
            step
            let holds ← twoOperands
            step
            return holds
          else alternatives fuel
      | _ => alternatives fuel

def threeOperands : Nat → Reasoning Bool
  | 0 => return false
  | fuel + 1 => do
      let first ← ahead 0
      let second ← ahead 1
      if isComparing second then binaryOperator
      else if first == "!" then
        stepInside
        return !(← twoOperands)
      else if first == "(" && (← ahead 2) == ")" then
        step
        let holds ← oneOperand
        step
        return holds
      else if second == "-a" || second == "-o" then alternatives fuel
      else throw (inCurlyQuotes second ++ ": binary operator expected")

def alternatives : Nat → Reasoning Bool
  | 0 => return false
  | fuel + 1 => do
      if (← ahead? 0).isNone then refuseEnd
      let first ← conjunctions fuel
      if (← ahead? 0) == some "-o" then
        step
        let others ← alternatives fuel
        return first || others
      else return first

def conjunctions : Nat → Reasoning Bool
  | 0 => return false
  | fuel + 1 => do
      let first ← term fuel
      if (← ahead? 0) == some "-a" then
        step
        let others ← conjunctions fuel
        return first && others
      else return first

def term : Nat → Reasoning Bool
  | 0 => return false
  | fuel + 1 => do
      match ← ahead? 0 with
      | none => refuseEnd
      | some "!" =>
          stepInside
          return !(← term fuel)
      | some "(" =>
          stepInside
          let place ← get
          let rest := (← operands).drop place
          let inside := 1 + ((rest.drop 1).takeWhile (· != ")")).length
          let holds ← counted fuel (if 4 < inside then rest.length else inside)
          match ← ahead? 0 with
          | none => throw (inCurlyQuotes ")" ++ " expected")
          | some ")" =>
              step
              return holds
          | some text =>
              throw (inCurlyQuotes ")" ++ " expected, found " ++ inCurlyQuotes text)
      | some first =>
          if (← ahead? 2).isSome && isComparing (← ahead 1) then binaryOperator
          else if isFlag first then unaryOperator
          else oneOperand

end

end Reasoning

/-- Whether a condition holds, as the program for conditions tells it; otherwise what it says. -/
def verdict (isBracketed : Bool) (machine : Machine) (given : List String) :
    Except String Bool := do
  if isBracketed && given.getLast? != some "]" then throw ("missing " ++ inCurlyQuotes "]")
  let operands := if isBracketed then given.dropLast else given
  if operands.isEmpty then return false
  let reading : Reasoning Bool := do
    let holds ← Reasoning.counted (8 * operands.length + 8) operands.length
    match ← Reasoning.ahead? 0 with
    | some text => throw ("extra argument " ++ inCurlyQuotes text)
    | none => return holds
  (reading.run' 0).run (machine, operands)

end HingeField.Shell
