import HingeField.Shell.Utility.Desk

/-!
The command that shows the prime factors of numbers. Small ones are found by
division; what is left is taken apart by the way in which a walk among its
remainders runs into a loop.
-/

namespace HingeField.Shell.Utility.Factors

/-- A power of a number up to multiples of another one. -/
def powerModulo (modulus : Nat) : Nat → Nat → Nat → Nat
  | 0, _, _ => 1 % modulus
  | fuel + 1, base, exponent =>
      if exponent = 0 then 1 % modulus
      else
        let half := powerModulo modulus fuel (base * base % modulus) (exponent / 2)
        if exponent % 2 = 1 then half * base % modulus else half

/-- Whether a number passes for a prime before a witness. -/
def passes (number witness : Nat) : Bool :=
  let twos := (List.range number.log2).countP fun place => (number - 1) % Nat.pow 2 (place + 1) = 0
  let odd := (number - 1) / Nat.pow 2 twos
  let start := powerModulo number (number.log2 + 2) (witness % number) odd
  start ≤ 1 || (List.range twos).any fun count =>
    powerModulo number (number.log2 + 2) start (Nat.pow 2 count) = number - 1

/-- Witnesses that tell all primes from other numbers below any bound that matters here. -/
def witnesses : List Nat :=
  [2, 3, 5, 7, 11, 13, 17, 19, 23, 29, 31, 37, 41]

def isPrime (number : Nat) : Bool :=
  2 ≤ number && (witnesses.contains number ||
    (witnesses.all fun witness => number % witness ≠ 0 && passes number witness))

/-- A factor of a number that is no prime, from a walk by squares with an offset. -/
def walk (number offset : Nat) : Nat → Nat → Nat → Option Nat
  | 0, _, _ => none
  | fuel + 1, slow, fast =>
      let step := fun place : Nat => (place * place + offset) % number
      let slow := step slow
      let fast := step (step fast)
      let shared := Nat.gcd (if slow ≤ fast then fast - slow else slow - fast) number
      if shared = number then none
      else if 1 < shared then some shared
      else walk number offset fuel slow fast

/-- The prime factors of a number without small ones. -/
def splitLarge : Nat → Nat → List Nat
  | 0, number => [number]
  | fuel + 1, number =>
      if number ≤ 1 then []
      else if isPrime number then [number]
      else
        match (List.range' 1 20).findSome? fun offset => walk number offset 200000 2 2 with
        | some factor => splitLarge fuel factor ++ splitLarge fuel (number / factor)
        | none => [number]

/-- The factors below a bound, and what is left. -/
def splitSmall : Nat → Nat → Nat → List Nat × Nat
  | 0, _, number => ([], number)
  | fuel + 1, divisor, number =>
      if number < divisor * divisor then ([], number)
      else if number % divisor = 0 then
        let (factors, rest) := splitSmall fuel divisor (number / divisor)
        (divisor :: factors, rest)
      else splitSmall fuel (if divisor = 2 then 3 else divisor + 2) number

/-- How far factors are found by division. -/
def smallSteps : Nat := 5000

/-- The prime factors of a number, in order. -/
def ofNumber (number : Nat) : List Nat :=
  if number ≤ 1 then []
  else
    let (small, rest) := splitSmall smallSteps 2 number
    small ++ (splitLarge 64 rest).mergeSort fun first second => first ≤ second

/-- Factors with those that repeat as powers. -/
def powers (factors : List Nat) : List String :=
  (factors.splitBy fun first second => first == second).map fun group =>
    let base := toString (group.headD 0)
    if group.length = 1 then base else base ++ "^" ++ toString group.length

end Factors

/-- The line that shows the factors of a number. -/
def factorLine? (asPowers : Bool) (word : String) : Option String := do
  let text := ((word.dropWhile (· == ' ')).dropWhile (· == '+')).toString
  let number ← if text.all Char.isDigit then text.toNat? else none
  let factors := Factors.ofNumber number
  let shown := if asPowers then Factors.powers factors else factors.map (toString ·)
  return String.join ((toString number ++ ":") :: shown.map (" " ++ ·)) ++ "\n"

/-- How many bytes are written at once. -/
def factorRoom : Nat := 512

/-- Shows the factors of numbers; complaints do not wait for what is held for the output. -/
def showFactorsOf (options : Options) (held : String) : List String → Work Unit
  | [] => put held
  | word :: rest =>
      match factorLine? (options.has 'h') word with
      | none => do
          warn 1 (inCurlyQuotes word ++ " is not a valid positive integer")
          showFactorsOf options held rest
      | some next =>
          let whole := held ++ next
          if factorRoom ≤ whole.length then do
            let first := (whole.take factorRoom).toString
            let kept := (first.toList.reverse.takeWhile (· != '\n')).length
            put (first.dropEnd kept).toString
            flush
            showFactorsOf options (whole.drop (factorRoom - kept)).toString rest
          else showFactorsOf options whole rest

def showFactors (operands : List String) : Work Unit :=
  withOptions "h" [("exponents", 'h')] 1 operands fun options => do
    if options.operands.isEmpty then
      match ← readOperand "-" with
      | .error fault => warn 1 ("error reading input: " ++ faultText fault)
      | .ok octets =>
          let words := octets.splitToList fun c => isSpace c || c == '\x00'
          showFactorsOf options "" (words.filter fun word => !word.isEmpty)
    else showFactorsOf options "" options.operands

end HingeField.Shell.Utility
