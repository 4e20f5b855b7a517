/-!
Integers of scripts: how they are read, and the range of 64 bits they stay in.
-/

namespace HingeField.Shell

def isSpace (c : Char) : Bool :=
  c == ' ' || ('\x09' ≤ c && c ≤ '\x0d')

def maximalInteger : Int := 0x7fffffffffffffff

def minimalInteger : Int := -0x8000000000000000

/-- The integer of 64 bits that is the same up to multiples of their number of values. -/
def wrapped (value : Int) : Int :=
  value.bmod 0x10000000000000000

def digitOf? (base : Nat) (c : Char) : Option Nat :=
  let digit :=
    if c.isDigit then some (c.toNat - '0'.toNat)
    else if c.isAlpha then some (c.toLower.toNat - 'a'.toNat + 10)
    else none
  digit.filter (· < base)

/-- The number that the digits at the start of a text write, if there are any, and the rest. -/
def readDigits (base : Nat) (text : List Char) : Option (Nat × List Char) :=
  let digits := text.takeWhile fun c => (digitOf? base c).isSome
  if digits.isEmpty then none
  else
    let value := digits.foldl (fun value c => value * base + (digitOf? base c).getD 0) 0
    some (value, text.drop digits.length)

/-- A number in the base that its first digits tell: sixteen, eight or ten. -/
def readAnyBase (text : List Char) : Option (Nat × List Char) :=
  match text with
  | '0' :: x :: rest =>
      if x == 'x' || x == 'X' then
        match readDigits 16 rest with
        | some read => some read
        | none => some (0, x :: rest)
      else readDigits 8 text
  | text => readDigits 10 text

/-- What stands where an integer was looked for. -/
structure IntegerReading where
  value : Int
  rest : List Char
  isNumber : Bool
  isInRange : Bool

/-- The integer at the start of a text, behind blanks and a sign; one out of range is cut to it. -/
def readInteger (digits : List Char → Option (Nat × List Char)) (text : List Char) :
    IntegerReading :=
  let start := text.dropWhile isSpace
  let (isNegative, unsigned) :=
    match start with
    | '-' :: rest => (true, rest)
    | '+' :: rest => (false, rest)
    | rest => (false, rest)
  match digits unsigned with
  | none => { value := 0, rest := text, isNumber := false, isInRange := true }
  | some (size, rest) =>
      let value : Int := if isNegative then -size else size
      let cut := max minimalInteger (min maximalInteger value)
      { value := cut, rest, isNumber := true, isInRange := cut == value }

/-- The integer that a whole text writes; blanks may follow it. -/
def integer? (digits : List Char → Option (Nat × List Char)) (text : String) : Option Int :=
  let read := readInteger digits text.toList
  if read.isNumber && read.isInRange && read.rest.all isSpace then some read.value else none

def decimal? (text : String) : Option Int :=
  integer? (readDigits 10) text

/-- The integer of an expression: in any base, and zero for a blank text. -/
def operand? (text : String) : Option Int :=
  if text.toList.all isSpace then some 0 else integer? readAnyBase text

end HingeField.Shell
