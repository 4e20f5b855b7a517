import HingeField.Text.Lines

/-!
Integer numerals: blanks around, at most one sign, decimal digits of any
script, and single underscores between digits. A numeral may not have more
than `maximalDigits` digits.

The scan reports the first defect only: a misplaced underscore, then the digit
count, then whatever follows the digits.

A script's ten digits are consecutive code points, so the table of digits
names the zero of each.
-/

namespace HingeField.Text

/-- The code points of the zeros of Unicode 14, in ascending order. -/
def digitZeros : Array Nat := #[
    0x30, 0x660, 0x6f0, 0x7c0, 0x966, 0x9e6, 0xa66, 0xae6, 0xb66, 0xbe6,
    0xc66, 0xce6, 0xd66, 0xde6, 0xe50, 0xed0, 0xf20, 0x1040, 0x1090, 0x17e0,
    0x1810, 0x1946, 0x19d0, 0x1a80, 0x1a90, 0x1b50, 0x1bb0, 0x1c40, 0x1c50, 0xa620,
    0xa8d0, 0xa900, 0xa9d0, 0xa9f0, 0xaa50, 0xabf0, 0xff10, 0x104a0, 0x10d30, 0x11066,
    0x110f0, 0x11136, 0x111d0, 0x112f0, 0x11450, 0x114d0, 0x11650, 0x116c0, 0x11730, 0x118e0,
    0x11950, 0x11c50, 0x11d50, 0x11da0, 0x16a60, 0x16ac0, 0x16b50, 0x1d7ce, 0x1d7d8, 0x1d7e2,
    0x1d7ec, 0x1d7f6, 0x1e140, 0x1e2f0, 0x1e950, 0x1fbf0]

/-- The value of a decimal digit of any script. -/
def digitValue? (c : Char) : Option Nat :=
  (digitZeros.find? fun start => start ≤ c.toNat && c.toNat < start + 10).map fun start =>
    c.toNat - start

end HingeField.Text

namespace HingeField.Decimal

/-- The longest digit run that is converted; leading zeros count. -/
def maximalDigits : Nat := 4300

/-- Why a text is not a numeral. -/
inductive NumeralDefect where
  | malformed
  | tooManyDigits (count : Nat)
deriving DecidableEq

/-- The blanks that may stand around a numeral: all but the information separators. -/
def isNumeralBlank (c : Char) : Bool :=
  Text.isBlank c && !(28 ≤ c.toNat && c.toNat ≤ 31)

/-- The digits of a run with single underscores between them, and the rest. A misplaced underscore
leaves no digits. -/
def digitRun (text : List Char) : Option (List Nat × List Char) :=
  let run := text.takeWhile fun c => (Text.digitValue? c).isSome || c == '_'
  let groups := Text.pieces (· == '_') run
  if run.isEmpty || groups.any List.isEmpty then none
  else some (run.filterMap Text.digitValue?, text.drop run.length)

def natOfDigits (digits : List Nat) : Nat :=
  digits.foldl (fun total digit => 10 * total + digit) 0

/-- Splits off a sign; `true` means minus. -/
def splitSign : List Char → Bool × List Char
  | '-' :: rest => (true, rest)
  | '+' :: rest => (false, rest)
  | text => (false, text)

/-- The integer that a text denotes. -/
def integer (text : List Char) : Except NumeralDefect Int :=
  let (negative, body) := splitSign (text.dropWhile isNumeralBlank)
  match digitRun body with
  | none => .error .malformed
  | some (digits, rest) =>
      if maximalDigits < digits.length then .error (.tooManyDigits digits.length)
      else if rest.all isNumeralBlank then
        .ok (if negative then -(natOfDigits digits : Int) else natOfDigits digits)
      else .error .malformed

end HingeField.Decimal
