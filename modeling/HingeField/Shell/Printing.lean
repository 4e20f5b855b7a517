import HingeField.Shell.Conversion
import HingeField.Shell.Escape
import HingeField.Shell.Session

/-!
The commands that print their operands: as a line in which escapes are read, or
by a format, which is used again until no operand is left.
-/

namespace HingeField.Shell

/-- Writes to the output; the status tells whether that was possible. -/
def say (octets : String) : Act Nat := do
  if ← emit 1 octets then return 0
  let name := ((← get).commandName).getD ""
  complain (name ++ ": I/O error")
  return 1

/-- Whether an operand consists of letters that say how a line is printed. -/
def isEchoOption (operand : String) : Bool :=
  match operand.toList with
  | '-' :: letter :: letters => (letter :: letters).all fun c => "neE".toList.contains c
  | _ => false

/-- Prints a line of operands; first operands may ask for no line end. -/
def echo (operands : List String) : Act Nat := do
  if (← get).isWordy then
    let options := operands.takeWhile isEchoOption
    let letters := options.flatMap fun option => option.toList.drop 1
    let text := String.intercalate " " (operands.drop options.length)
    let lineEnd := if letters.contains 'n' then "" else "\n"
    if (letters.filter (· != 'n')).getLast? == some 'e' then
      let (text, ends) := unescaped text
      return ← say (if ends then text else text ++ lineEnd)
    return ← say (text ++ lineEnd)
  let (texts, lineEnd) :=
    match operands with
    | "-n" :: rest => (rest, "")
    | operands => (operands, "\n")
  let (text, ends) := unescaped (String.intercalate " " texts)
  say (if ends then text else text ++ lineEnd)

/-- A format in use: what has been printed, what is left of the operands, the status so far, and
whether an escape has ended the output. -/
structure Printing where
  printed : String := ""
  operands : List String
  status : Nat := 0
  hasEnded : Bool := false

abbrev Print := StateT Printing Act

namespace Print

def put (text : String) : Print Unit :=
  modify fun printing => { printing with printed := printing.printed ++ text }

def warn (text : String) : Print Unit := do
  (complain text : Act Unit)
  modify fun printing => { printing with status := 1 }

def nextOperand : Print (Option String) := do
  let operand := (← get).operands.head?
  modify fun printing => { printing with operands := printing.operands.drop 1 }
  return operand

/-- Warns unless a number takes up its whole operand. -/
def checkNumber (operand : String) (isNumber isInRange : Bool) (rest : List Char) : Print Unit := do
  let isProgram := (← (get : Act Session)).program?.isSome
  let shown := if isProgram then inCurlyQuotes operand else operand
  if !rest.isEmpty then
    let text :=
      match isNumber, isProgram with
      | true, false => "not completely converted"
      | true, true => "value not completely converted"
      | false, false => "expected numeric value"
      | false, true => "expected a numeric value"
    warn (shown ++ ": " ++ text)
  else if !isInRange then warn (shown ++ ": Numerical result out of range")

/-- Ends with a message in front of what has been printed. -/
def refuse (shellText programText : String) : Print Unit := do
  let printed := (← get).printed
  let session ← (get : Act Session)
  (do
    complain (if session.program?.isSome then programText else shellText)
    let _ ← emit 1 printed
    setStatus 2
    throw .failure : Act Unit)

/-- The number of the character behind a quotation mark that an operand starts with. -/
def characterNumber? (operand : String) : Option Nat :=
  match operand.toList with
  | '\x27' :: rest | '\x22' :: rest => some ((rest.head?.map Char.toNat).getD 0)
  | _ => none

def nextInteger : Print Int := do
  match ← nextOperand with
  | none => return 0
  | some operand =>
      match characterNumber? operand with
      | some number => return number
      | none =>
          let read := readInteger readAnyBase operand.toList
          checkNumber operand read.isNumber read.isInRange read.rest
          return read.value

/-- The number without a sign that an operand stands for, up to multiples of 2 ^ 64. -/
def nextUnsigned : Print Nat := do
  match ← nextOperand with
  | none => return 0
  | some operand =>
      match characterNumber? operand with
      | some number => return number
      | none =>
          let start := operand.toList.dropWhile isSpace
          let (isNegative, digits) :=
            match start with
            | '-' :: rest => (true, rest)
            | '+' :: rest => (false, rest)
            | rest => (false, rest)
          match readAnyBase digits with
          | none =>
              checkNumber operand false true operand.toList
              return 0
          | some (size, rest) =>
              checkNumber operand true (size < 0x10000000000000000) rest
              if 0x10000000000000000 ≤ size then return 0xffffffffffffffff
              else if isNegative then
                return (0x10000000000000000 - size) % 0x10000000000000000
              else return size

/-- The precision of reals: programs keep more digits than scripts. -/
def realPrecision : Print RealPrecision := do
  return if (← (get : Act Session)).program?.isSome then .extended else .double

def nextReal : Print Real := do
  let precision ← realPrecision
  let whole := fun number : Nat =>
    (precision.round { isNegative := false, numerator := number, denominator := 1 }).1
  match ← nextOperand with
  | none => return whole 0
  | some operand =>
      match characterNumber? operand with
      | some number => return whole number
      | none =>
          match readReal? precision operand.toList with
          | some { value, isInRange, rest } =>
              checkNumber operand true isInRange rest
              return value
          | none =>
              checkNumber operand false true operand.toList
              return whole 0

/-- The count that stands in a format, or is taken from the operands. -/
def readCount (text : List Char) : Print (Option Int × List Char) := do
  match text with
  | '*' :: rest => return (some (← nextInteger), rest)
  | text =>
      let digits := text.takeWhile Char.isDigit
      return ((String.ofList digits).toNat?.map Int.ofNat, text.drop digits.length)

/-- The conversion behind a percent sign, up to its letter. -/
def readConversion (text : List Char) : Print (Conversion × List Char) := do
  let flags := text.takeWhile fun c => "#-+ 0".toList.contains c
  let (width?, rest) ← readCount (text.drop flags.length)
  let width := width?.getD 0
  let flags := if width < 0 then '-' :: flags else flags
  let conversion : Conversion := { flags, width := width.natAbs }
  match rest with
  | '.' :: rest =>
      let (precision?, rest) ← readCount rest
      let precision := precision?.getD 0
      let precision := if precision < 0 then none else some precision.toNat
      return ({ conversion with precision }, rest)
  | rest => return (conversion, rest)

/-- Prints what a conversion makes of the next operand. -/
def convert (start : List Char) (conversion : Conversion) (letter : Char) : Print Unit := do
  match letter with
  | 's' => put (conversion.text ((← nextOperand).getD ""))
  | 'c' =>
      let c := (((← nextOperand).getD "").toList.head?).getD '\x00'
      put (conversion.place false "" (String.singleton c))
  | 'b' =>
      let (text, ends) := unescaped ((← nextOperand).getD "")
      put (conversion.text text)
      if ends then modify fun printing => { printing with hasEnded := true }
  | 'd' | 'i' => put (conversion.integer (← nextInteger))
  | 'o' | 'u' | 'x' | 'X' => put (conversion.unsigned letter (← nextUnsigned))
  | 'a' | 'e' | 'f' | 'g' | 'A' | 'E' | 'F' | 'G' =>
      put (conversion.real (← realPrecision) letter (← nextReal))
  | _ =>
      let start := String.ofList start
      refuse (start ++ ": invalid directive") (start ++ ": invalid conversion specification")

/-- Uses a format once. -/
def useFormat : Nat → List Char → Print Unit
  | 0, _ => return
  | _ + 1, [] => return
  | fuel + 1, '\\' :: rest => do
      let (c, rest) := readEscape rest
      put (String.singleton c)
      useFormat fuel rest
  | fuel + 1, '%' :: '%' :: rest => do
      put "%"
      useFormat fuel rest
  | fuel + 1, '%' :: rest => do
      let (conversion, behind) ← readConversion rest
      match behind with
      | [] =>
          let text := String.ofList ('%' :: rest)
          refuse "missing format character" (text ++ ": invalid conversion specification")
      | letter :: later =>
          let start := '%' :: rest.take (rest.length - later.length)
          convert start conversion letter
          unless (← get).hasEnded do useFormat fuel later
  | fuel + 1, c :: rest => do
      put (String.singleton c)
      useFormat fuel rest

/-- Uses a format again while operands are left and each use takes some. -/
def useAgain (format : List Char) : Nat → Print Unit
  | 0 => return
  | fuel + 1 => do
      let before := (← get).operands.length
      useFormat (format.length + 1) format
      let printing ← get
      unless printing.hasEnded || printing.operands.isEmpty || printing.operands.length == before do
        useAgain format fuel

end Print

/-- Prints operands by a format. -/
def printFormat (operands : List String) : Act Nat := do
  let operands :=
    match operands with
    | "--" :: rest => rest
    | operands => operands
  match operands with
  | [] => fail "usage: printf format [arg ...]"
  | format :: operands =>
      let (_, printing) ← (Print.useAgain format.toList (operands.length + 1)).run { operands }
      return max printing.status (← say printing.printed)

end HingeField.Shell
