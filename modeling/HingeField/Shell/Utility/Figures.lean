import HingeField.Shell.Conversion
import HingeField.Shell.Utility.Desk
import HingeField.Shell.Utility.Expression

/-!
The commands that compute with their operands: sequences of numbers,
expressions, and the parts of paths.
-/

namespace HingeField.Shell.Utility

/-! ### Sequences -/

/-- A decimal: so many units, with a number of places behind the point. -/
structure Fixed where
  units : Int
  places : Nat

def readFixed? (text : String) : Option Fixed := do
  let start := text.toList.dropWhile isSpace
  let (isNegative, start) :=
    match start with
    | '-' :: rest => (true, rest)
    | '+' :: rest => (false, rest)
    | rest => (false, rest)
  let whole := start.takeWhile Char.isDigit
  let rest := start.drop whole.length
  let (fraction, rest) :=
    match rest with
    | '.' :: behind =>
        let fraction := behind.takeWhile Char.isDigit
        (fraction, behind.drop fraction.length)
    | rest => ([], rest)
  guard (!whole.isEmpty || !fraction.isEmpty)
  let size ← (String.ofList (whole ++ fraction)).toNat?
  let signed : Int := if isNegative then -size else size
  match rest with
  | [] => return { units := signed, places := fraction.length }
  | e :: exponent =>
      guard (e == 'e' || e == 'E')
      let exponent ← decimal? (String.ofList exponent)
      guard (exponent.natAbs < 400)
      let places : Int := fraction.length - exponent
      if 0 ≤ places then return { units := signed, places := places.toNat }
      else return { units := signed * Nat.pow 10 places.natAbs, places := 0 }

/-- A decimal in units of so many places. -/
def Fixed.unitsAt (value : Fixed) (places : Nat) : Int :=
  value.units * Nat.pow 10 (places - value.places)

def fixedUnitsText (places : Nat) (units : Int) : String :=
  let text := fixedText false places
    { isNegative := false, numerator := units.natAbs, denominator := Nat.pow 10 places }
  if units < 0 then "-" ++ text else text

/-- The values of a sequence, as units. -/
def sequenceUnits (first step last : Int) : List Int :=
  if step = 0 then []
  else
    let count := if 0 < step then (last - first) / step + 1 else (first - last) / (-step) + 1
    if 0 < step && last < first then [] else if step < 0 && first < last then []
    else (List.range count.toNat).map fun place : Nat => first + step * place

/-- The text of a value under a format with one directive for reals. -/
def formattedUnits (format : List Char) (places : Nat) (units : Int) : Option String :=
  let before := plainPart (format.length + 1) format
  match format.drop before.2 with
  | '%' :: rest =>
      let flags := rest.takeWhile fun c => "-+ 0#'".toList.contains c
      let rest := rest.drop flags.length
      let width := rest.takeWhile Char.isDigit
      let rest := rest.drop width.length
      let (precision, rest) : Option Nat × List Char :=
        match rest with
        | '.' :: rest =>
            let digits := rest.takeWhile Char.isDigit
            (some ((String.ofList digits).toNat?.getD 0), rest.drop digits.length)
        | rest => (none, rest)
      match rest with
      | letter :: behind =>
          if "efgEFG".toList.contains letter then
            let conversion : Conversion :=
              { flags, width := (String.ofList width).toNat?.getD 0, precision }
            let value : Quotient :=
              { isNegative := units < 0
                numerator := units.natAbs
                denominator := Nat.pow 10 places }
            let body := conversion.magnitude letter.toLower value
            let after := plainPart (behind.length + 1) behind
            let sign := conversion.sign value.isNegative
            some (before.1 ++ conversion.place true sign body ++ after.1)
          else none
      | [] => none
  | _ => none
where
  /-- The text up to a directive, and how many characters write it. -/
  plainPart : Nat → List Char → String × Nat
    | 0, _ => ("", 0)
    | _ + 1, [] => ("", 0)
    | fuel + 1, '%' :: '%' :: rest =>
        let (text, count) := plainPart fuel rest
        ("%" ++ text, count + 2)
    | _ + 1, '%' :: _ => ("", 0)
    | fuel + 1, c :: rest =>
        let (text, count) := plainPart fuel rest
        (String.singleton c ++ text, count + 1)

/-- What is wrong with a format for numbers. -/
def formatDefect (format : String) : String :=
  let shown := "format " ++ inCurlyQuotes format
  if !format.contains '%' then shown ++ " has no % directive"
  else
    let behind := (format.toList.dropWhile (· != '%')).drop 1
    let letter := (behind.dropWhile fun c => "-+ 0#'.123456789".toList.contains c).head?
    match letter with
    | some c => shown ++ " has unknown %" ++ String.singleton c ++ " directive"
    | none => shown ++ " ends in %"

def isNumberLike (operand : String) : Bool :=
  match operand.toList with
  | '-' :: c :: _ => c.isDigit || c == '.'
  | _ => false

/-- The options in front of the first operand that is no option, where a negative number is none. -/
def splitNumbers (operands : List String) : List String × List String :=
  match operands.findIdx? isNumberLike with
  | some place => (operands.take place, operands.drop place)
  | none => (operands, [])

def countUp (operands : List String) : Work Unit := do
  let (leading, numbers) := splitNumbers operands
  match findOptions "f:s:w".toList [("format", 'f'), ("separator", 's'), ("equal-width", 'w')] true
    leading with
  | .error defect => misuse 1 defect.message
  | .ok options =>
      let texts := options.operands ++ numbers
      match texts.find? fun text => (readFixed? text).isNone, texts.filterMap readFixed?, texts with
      | _, _, [] => misuse 1 "missing operand"
      | _, _, _ :: _ :: _ :: extra :: _ => misuse 1 ("extra operand " ++ inCurlyQuotes extra)
      | some text, _, _ =>
          misuse 1 ("invalid floating point argument: " ++ inCurlyQuotes text)
      | none, values, _ =>
          let one : Fixed := { units := 1, places := 0 }
          let (first, step, last) :=
            match values with
            | [first, step, last] => (first, step, last)
            | [first, last] => (first, one, last)
            | values => (one, one, values.headD one)
          if step.units = 0 then
            misuse 1 ("invalid Zero increment value: " ++ inCurlyQuotes (texts[1]?.getD ""))
          else
            let places := max first.places (max step.places last.places)
            let units :=
              sequenceUnits (first.unitsAt places) (step.unitsAt places) (last.unitsAt places)
            let shownPlaces := max first.places step.places
            let plain := fun unit : Int =>
              fixedUnitsText shownPlaces (unit / Nat.pow 10 (places - shownPlaces))
            let width := ((units.map fun unit => (plain unit).length).max?).getD 0
            let shown := fun unit : Int =>
              match options.argument? 'f' with
              | some format => (formattedUnits format.toList places unit).getD ""
              | none =>
                  let text := plain unit
                  if options.has 'w' then
                    let sign := if unit < 0 then "-" else ""
                    let digits := (text.drop sign.length).toString
                    sign ++ String.ofList (List.replicate (width - text.length) '0') ++ digits
                  else text
            match options.argument? 'f' with
            | some format =>
                if (formattedUnits format.toList places 0).isNone then
                  warn 1 (formatDefect format)
                else write options (units.map shown)
            | none => write options (units.map shown)
where
  write (options : Options) (rows : List String) : Work Unit :=
    unless rows.isEmpty do
      put (String.intercalate ((options.argument? 's').getD "\n") rows ++ "\n")

/-! ### Expressions -/

/-- Why an expression cannot be computed. -/
inductive ExpressionDefect where
  | missing (behind : String)
  | unexpected (operand : String)
  | notInteger
  | zeroDivisor
  | other (text : String)

def ExpressionDefect.message : ExpressionDefect → String
  | .missing behind => "syntax error: missing argument after " ++ inCurlyQuotes behind
  | .unexpected operand => "syntax error: unexpected argument " ++ inCurlyQuotes operand
  | .notInteger => "non-integer argument"
  | .zeroDivisor => "division by zero"
  | .other text => text

structure ExpressionSource where
  operands : List String
  before : String := ""

abbrev ExpressionReading := StateT ExpressionSource (Except ExpressionDefect)

namespace ExpressionReading

def next? : ExpressionReading (Option String) := do
  return (← get).operands.head?

def skip : ExpressionReading Unit :=
  modify fun source =>
    { operands := source.operands.drop 1, before := source.operands.headD source.before }

def takesOneOf (signs : List String) : ExpressionReading (Option String) := do
  match ← next? with
  | some sign =>
      if signs.contains sign then
        skip
        return some sign
      else return none
  | none => return none

def integerValue? (text : String) : Option Int :=
  match text.toList with
  | '-' :: digits =>
      if !digits.isEmpty && digits.all Char.isDigit then
        (String.ofList digits).toNat?.map fun size => -(size : Int)
      else none
  | digits =>
      if !digits.isEmpty && digits.all Char.isDigit then text.toNat?.map Int.ofNat else none

def isNull (text : String) : Bool :=
  text.isEmpty || (integerValue? text == some 0)

/-- What the start of a text that matches an expression gives: its first group, or its length. -/
def matched (text pattern : String) : Except ExpressionDefect String := do
  match Regex.parse false (decode pattern) with
  | .error text => throw (.other text)
  | .ok regex =>
      let chars := (decode text).toList
      let matching : Matching := { text := chars.toArray }
      let hasGroup := (pattern.splitOn "\\(").length ≠ 1
      match matching.matchAt? regex 0 with
      | some (_, way) =>
          if hasGroup then
            match way.groups.lookup 1 with
            | some (start, stop) =>
                return encode (String.ofList ((chars.drop start).take (stop - start)))
            | none => return ""
          else return toString way.place
      | none => return if hasGroup then "" else "0"

def integersOf (left right : String) : ExpressionReading (Int × Int) := do
  match integerValue? left, integerValue? right with
  | some first, some second => return (first, second)
  | _, _ => throw .notInteger

def compared (sign left right : String) : Bool :=
  let found :=
    match integerValue? left, integerValue? right with
    | some first, some second => compare first second
    | _, _ => compare left right
  match sign with
  | "<" => found == .lt
  | "<=" => found != .gt
  | "=" | "==" => found == .eq
  | "!=" => found != .eq
  | ">=" => found != .lt
  | _ => found == .gt

def computed (sign left right : String) : ExpressionReading String := do
  let (first, second) ← integersOf left right
  match sign with
  | "+" => return toString (first + second)
  | "-" => return toString (first - second)
  | "*" => return toString (first * second)
  | "/" => if second = 0 then throw .zeroDivisor else return toString (first.tdiv second)
  | _ => if second = 0 then throw .zeroDivisor else return toString (first.tmod second)

/-- The signs between two operands by level, the loosest level first. -/
def signLevels : List (List String) :=
  [["|"], ["&"], ["<", "<=", "=", "==", "!=", ">=", ">"], ["+", "-"], ["*", "/", "%"], [":"]]

def applied (sign left right : String) : ExpressionReading String := do
  match sign with
  | "|" => return if !isNull left then left else if !isNull right then right else "0"
  | "&" => return if isNull left || isNull right then "0" else left
  | ":" =>
      match matched left right with
      | .ok text => return text
      | .error defect => throw defect
  | "+" | "-" | "*" | "/" | "%" => computed sign left right
  | sign => return if compared sign left right then "1" else "0"

mutual

def compute : Nat → List (List String) → ExpressionReading String
  | 0, _ => return ""
  | fuel + 1, [] => computeOperand fuel
  | fuel + 1, level :: tighter => do
      let left ← compute fuel tighter
      computeRest fuel level tighter left

def computeRest : Nat → List String → List (List String) → String → ExpressionReading String
  | 0, _, _, left => return left
  | fuel + 1, level, tighter, left => do
      match ← takesOneOf level with
      | none => return left
      | some sign =>
          let right ← compute fuel tighter
          computeRest fuel level tighter (← applied sign left right)

def computeOperand : Nat → ExpressionReading String
  | 0 => return ""
  | fuel + 1 => do
      match ← next? with
      | none => throw (.missing (← get).before)
      | some "(" =>
          skip
          let value ← compute fuel signLevels
          match ← takesOneOf [")"] with
          | some _ => return value
          | none =>
              match ← next? with
              | none =>
                  throw (.other ("syntax error: expecting ')' after " ++
                    inCurlyQuotes (← get).before))
              | some text =>
                  throw (.other ("syntax error: expecting ')' instead of " ++ inCurlyQuotes text))
      | some ")" => throw (.other "syntax error: unexpected ')'")
      | some "length" =>
          skip
          return toString (decode (← computeOperand fuel)).length
      | some "match" =>
          skip
          let text ← computeOperand fuel
          let pattern ← computeOperand fuel
          applied ":" text pattern
      | some "index" =>
          skip
          let text ← computeOperand fuel
          let chars ← computeOperand fuel
          let place := text.toList.findIdx? fun c => chars.toList.contains c
          return toString ((place.map (· + 1)).getD 0)
      | some "substr" =>
          skip
          let text ← computeOperand fuel
          let start ← computeOperand fuel
          let length ← computeOperand fuel
          match integerValue? start, integerValue? length with
          | some start, some length =>
              if start ≤ 0 || length ≤ 0 then return ""
              else return ((text.drop (start.toNat - 1)).take length.toNat).toString
          | _, _ => return ""
      | some "+" =>
          skip
          match ← next? with
          | some text =>
              skip
              return text
          | none => throw (.missing "+")
      | some text =>
          skip
          return text

end

end ExpressionReading

def evaluateOperands (operands : List String) : Work Unit := do
  match operands with
  | [] => misuse 2 "missing operand"
  | operands =>
      let reading : ExpressionReading String := do
        let fuel := 20 * operands.length + 20
        let value ← ExpressionReading.compute fuel ExpressionReading.signLevels
        match ← ExpressionReading.next? with
        | some text => throw (.unexpected text)
        | none => return value
      match reading.run' { operands } with
      | .ok value =>
          put (line value)
          if ExpressionReading.isNull value then setStatus 1
      | .error defect => warn 2 defect.message

/-! ### Parts of paths -/

def dropLastSlashes (text : String) : String :=
  String.ofList (text.toList.reverse.dropWhile (· == '/')).reverse

/-- The last component of a path, without a suffix it ends in. -/
def lastComponent (suffix path : String) : String :=
  let kept := dropLastSlashes path
  let name := String.ofList (kept.toList.reverse.takeWhile (· != '/')).reverse
  if path.isEmpty then ""
  else if kept.isEmpty then "/"
  else if name ≠ suffix && name.endsWith suffix then (name.dropEnd suffix.length).toString
  else name

/-- A path without its last component. -/
def withoutLastComponent (path : String) : String :=
  let kept := dropLastSlashes path
  let above := String.ofList (kept.toList.reverse.dropWhile (· != '/')).reverse
  if kept.isEmpty then if path.isEmpty then "." else "/"
  else if above.isEmpty then "."
  else
    let above := dropLastSlashes above
    if above.isEmpty then "/" else above

def showLastComponents (operands : List String) : Work Unit := do
  match findOptions "as:z".toList [("multiple", 'a'), ("suffix", 's')] true operands with
  | .error defect => misuse 1 defect.message
  | .ok options =>
      let isMultiple := options.has 'a' || options.has 's'
      let line := fun (text : String) => text.push (if options.has 'z' then '\x00' else '\n')
      match options.operands with
      | [] => misuse 1 "missing operand"
      | [name] => put (line (lastComponent ((options.argument? 's').getD "") name))
      | first :: second :: rest =>
          if isMultiple then
            for name in first :: second :: rest do
              put (line (lastComponent ((options.argument? 's').getD "") name))
          else
            match rest with
            | [] => put (line (lastComponent second first))
            | extra :: _ => misuse 1 ("extra operand " ++ inCurlyQuotes extra)

def showDirectories (operands : List String) : Work Unit :=
  withOptions "z" [] 1 operands fun options => do
    if options.operands.isEmpty then misuse 1 "missing operand"
    let ending := if options.has 'z' then '\x00' else '\n'
    for name in options.operands do put ((withoutLastComponent name).push ending)

end HingeField.Shell.Utility
