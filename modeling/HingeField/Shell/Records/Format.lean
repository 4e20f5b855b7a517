import HingeField.Shell.Records.Datum

/-!
Data under a format: how numbers become texts, and how a format takes several
data. What stands in front of a part of the format that has no datum, or is none,
is still put out.
-/

namespace HingeField.Shell.Records

/-- Why a format cannot be followed to its end. -/
inductive FormatDefect where
  | notEnough
  | improper (number : Nat)

def FormatDefect.message (command format : String) : FormatDefect → String
  | .notEnough => "not enough arguments passed to " ++ command ++ "(\x22" ++ format ++ "\x22)"
  | .improper number =>
      "improper conversion(number " ++ toString number ++ ") in " ++ command ++ "(\x22" ++ format ++
        "\x22)"

/-- A double, as it is written out. What is not a number has a sign. -/
def realOf (value : Float) : Real :=
  if value.isNaN then .notANumber true else Real.ofFloat value

/-- A datum as a character. -/
def characterOf (datum : Datum) : Char :=
  match datum, datum.figure? with
  | .text octets, _ => octets.toList.headD '\x00'
  | _, some value => Char.ofNat ((boundedWhole value) % 256).toNat
  | .input octets, none => octets.toList.headD '\x00'
  | _, none => '\x00'

/-- A datum under the letter of a conversion; `none` if there is no such letter. -/
def convert (toText : Datum → String) (conversion : Conversion) (letter : Char) (datum : Datum) :
    Option String :=
  let whole := boundedWhole datum.toFloat
  match letter with
  | 'd' | 'i' => some (conversion.integer whole)
  | 'o' | 'x' | 'X' | 'u' => some (conversion.unsigned letter (whole % 0x10000000000000000).toNat)
  | 'e' | 'f' | 'g' | 'E' | 'G' => some (conversion.real .double letter (realOf datum.toFloat))
  | 's' => some (conversion.text (toText datum))
  | 'c' => some ({ conversion with precision := none }.text (String.singleton (characterOf datum)))
  | _ => none

/-- How wide or precise a conversion is. -/
inductive Amount where
  | fixed (size : Nat)
  | given (value : Int)

/-- The amount at the start of a text, or the next datum for a star; and what is left of both. -/
def readAmount (text : List Char) (data : List Datum) :
    Except FormatDefect (Option Amount × List Char × List Datum) :=
  match text with
  | '*' :: rest =>
      match data with
      | [] => .error .notEnough
      | datum :: data => .ok (some (.given (boundedWhole datum.toFloat)), rest, data)
  | text =>
      let digits := text.takeWhile Char.isDigit
      .ok ((String.ofList digits).toNat?.map .fixed, text.drop digits.length, data)

/-- The conversion behind a percent sign, and what is left of the format and the data. -/
def readConversion (text : List Char) (data : List Datum) :
    Except FormatDefect (Conversion × List Char × List Datum) := do
  let flags := text.takeWhile fun c => "-+ #0".toList.contains c
  let (width?, text, data) ← readAmount (text.drop flags.length) data
  let (precision?, text, data) ←
    match text with
    | '.' :: rest => do
        let (amount?, text, data) ← readAmount rest data
        pure (some (amount?.getD (.fixed 0)), text, data)
    | text => pure (none, text, data)
  let (isLeft, width) : Bool × Nat :=
    match width? with
    | none => (false, 0)
    | some (.fixed size) => (false, size)
    | some (.given value) => (value < 0, value.natAbs)
  let precision : Option Nat :=
    match precision? with
    | none => none
    | some (.fixed size) => some size
    | some (.given value) => if value < 0 then none else some value.toNat
  let flags := if isLeft then '-' :: flags else flags
  let conversion : Conversion := { flags, width, precision }
  return (conversion, text.dropWhile fun c => c == 'l' || c == 'h', data)

/-- Follows a format. -/
def follow (toText : Datum → String) :
    Nat → Nat → List Char → List Datum → String × Option FormatDefect
  | 0, _, _, _ => ("", none)
  | _ + 1, _, [], _ => ("", none)
  | fuel + 1, number, text, data =>
      let goOn := fun (front : String) (number : Nat) (rest : List Char) (data : List Datum) =>
        let (behind, defect?) := follow toText fuel number rest data
        (front ++ behind, defect?)
      match text with
      | '%' :: '%' :: rest => goOn "%" number rest data
      | '%' :: rest =>
          match readConversion rest data with
          | .error defect => ("", some defect)
          | .ok (_, _, []) => ("", some .notEnough)
          | .ok (_, [], _ :: _) => ("", some (.improper number))
          | .ok (conversion, letter :: rest, datum :: data) =>
              match convert toText conversion letter datum with
              | none => ("", some (.improper number))
              | some shown => goOn shown (number + 1) rest data
      | text =>
          let plain := text.takeWhile (· != '%')
          goOn (String.ofList plain) number (text.drop plain.length) data

/-- Data under a format, which ends at a byte of zero, and what is wrong with the rest. -/
def formatted (toText : Datum → String) (format : String) (data : List Datum) :
    String × Option FormatDefect :=
  let text := format.toList.takeWhile (· != '\x00')
  follow toText (text.length + 1) 1 text data

/-- A number as a text: its digits if there is nothing behind its point, or under a format. -/
def numberText (format : String) (value : Float) : String :=
  match wholeText? value with
  | some digits => digits
  | none =>
      (formatted (fun _ => "") format [.number value]).1

/-- A datum as a text, with the format for numbers. -/
def Datum.toText (format : String) : Datum → String
  | .unset => ""
  | .number value => numberText format value
  | .text octets => octets
  | .input octets => octets

end HingeField.Shell.Records
