import HingeField.Decimal.Layout
import HingeField.Decimal.Numeral
import HingeField.Position
import HingeField.Property
import HingeField.Text.Lines
import HingeField.Text.Quoted
import HingeField.Text.Utf8

/-!
Everything that can go wrong, one constructor per cause, and the message of
each cause.
-/

namespace HingeField

/-- A defect of solver output: what was expected, what was found, and on which line. -/
structure FormatDefect where
  summary : String
  expected : Option String := none
  actual : Option String := none
  line : Option Int := none

/-- A failed solver run. The status is unknown when the run did not report one. -/
structure SolverFailure where
  summary : String
  status : Option Int := none
  stderr : String := ""

/-- How many dimensions an array may have. -/
def maximalDimensions : Nat := 64

/-- Why a file operation was refused. -/
inductive FileFault where
  | notFound
  | alreadyExists
  | isDirectory
  | notDirectory
  | notPermitted
  | nameTooLong
  | embeddedNull
  | unknownFormat
  | tooManyLinks
  | notEmpty
  | invalid
  | noDevice
  | notAllowed
  | badDescriptor
  | brokenPipe
  | noSpace
  | busy
deriving DecidableEq

inductive Fault where
  | variableOutOfBounds (index : Int) (size : Nat)
  | notAnIndex
  | wordOverflow
  | sizeOverflow
  | realOverflow
  | positionOutOfRange
  | positionOverflow
  | unsignedPositionOverflow
  | notAPosition
  | categoryOutOfRange (code cardinality : Int)
  | entryOutOfRange (index : Int) (cardinalities : List Int)
  | blockSize (size : Int)
  | raggedValues (shape : List Nat)
  | tooManyDimensions
  | dimensionOverflow
  | arrayOverflow
  | allocation (cells : Nat)
  | exhaustedMemory
  | valuesShape (expected : Int) (shape : List Nat)
  | truthRange
  | truthOutside (value : Float)
  | notDiscrete (block : Int) (members : List Float)
  | noTrueMember (block : Int)
  | snapshotSize
  | negativeWeight (weight : Float)
  | exponentialOverflow
  | squareOverflow
  | ruleEvaluation (text : String)
  | unknownTieBreak (name : String)
  | negativeSeed
  | negativeSampleSize
  | emptyPopulation
  | numeral (defect : Decimal.NumeralDefect) (text : String)
  | notNumeric (value : Property)
  | notANumberSeed
  | infiniteSeed
  | unknownTask (value : Property)
  | unknownSetting (name : String)
  | reservedSetting (name : String)
  | missingExecutable
  | notAPath (value : Property)
  | notAFileName (value : Property)
  | notAWord (place : Nat) (value : Property)
  | wrongStore (value : Property)
  | format (defect : FormatDefect)
  | solver (failure : SolverFailure)
  | file (fault : FileFault)
  | undecodable (defect : Text.DecodeDefect)
  | raised (kind text : String)

/-- The details stand in parentheses behind the summary, in the order line, expected, actual. -/
def FormatDefect.message (defect : FormatDefect) : String :=
  let details :=
    (defect.line.map fun line => "line " ++ toString line).toList ++
      (defect.expected.map fun text => "expected " ++ Text.quoted text).toList ++
      (defect.actual.map fun text => "got " ++ Text.quoted text).toList
  if details.isEmpty then defect.summary
  else defect.summary ++ " (" ++ String.intercalate ", " details ++ ")"

/-- How many lines of a solver's error output a message quotes. -/
def stderrTail : Nat := 5

def SolverFailure.message (failure : SolverFailure) : String :=
  let status :=
    match failure.status with
    | some status => " (exit status " ++ toString status ++ ")"
    | none => ""
  let lines := Text.messageLines (Text.strip failure.stderr.toList)
  let tail := lines.drop (lines.length - stderrTail)
  failure.summary ++ status ++
    String.join (tail.map fun line => "\n" ++ String.ofList line)

/-- How many characters of a quoted text the message on a bad numeral keeps. -/
def numeralQuoteLength : Nat := 200

def numeralMessage (text : String) : Decimal.NumeralDefect → String
  | .malformed =>
      "invalid literal for int() with base 10: " ++
        String.ofList ((Text.quotedChars text.toList).take numeralQuoteLength)
  | .tooManyDigits count =>
      "Exceeds the limit (" ++ toString Decimal.maximalDigits ++
        " digits) for integer string conversion: value has " ++ toString count ++
        " digits; use sys.set_int_max_str_digits() to increase the limit"

def bracketed (items : List String) : String :=
  "[" ++ String.intercalate ", " items ++ "]"

/-- The sizes of an array's dimensions; a single one is followed by a comma. -/
def shapeText : List Nat → String
  | [size] => "(" ++ toString size ++ ",)"
  | sizes => "(" ++ String.intercalate ", " (sizes.map toString) ++ ")"

/-- How many bytes a truth value takes. -/
def cellSize : Nat := 8

/-- The names of the powers of 1024 bytes. -/
def unitNames : List String :=
  ["bytes", "KiB", "MiB", "GiB", "TiB", "PiB", "EiB"]

/-- A quotient to so many places behind the point; halves go to the even neighbour. -/
def quotientText (dividend divisor places : Nat) : String :=
  let scaled := dividend * Nat.pow 10 places
  let floor := scaled / divisor
  let twice := 2 * (scaled % divisor)
  let nearest :=
    if divisor < twice || (twice = divisor && floor % 2 = 1) then floor + 1 else floor
  let digits := (toString (nearest % Nat.pow 10 places)).toList
  toString (nearest / Nat.pow 10 places) ++ "." ++
    (if places = 0 then ""
      else String.ofList (List.replicate (places - digits.length) '0' ++ digits))

/-- A great number of bytes in the greatest unit that fits, to three digits. -/
def amountText (bytes : Nat) : String :=
  let power := min (Nat.log2 bytes / 10) (unitNames.length - 1)
  let unit := Nat.pow 1024 power
  let places :=
    if 1000 * bytes < 9995 * unit then 2 else if 100 * bytes < 9995 * unit then 1 else 0
  quotientText bytes unit places ++ " " ++ unitNames.getD power ""

def FileFault.message : FileFault → String
  | .notFound => "no such file or directory"
  | .alreadyExists => "file exists"
  | .isDirectory => "is a directory"
  | .notDirectory => "not a directory"
  | .notPermitted => "permission denied"
  | .nameTooLong => "file name too long"
  | .embeddedNull => "embedded null byte"
  | .unknownFormat => "exec format error"
  | .tooManyLinks => "too many levels of symbolic links"
  | .notEmpty => "directory not empty"
  | .invalid => "invalid argument"
  | .noDevice => "no such device or address"
  | .notAllowed => "operation not permitted"
  | .badDescriptor => "bad file descriptor"
  | .brokenPipe => "broken pipe"
  | .noSpace => "no space left on device"
  | .busy => "device or resource busy"

def Fault.message : Fault → String
  | .variableOutOfBounds index size =>
      "index " ++ toString index ++ " is out of bounds for axis 0 with size " ++ toString size
  | .notAnIndex =>
      "only integers, slices (\x60:\x60), ellipsis (\x60...\x60), numpy.newaxis (\x60None\x60) " ++
        "and integer or boolean arrays are valid indices"
  | .wordOverflow => "Python int too large to convert to C long"
  | .sizeOverflow => "Python int too large to convert to C ssize_t"
  | .realOverflow => "int too large to convert to float"
  | .positionOutOfRange => "list index out of range"
  | .positionOverflow => "cannot fit 'int' into an index-sized integer"
  | .unsignedPositionOverflow => "cannot fit 'numpy.uint64' into an index-sized integer"
  | .notAPosition => "list indices must be integers or slices, not numpy.float64"
  | .categoryOutOfRange code cardinality =>
      "category " ++ toString code ++ " out of range for block of cardinality " ++
        toString cardinality
  | .entryOutOfRange index cardinalities =>
      "entry " ++ toString index ++ " out of range for cardinalities " ++
        bracketed (cardinalities.map toString)
  | .blockSize size => "block size must be positive, got " ++ toString size
  | .raggedValues shape =>
      "setting an array element with a sequence. The requested array has an inhomogeneous " ++
        "shape after " ++ toString shape.length ++ " dimensions. The detected shape was " ++
        shapeText shape ++ " + inhomogeneous part."
  | .tooManyDimensions =>
      "setting an array element with a sequence. The requested array would exceed the " ++
        "maximum number of dimension of " ++ toString maximalDimensions ++ "."
  | .dimensionOverflow => "Maximum allowed dimension exceeded"
  | .arrayOverflow =>
      "array is too big; \x60arr.size * arr.dtype.itemsize\x60 is larger than the maximum " ++
        "possible size."
  | .allocation cells =>
      "Unable to allocate " ++ amountText (cellSize * cells) ++ " for an array with shape " ++
        shapeText [cells] ++ " and data type float64"
  | .exhaustedMemory => ""
  | .valuesShape expected shape =>
      "expected " ++ toString expected ++ " values, got shape " ++ shapeText shape
  | .truthRange => "truth values must lie in [0, 1]"
  | .truthOutside value => "truth value " ++ Decimal.realText value ++ " outside [0, 1]"
  | .notDiscrete block members =>
      "block " ++ toString block ++ " is not in a discrete state: " ++
        bracketed (members.map Decimal.realText)
  | .noTrueMember block => "block " ++ toString block ++ " requires exactly one true member"
  | .snapshotSize => "snapshot does not match arena size"
  | .negativeWeight weight =>
      "rule weight must be non-negative, got " ++ Decimal.realText weight
  | .exponentialOverflow => "math range error"
  | .squareOverflow => "(34, 'Numerical result out of range')"
  | .ruleEvaluation text => text
  | .unknownTieBreak name => "Unknown tie_break: " ++ name
  | .negativeSeed => "expected non-negative integer"
  | .negativeSampleSize => "negative dimensions are not allowed"
  | .emptyPopulation => "a must be a positive integer unless no samples are taken"
  | .numeral defect text => numeralMessage text defect
  | .notNumeric value =>
      "int() argument must be a string, a bytes-like object or a real number, not " ++
        Text.quoted value.typeName
  | .notANumberSeed => "cannot convert float NaN to integer"
  | .infiniteSeed => "cannot convert float infinity to integer"
  | .unknownTask value => value.inner ++ " is not a valid Task"
  | .unknownSetting name =>
      "ReasonerConfig.__init__() got an unexpected keyword argument '" ++ name ++ "'"
  | .reservedSetting name =>
      "ReasonerConfig.__init__() got multiple values for argument '" ++ name ++ "'"
  | .missingExecutable => "ReasonerConfig.executable is required"
  | .notAPath value => "expected str, bytes or os.PathLike object, not " ++ value.typeName
  | .notAFileName value =>
      "unsupported operand type(s) for /: 'PosixPath' and " ++ Text.quoted value.typeName
  | .notAWord place value =>
      "sequence item " ++ toString place ++ ": expected str instance, " ++ value.typeName ++
        " found"
  | .wrongStore value => "BlockModel required, got " ++ value.typeName
  | .format defect => defect.message
  | .solver failure => failure.message
  | .file fault => fault.message
  | .undecodable defect => defect.message
  | .raised _ text => text

/-- How many real numbers there is room for. -/
def greatestRoom : Nat := 0x200000000

/-- Refuses to hold more real numbers than there is room for. -/
def checkRoom (size : Nat) : Except Fault Unit :=
  if wordBound ≤ size then .error .dimensionOverflow
  else if wordBound ≤ cellSize * size then .error .arrayOverflow
  else if greatestRoom ≤ size then .error (.allocation size)
  else .ok ()

/-- Why a list has no element at a position. -/
def positionFault (position : Int) : Fault :=
  if isWord position then .positionOutOfRange else .positionOverflow

/-- Why an arena of some size has no truth value at an index. An index that is no machine word has a
fault of its own. -/
def indexFault (index : Int) (size : Nat) : Fault :=
  if isWord index then .variableOutOfBounds index size
  else if isOverWord index then .wordOverflow
  else .notAnIndex

end HingeField
