import HingeField.Shell.Host.Status
import HingeField.Shell.Utility.Whole

/-!
The commands that show the first or the last part of texts, cut them into
several files, or count their parts.
-/

namespace HingeField.Shell.Utility

/-! ### Parts -/

/-- The factor that a suffix of a count stands for. -/
def suffixFactor? (suffix : List Char) : Option Nat :=
  match suffix with
  | [] => some 1
  | ['b'] => some 512
  | ['k', 'B'] => some 1000
  | ['K'] | ['k'] | ['K', 'i', 'B'] => some 1024
  | ['M', 'B'] => some 1000000
  | ['M'] | ['M', 'i', 'B'] => some (1024 * 1024)
  | ['G'] => some (1024 * 1024 * 1024)
  | _ => none

/-- A count, which may have a suffix. -/
def count? (text : String) : Option Nat := do
  let digits := text.toList.takeWhile Char.isDigit
  let number ← (String.ofList digits).toNat?
  return number * (← suffixFactor? (text.toList.drop digits.length))

/-- Which part of a text is shown: so many lines or bytes, which are counted from the other end
under the other sign. -/
structure Extent where
  isBytes : Bool
  isOther : Bool
  count : Nat

/-- Operands in which a count right behind a dash is given as an option for lines or bytes. -/
def withCountOption : List String → List String
  | first :: rest =>
      match first.toList with
      | '-' :: c :: digits =>
          if !c.isDigit then first :: rest
          else
            let number := (c :: digits).takeWhile Char.isDigit
            match (c :: digits).drop number.length with
            | [] => "-n" :: String.ofList number :: rest
            | ['c'] => "-c" :: String.ofList number :: rest
            | letters => "-n" :: String.ofList number :: String.ofList ('-' :: letters) :: rest
      | _ => first :: rest
  | [] => []

/-- The part that the options ask for; ten lines unless they say otherwise. -/
def extentOf (otherSign : Char) (options : Options) : Except String Extent :=
  match options.letters.reverse.find? fun option => option.1 == 'c' || option.1 == 'n' with
  | none => .ok { isBytes := false, isOther := false, count := 10 }
  | some (letter, argument) =>
      let isOther := argument.toList.head? == some otherSign
      let isSigned := isOther || "+-".toList.any fun c => argument.toList.head? == some c
      let digits := if isSigned then (argument.drop 1).toString else argument
      match count? digits with
      | some count => .ok { isBytes := letter == 'c', isOther, count }
      | none =>
          .error ("invalid number of " ++ (if letter == 'c' then "bytes" else "lines") ++ ": " ++
            inCurlyQuotes argument)

/-- The first part of a text. -/
def Extent.first (extent : Extent) (octets : String) : String :=
  let taken := fun size : Nat => if extent.isOther then size - extent.count else extent.count
  if extent.isBytes then (octets.take (taken octets.length)).toString
  else
    let lines := endedLines octets
    String.join (lines.take (taken lines.length))

/-- The last part of a text. -/
def Extent.last (extent : Extent) (octets : String) : String :=
  let dropped := fun size : Nat => if extent.isOther then extent.count - 1 else size - extent.count
  if extent.isBytes then (octets.drop (dropped octets.length)).toString
  else
    let lines := endedLines octets
    String.join (lines.drop (dropped lines.length))

/-- Passes up to so many bytes on. -/
def passBytes (descriptor : Nat) : Nat → Nat → Work (Except FileFault Unit)
  | 0, _ => return .ok ()
  | _ + 1, 0 => return .ok ()
  | fuel + 1, count => do
      match ← Course.read descriptor (min count chunkSize) with
      | .error fault => return .error fault
      | .ok content =>
          if content.isEmpty then return .ok ()
          else
            put (contentOctets content)
            passBytes descriptor fuel (count - content.size)

/-- Passes up to so many lines on. -/
def passLines (descriptor : Nat) : Nat → Work (Except FileFault Unit)
  | 0 => return .ok ()
  | count + 1 => do
      match ← nextLine descriptor endlessSteps with
      | .error fault => return .error fault
      | .ok none => return .ok ()
      | .ok (some text) =>
          put text
          passLines descriptor count

/-- What is left of a descriptor. -/
def restOf (descriptor : Nat) : Work (Except FileFault String) := do
  let input ← inputOf descriptor
  putInput { input with lines := [], start := "", isAtEnd := true }
  let content ← readRest descriptor endlessSteps .empty
  return content.map fun content =>
    String.join input.lines ++ input.start ++ contentOctets content

/-- Shows the first part of a descriptor. -/
def Extent.showFirst (extent : Extent) (lineEnd : UInt8) (descriptor : Nat) :
    Work (Except FileFault Unit) := do
  setLineEnd descriptor lineEnd
  if extent.isOther then
    match ← restOf descriptor with
    | .error fault => return .error fault
    | .ok octets =>
        put (extent.first octets)
        return .ok ()
  else if extent.isBytes then passBytes descriptor endlessSteps extent.count
  else passLines descriptor extent.count

/-- How often a file that is followed is looked at, in microseconds. -/
def followTime : Nat := 20000

/-- Shows what is added to a file, without end. -/
def followFile (descriptor : Nat) : Nat → Work Unit
  | 0 => pure ()
  | fuel + 1 => do
      flush
      match ← Course.read descriptor chunkSize with
      | .error _ => pure ()
      | .ok content =>
          if content.isEmpty then
            let _ ← (Course.sleepFor false followTime : Work Waking)
          else put (contentOctets content)
          followFile descriptor fuel

/-- Skips so many lines. -/
def skipLines (descriptor : Nat) : Nat → Work (Except FileFault Unit)
  | 0 => return .ok ()
  | count + 1 => do
      match ← nextLine descriptor endlessSteps with
      | .error fault => return .error fault
      | .ok none => return .ok ()
      | .ok (some _) => skipLines descriptor count

/-- Shows the last part of a descriptor. -/
def Extent.showLast (extent : Extent) (follows : Bool) (lineEnd : UInt8) (descriptor : Nat) :
    Work (Except FileFault Unit) := do
  setLineEnd descriptor lineEnd
  let outcome ←
    if extent.isOther && !extent.isBytes then
      match ← skipLines descriptor (extent.count - 1) with
      | .error fault => pure (.error fault)
      | .ok () =>
          forEachLine descriptor (fun text => do
            put text
            return true) endlessSteps
    else
      match ← restOf descriptor with
      | .error fault => pure (.error fault)
      | .ok octets => do
          if lineEnd == 10 || extent.isBytes then put (extent.last octets)
          else
            let pieces := separatedPieces "\x00" false octets
            put (String.join (pieces.drop (pieces.length - extent.count)))
          pure (.ok ())
  let isFile ← Course.ask fun machine =>
    (machine.descriptorStatus? descriptor).any fun status => status.kind == .regular
  if follows && isFile then followFile descriptor endlessSteps
  return outcome

/-- Shows a part of each operand, under its name if there are several. -/
def showParts (options : Options) (part : Nat → Work (Except FileFault Unit)) : Work Unit := do
  let withNames := (1 < options.operands.length && !options.has 'q') || options.has 'v'
  let mut isFirst := true
  for name in (if options.operands.isEmpty then ["-"] else options.operands) do
    match ← openOperand name with
    | .error fault =>
        warn 1 ("cannot open '" ++ name ++ "' for reading: " ++ faultText fault)
    | .ok descriptor =>
        if withNames then
          let shown := if name = "-" then "standard input" else name
          put ((if isFirst then "" else "\n") ++ "==> " ++ shown ++ " <==\n")
        isFirst := false
        match ← part descriptor with
        | .ok () => pure ()
        | .error fault => warn 1 ("error reading '" ++ name ++ "': " ++ faultText fault)
        closeOperand descriptor

def partNames : LongNames :=
  [("lines", 'n'), ("bytes", 'c'), ("quiet", 'q'), ("silent", 'q'), ("verbose", 'v'),
    ("zero-terminated", 'z'), ("follow", 'f'), ("retry", 'R'), ("pid", 'P'),
    ("sleep-interval", 's')]

def lineEndOf (options : Options) : UInt8 :=
  if options.has 'z' then 0 else 10

def showFirst (operands : List String) : Work Unit :=
  withOptions "n:c:qvz" partNames 1 (withCountOption operands) fun options => do
    match extentOf '-' options with
    | .error text => warn 1 text
    | .ok extent => showParts options (extent.showFirst (lineEndOf options))

def showLast (operands : List String) : Work Unit :=
  let operands :=
    match operands with
    | first :: rest =>
        if first.startsWith "+" && 1 < first.length then "-n" :: first :: rest
        else withCountOption (first :: rest)
    | [] => []
  withOptions "n:c:qvzfFs: RP:" partNames 1 operands fun options => do
    match extentOf '+' options with
    | .error text => warn 1 text
    | .ok extent =>
        let follows := options.has 'f' || options.has 'F'
        showParts options (extent.showLast follows (lineEndOf options))

/-! ### Counts -/

/-- The lines, words, characters and bytes of a text, and the length of its longest line. -/
structure Counts where
  lines : Nat := 0
  words : Nat := 0
  chars : Nat := 0
  bytes : Nat := 0
  longest : Nat := 0

/-- How far the counting has come. -/
structure Counting extends Counts where
  isInWord : Bool := false
  width : Nat := 0

/-- Counts a byte. A character is counted with its first byte. -/
def Counting.step (counting : Counting) (byte : UInt8) : Counting :=
  let c := Char.ofNat byte.toNat
  let isFirst := byte &&& 0xc0 != 0x80
  let width :=
    match c with
    | '\n' | '\r' | '\x0c' => 0
    | '\t' => counting.width + 8 - counting.width % 8
    | c => if isFirst && ' ' ≤ c && c != '\x7f' then counting.width + 1 else counting.width
  let isInWord := !isSpace c
  { lines := if byte == 10 then counting.lines + 1 else counting.lines
    words := if isInWord && !counting.isInWord then counting.words + 1 else counting.words
    chars := if isFirst then counting.chars + 1 else counting.chars
    bytes := counting.bytes + 1
    longest := max counting.longest width
    isInWord, width }

/-- Counts the parts of what is read from a descriptor. -/
def countFrom (descriptor : Nat) : Nat → Counting → Work (Except FileFault Counts)
  | 0, counting => return .ok counting.toCounts
  | fuel + 1, counting => do
      match ← Course.read descriptor 65536 with
      | .error fault => return .error fault
      | .ok content =>
          if content.isEmpty then return .ok counting.toCounts
          else countFrom descriptor fuel (content.foldl Counting.step counting)

def Counts.add (first second : Counts) : Counts :=
  { lines := first.lines + second.lines
    words := first.words + second.words
    chars := first.chars + second.chars
    bytes := first.bytes + second.bytes
    longest := max first.longest second.longest }

/-- The counts that the options ask for. -/
def Counts.selected (counts : Counts) (letters : List Char) : List Nat :=
  (if letters.contains 'l' then [counts.lines] else []) ++
    (if letters.contains 'w' then [counts.words] else []) ++
    (if letters.contains 'm' then [counts.chars] else []) ++
    (if letters.contains 'c' then [counts.bytes] else []) ++
    (if letters.contains 'L' then [counts.longest] else [])

/-- The width of the columns of counts: that of all sizes together, or a fixed one where a size is
not known beforehand. -/
def countWidth (letters : List Char) (operands : List String) (machine : Machine) : Nat :=
  let statuses := operands.map fun name =>
    if name = "-" then machine.descriptorStatus? 0 else machine.status? name
  let known := statuses.filterMap id
  if operands.length = 1 && letters.length = 1 then 1
  else if (statuses.head?.bind id).isNone then 1
  else
    let regular := known.filter fun status => status.kind == .regular
    let total := (regular.map fun status => status.node.size).foldl (· + ·) 0
    let least := if regular.length < known.length then 7 else 1
    max least (toString total).length

def countParts (operands : List String) : Work Unit :=
  withOptions "lwcmL F:"
    [("lines", 'l'), ("words", 'w'), ("bytes", 'c'), ("chars", 'm'), ("max-line-length", 'L'),
      ("files0-from", 'F')] 1
    operands fun options => do
    let given := (options.letters.map (·.1)).eraseDups
    let letters := if given.isEmpty then ['l', 'w', 'c'] else given
    let names := if options.operands.isEmpty then ["-"] else options.operands
    let width ← Course.ask (countWidth letters names)
    let row := fun (counts : Counts) (name : String) =>
      let columns := (counts.selected letters).map (rightAligned width)
      String.intercalate " " columns ++ (if name.isEmpty then "" else " " ++ shownName name) ++ "\n"
    let mut total : Counts := {}
    for name in names do
      let shown := if options.operands.isEmpty then "" else name
      match ← openOperand name with
      | .error fault => warn 1 (shownName name ++ ": " ++ faultText fault)
      | .ok descriptor =>
          match ← countFrom descriptor endlessSteps {} with
          | .ok counts =>
              total := total.add counts
              put (row counts shown)
          | .error fault =>
              warn 1 (shownName name ++ ": " ++ faultText fault)
              if fault = .isDirectory then put (row {} name)
          closeOperand descriptor
    if 1 < options.operands.length then put (row total "total")

end HingeField.Shell.Utility
