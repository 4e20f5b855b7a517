import HingeField.Shell.Utility.Desk
import HingeField.Shell.Utility.Expression
import HingeField.Shell.Utility.Lookaround

/-!
The search for lines that match one of some patterns: what is searched for, how a
line has to match, and how the lines found are shown. Files with bytes that are
no text are searched too, but lines of theirs are not shown.
-/

namespace HingeField.Shell.Utility

structure Query where
  patterns : List Regex
  ignoresCase : Bool := false
  isInverted : Bool := false
  isWord : Bool := false
  isLine : Bool := false
  /-- Whether the first way of a pattern counts, not the longest; only common letters belong to
  classes then. -/
  isOrdered : Bool := false

namespace Query

def matching (query : Query) (octets : String) : Matching :=
  { text := (signsOf octets).toArray, ignoresCase := query.ignoresCase
    isOrdered := query.isOrdered, isNarrow := query.isOrdered }

/-- Whether a match may count: as whole words or as the whole line, if that is asked for. -/
def admits (query : Query) (matching : Matching) (start stop : Nat) : Bool :=
  (!query.isLine || (start == 0 && stop == matching.text.size)) &&
    (!query.isWord || (!matching.isWordBefore start && !matching.isWordAt stop))

/-- The match that counts of those that start at a place, with its bounds. -/
def findAt? (query : Query) (matching : Matching) (start : Nat) : Option (Nat × Nat) :=
  let ways := query.patterns.flatMap fun regex => matching.ways regex { place := start }
  let admitted := ways.filter fun way => query.admits matching start way.place
  let way? := if query.isOrdered then admitted.head? else farthest? admitted
  way?.map fun way => (way.cut?.getD start, way.place)

/-- The first match from a place on. -/
def find? (query : Query) (matching : Matching) (place : Nat) : Option (Nat × Nat) :=
  (List.range (matching.text.size + 1 - place)).findSome? fun offset =>
    query.findAt? matching (place + offset)

def selects (query : Query) (octets : String) : Bool :=
  (query.find? (query.matching octets) 0).isSome != query.isInverted

/-- The matches in a line that are not empty, one behind the other, each behind the byte it starts
at. -/
def matchesIn (query : Query) (octets : String) : List (Nat × String) :=
  let matching := query.matching octets
  let signs := matching.text.toList
  (bounds matching (signs.length + 1) 0).map fun (start, stop) =>
    ((signOctets (signs.take start)).length, signOctets ((signs.drop start).take (stop - start)))
where
  bounds (matching : Matching) : Nat → Nat → List (Nat × Nat)
    | 0, _ => []
    | fuel + 1, place =>
        match query.find? matching place with
        | none => []
        | some (start, stop) =>
            if stop = start then bounds matching fuel (start + 1)
            else (start, stop) :: bounds matching fuel stop

end Query

/-- How expressions are written in a search. -/
inductive PatternKind where
  | basic
  | extended
  | fixed
  | looking
deriving DecidableEq

/-- What is done about files that hold bytes of no text. -/
inductive BinaryPolicy where
  | told
  | shown
  | passedOver
deriving DecidableEq

/-- How selected lines are shown. -/
structure Display where
  isCount : Bool := false
  isNames : Bool := false
  isOtherNames : Bool := false
  isQuiet : Bool := false
  isSilent : Bool := false
  isNumbered : Bool := false
  isPlaced : Bool := false
  isOnlyMatches : Bool := false
  isTabbed : Bool := false
  /-- The least number of columns for a number. -/
  width : Nat := 0
  isPrompt : Bool := false
  withNames : Bool := false
  /-- What stands behind a name, in place of the usual sign. -/
  nameEnd? : Option String := none
  label : String := "(standard input)"
  lineEnd : String := "\n"
  binary : BinaryPolicy := .told
  most : Option Nat := none
  before : Nat := 0
  after : Nat := 0
  /-- What stands between groups of lines, if lines around the selected ones are asked for. -/
  gap? : Option String := none

namespace Display

/-- Whether all that counts of a file is if a line is selected. -/
def isBrief (display : Display) : Bool :=
  display.isQuiet || display.isNames || display.isOtherNames

/-- What stands in front of a line or a match: the name of its file, its number and the byte it
starts at, if they are asked for. -/
def lead (display : Display) (name : String) (number place : Nat) (sign : String) : String :=
  let padded := fun (number : Nat) =>
    let digits := toString number
    String.ofList (List.replicate (display.width - digits.length) ' ') ++ digits
  let text :=
    (if display.withNames then name ++ display.nameEnd?.getD sign else "") ++
      (if display.isNumbered then padded number ++ sign else "") ++
      (if display.isPlaced then padded place ++ sign else "")
  if display.isTabbed && !text.isEmpty then text ++ "\t" else text

end Display

/-- A line with its number and the byte it starts at. -/
structure PlacedLine where
  octets : String
  number : Nat
  place : Nat

/-- How far the search of a file has come. -/
structure Scan where
  number : Nat := 0
  place : Nat := 0
  count : Nat := 0
  left : Option Nat := none
  /-- How many lines behind the last selected one are still to be shown. -/
  pending : Nat := 0
  /-- The lines in front that may still have to be shown, last one first. -/
  earlier : List PlacedLine := []
  /-- Whether a line has not been shown since the last one that has. -/
  isGap : Bool := true
  /-- How many lines were selected when bytes of no text were found. -/
  binaryAt? : Option Nat := none
  /-- Whether a line was kept back since it is no text. -/
  isWithheld : Bool := false
  /-- Whether a line of any file has been shown. -/
  isUsed : Bool := false
  isStopped : Bool := false

abbrev Scanning := StateT Scan Work

section

variable (query : Query) (display : Display) (name : String)

/-- Whether a byte of a line is part of no character. -/
def isDefective (octets : String) : Bool :=
  (signsOf octets).any isByteSign

/-- Puts a part of a line out with what stands in front of it, unless it is no text. -/
def showPart (line : PlacedLine) (offset : Nat) (octets sign : String) : Scanning Unit := do
  if display.binary != .shown && isDefective octets then
    modify fun scan => { scan with isWithheld := true, isGap := true }
  else
    put (display.lead name line.number (line.place + offset) sign ++ octets ++ display.lineEnd)
    if display.isPrompt then flush

/-- Shows a line, or what matches in it. -/
def showLine (line : PlacedLine) (isSelected : Bool) : Scanning Unit := do
  if display.isOnlyMatches then
    if isSelected && !query.isInverted then
      for (offset, octets) in query.matchesIn line.octets do
        showPart display name line offset octets ":"
    modify fun scan => { scan with isGap := false }
  else
    modify fun scan => { scan with isGap := false }
    showPart display name line 0 line.octets (if isSelected then ":" else "-")

/-- Shows a selected line, behind the lines in front of it that are asked for. -/
def showSelected (line : PlacedLine) : Scanning Unit := do
  let scan ← get
  match display.gap? with
  | some gap => if scan.isUsed && scan.isGap then put gap
  | none => pure ()
  for earlier in scan.earlier.reverse do showLine query display name earlier false
  showLine query display name line true
  modify fun scan => { scan with earlier := [], pending := display.after }

/-- Takes the next line. -/
def scanLine (octets : String) : Scanning Unit := do
  let scan ← get
  let line : PlacedLine := { octets, number := scan.number + 1, place := scan.place }
  let isHidden := display.isBrief || display.isCount || scan.binaryAt?.isSome
  let isEnough := scan.left == some 0
  if !isEnough && query.selects octets then
    if display.isQuiet then
      flush
      setStatus 0
      leave
    unless isHidden do showSelected query display name line
    modify fun scan =>
      { scan with count := scan.count + 1, left := scan.left.map (· - 1), isUsed := true }
  else if 0 < scan.pending && !isHidden then
    showLine query display name line false
    modify fun scan => { scan with pending := scan.pending - 1 }
  else
    let kept := (line :: scan.earlier).take display.before
    modify fun scan =>
      { scan with earlier := kept, isGap := scan.isGap || display.before ≤ scan.earlier.length }
  modify fun scan =>
    let isBriefDone := display.isBrief && 0 < scan.count
    let isBinaryDone :=
      match scan.binaryAt? with
      | some before => !display.isCount && before < scan.count
      | none => false
    { scan with
      number := line.number
      place := line.place + octets.length + 1
      isStopped := isBriefDone || isBinaryDone || (scan.left == some 0 && scan.pending = 0) }

/-- How many bytes are read at once. -/
def searchSize : Nat := 98304

/-- Takes lines while they are wanted; returns those that are left. -/
def scanLines : List String → Scanning (List String)
  | [] => return []
  | line :: lines => do
      if (← get).isStopped then return line :: lines
      scanLine query display name line
      scanLines lines

/-- Takes the lines of a descriptor; returns how many bytes have been read and not been used. -/
def scanInput (descriptor : Nat) : Nat → String → Scanning (Except FileFault Nat)
  | 0, _ => return .ok 0
  | fuel + 1, start => do
      match ← (Course.read descriptor searchSize : Work _) with
      | .error fault => return .error fault
      | .ok content =>
          let isAtEnd := content.isEmpty
          let octets := start ++ contentOctets content
          let isText := display.lineEnd != "\n" || display.binary == .shown
          if !isText && octets.contains '\x00' && (← get).binaryAt?.isNone then
            if display.binary == .passedOver then
              modify fun scan => { scan with isStopped := true, count := 0 }
              return .ok 0
            modify fun scan => { scan with binaryAt? := some scan.count }
          let isBinary := (← get).binaryAt?.isSome
          let octets :=
            if isBinary then octets.map fun c => if c == '\x00' then '\n' else c else octets
          let pieces := octets.splitOn display.lineEnd
          let lines := pieces.dropLast
          let rest := pieces.getLastD ""
          let lines := if isAtEnd && !rest.isEmpty then lines ++ [rest] else lines
          let left ← scanLines query display name lines
          if isAtEnd then return .ok 0
          if (← get).isStopped then
            return .ok (rest.length + (left.map fun line => line.length + 1).foldl (· + ·) 0)
          scanInput descriptor fuel rest

/-- The file that a descriptor leads to. -/
def fileOf? (machine : Machine) (descriptor : Nat) : Option Nat :=
  match machine.own.descriptor? descriptor with
  | none => none
  | some found =>
      match machine.channels[found.channel]? with
      | some { medium := .node node, .. } =>
          if (machine.disk.node node).isRegular then some node else none
      | _ => none

/-- Whether a file is also the one that the output goes to. -/
def isOutput (machine : Machine) (descriptor : Nat) : Bool :=
  match fileOf? machine 1, fileOf? machine descriptor with
  | some output, some node => output == node
  | _, _ => false

/-- The number of digits of the size of the file that a descriptor gives. -/
def sizeWidth (machine : Machine) (descriptor : Nat) : Nat :=
  match fileOf? machine descriptor with
  | some node => (toString (machine.disk.node node).content.size).length
  | none => 0

/-- Searches what a descriptor gives; tells whether lines are selected. -/
def searchInput (descriptor : Nat) (isUsed : Bool) : Work (Bool × Bool) := do
  let width ← Course.ask fun machine => sizeWidth machine descriptor
  let display := if display.isTabbed then { display with width } else display
  let isLoop ← Course.ask fun machine => isOutput machine descriptor
  if isLoop && !display.isBrief && display.most != some 1 then
    unless display.isSilent do remark (name ++ ": input file is also the output")
    raiseStatus 2
    return (false, isUsed)
  let scan : Scan := { left := display.most, isUsed }
  let (outcome, scan) ← (scanInput query display name descriptor endlessSteps "").run scan
  match outcome with
  | .error fault =>
      unless display.isSilent do remark (name ++ ": " ++ faultText fault)
      raiseStatus 2
  | .ok unused =>
      if descriptor = 0 && scan.left == some 0 then
        giveBack { descriptor, start := String.ofList (List.replicate unused ' ') }
  let isBinary :=
    match scan.binaryAt? with
    | some before => before < scan.count
    | none => scan.isWithheld
  if isBinary && !display.isBrief && !display.isCount && display.binary == .told then
    remark (name ++ ": binary file matches")
  let isFound := 0 < scan.count
  let shownName := name ++ display.nameEnd?.getD ""
  if display.isCount && !display.isBrief then
    let lead := if display.withNames then name ++ display.nameEnd?.getD ":" else ""
    put (line (lead ++ toString scan.count))
  if (display.isNames && isFound) || (display.isOtherNames && !isFound) then
    put (if display.nameEnd?.isSome then shownName else line name)
  return (isFound, scan.isUsed)

end

/-! ### Files -/

/-- Which files of directories are searched. -/
structure FileFilter where
  isRecursive : Bool := false
  followsLinks : Bool := false
  included : List Pattern := []
  excluded : List Pattern := []
  excludedDirectories : List Pattern := []

namespace FileFilter

def admits (filter : FileFilter) (isDirectory : Bool) (name : String) : Bool :=
  let fits := fun (pattern : Pattern) => pattern.fitsText name.toList
  if isDirectory then !filter.excludedDirectories.any fits
  else !filter.excluded.any fits && (filter.included.isEmpty || filter.included.any fits)

/-- The last component of a path. -/
def baseName (path : String) : String :=
  (path.splitOn "/").getLastD path

/-- The files at and below a path, in order. Links are followed only if that is asked for, or if
they are named. -/
def filesBelow (filter : FileFilter) (machine : Machine) : Nat → Bool → String → List String
  | 0, _, _ => []
  | fuel + 1, isNamed, path =>
      let follows := isNamed || filter.followsLinks
      match machine.status follows path with
      | .error _ => [path]
      | .ok status =>
          if status.kind == .directory then
            if !filter.admits true (baseName path) && path != "." then []
            else
              let stem := if path.endsWith "/" then path else path ++ "/"
              let names := (namesAt machine path).filter fun name => name != "." && name != ".."
              names.flatMap fun child => filesBelow filter machine fuel false (stem ++ child)
          else if !isNamed && status.kind != .regular then []
          else if filter.admits false (baseName path) then [path]
          else []

end FileFilter

/-! ### Options -/

def searchUsage : String := "Usage: grep [OPTION]... PATTERNS [FILE]...\n"

/-- The letters of options; those behind the colons have long names only. -/
def searchLetters : String :=
  "0123456789A:B:C:D:EFGHILPTUVX:abcd:e:f:hiLlm:noqRrsuvwxyZz" ++ "\x01:\x02:\x03:\x04:\x05:" ++
    "\x06\x07:\x08"

def searchNames : LongNames :=
  [("basic-regexp", 'G'), ("extended-regexp", 'E'), ("fixed-regexp", 'F'), ("fixed-strings", 'F'),
    ("perl-regexp", 'P'), ("after-context", 'A'), ("before-context", 'B'), ("context", 'C'),
    ("binary-files", '\x01'), ("binary", 'U'), ("byte-offset", 'b'), ("count", 'c'),
    ("devices", 'D'), ("directories", 'd'), ("exclude", '\x02'), ("exclude-dir", '\x03'),
    ("include", '\x04'), ("group-separator", '\x05'), ("no-group-separator", '\x06'),
    ("label", '\x07'), ("line-buffered", '\x08'), ("file", 'f'), ("files-with-matches", 'l'),
    ("files-without-match", 'L'), ("ignore-case", 'i'), ("no-ignore-case", 'Y'),
    ("initial-tab", 'T'), ("line-number", 'n'), ("line-regexp", 'x'), ("max-count", 'm'),
    ("no-filename", 'h'), ("no-messages", 's'), ("null", 'Z'), ("null-data", 'z'),
    ("only-matching", 'o'), ("quiet", 'q'), ("recursive", 'r'), ("dereference-recursive", 'R'),
    ("regexp", 'e'), ("invert-match", 'v'), ("silent", 'q'), ("text", 'a'),
    ("unix-byte-offsets", 'u'), ("version", 'V'), ("with-filename", 'H'), ("word-regexp", 'w')]

/-- The patterns that the options give, or else the first operand, and the other operands. -/
def patternsOf (options : Options) : Work (Option (List String × List String)) := do
  let given := options.letters.filter fun option => option.1 == 'e' || option.1 == 'f'
  if given.isEmpty then
    match options.operands with
    | pattern :: rest => return some (pattern.splitOn "\n", rest)
    | [] => return none
  let mut patterns : List String := []
  for (letter, argument) in given do
    if letter == 'e' then patterns := patterns ++ argument.splitOn "\n"
    else match ← readOperand argument with
      | .ok octets => patterns := patterns ++ linesOf octets
      | .error fault => refuse 2 (argument ++ ": " ++ faultText fault)
  return some (patterns, options.operands)

/-- How patterns are written; options about that must agree. -/
def patternKind (usual : PatternKind) (options : Options) : Work PatternKind := do
  let kinds := options.letters.filterMap fun (letter, _) =>
    match letter with
    | 'G' => some PatternKind.basic
    | 'E' => some .extended
    | 'F' => some .fixed
    | 'P' => some .looking
    | _ => none
  let kinds := if usual == .basic then kinds else usual :: kinds
  let kind := kinds.getLastD usual
  if kinds.any (· != kind) then refuse 2 "conflicting matchers specified"
  return kind

/-- A number of lines around the selected ones. -/
def contextOf (text : String) : Work Nat := do
  match decimal? text with
  | some (.ofNat number) => return number
  | _ => refuse 2 (text ++ ": invalid context length argument")

/-- How lines are shown, and whether names are, if that is said. -/
def displayOf (options : Options) : Work (Display × Option Bool) := do
  let has := options.has
  let digits := String.ofList ((options.letters.map (·.1)).filter Char.isDigit)
  let mut usual? : Option Nat := digits.toNat?
  let mut before? : Option Nat := none
  let mut after? : Option Nat := none
  let mut most : Option Nat := none
  let mut binary := BinaryPolicy.told
  let mut nameChoice? : Option Bool := none
  for (letter, argument) in options.letters do
    match letter with
    | 'A' => after? := some (← contextOf argument)
    | 'B' => before? := some (← contextOf argument)
    | 'C' => usual? := some (← contextOf argument)
    | 'm' =>
        match decimal? argument with
        | some (.ofNat number) => most := some number
        | some _ => most := none
        | none => refuse 2 "invalid max count"
    | 'a' => binary := .shown
    | 'I' => binary := .passedOver
    | '\x01' =>
        match argument with
        | "binary" => binary := .told
        | "text" => binary := .shown
        | "without-match" => binary := .passedOver
        | _ => refuse 2 "unknown binary-files type"
    | 'h' => nameChoice? := some false
    | 'H' => nameChoice? := some true
    | _ => pure ()
  let after := (after?.orElse fun _ => usual?).getD 0
  let before := (before?.orElse fun _ => usual?).getD 0
  let isAround := after?.isSome || before?.isSome || usual?.isSome
  let separator? :=
    if has '\x06' then none else some (line ((options.argument? '\x05').getD "--"))
  let display : Display := {
    isCount := has 'c', isNames := has 'l', isOtherNames := has 'L', isQuiet := has 'q'
    isSilent := has 's', isNumbered := has 'n', isPlaced := has 'b', isOnlyMatches := has 'o'
    isTabbed := has 'T', isPrompt := has '\x08', binary, most, before, after
    nameEnd? := if has 'Z' then some "\x00" else none
    label := (options.argument? '\x07').getD "(standard input)"
    lineEnd := if has 'z' then "\x00" else "\n"
    gap? := if isAround then separator? else none }
  return (display, nameChoice?)

/-- Reads a pattern; warns of what it may not mean. -/
def readPattern (kind : PatternKind) (octets : String) : Work Regex := do
  let signs := signsOf octets
  match kind with
  | .fixed => return Regex.ofChars signs
  | .looking =>
      match Regex.parseLooking signs with
      | .ok regex => return regex
      | .error text => refuse 2 text
  | kind =>
      match Dialect.parse { isExtended := kind == .extended } signs with
      | .ok (regex, warnings) =>
          for warning in warnings do remark ("warning: " ++ warning)
          return regex
      | .error text => refuse 2 text

/-- Searches files, or the input, for lines that match. Nothing is shown in color. -/
def search (usual : PatternKind) (operands : List String) : Work Unit := do
  let operands := operands.filter fun operand =>
    !(operand.startsWith "--color" || operand.startsWith "--colour")
  match findOptions searchLetters.toList searchNames false operands with
  | .error defect =>
      warn 2 defect.message
      putError (searchUsage ++ hintText (← get).command)
  | .ok options =>
      let has := options.has
      let kind ← patternKind usual options
      let (display, nameChoice?) ← displayOf options
      if has 'u' then remark "warning: --unix-byte-offsets (-u) is obsolete"
      match ← patternsOf options with
      | none =>
          putError (searchUsage ++ hintText (← get).command)
          setStatus 2
      | some (texts, operands) =>
          if kind == .looking && 1 < texts.length then
            refuse 2 "the -P option only supports a single pattern"
          let patterns ← texts.mapM (readPattern kind)
          if display.most == some 0 then
            setStatus 1
            leave
          let recursion := (options.letters.filterMap fun (letter, argument) =>
            match letter, argument with
            | 'r', _ => some (some false)
            | 'R', _ => some (some true)
            | 'd', "recurse" => some (some false)
            | 'd', _ => some none
            | _, _ => none).getLastD none
          let globs := fun (letter : Char) => (options.letters.filter (·.1 == letter)).map
            fun (_, glob) => Pattern.ofText true glob
          let filter : FileFilter :=
            { isRecursive := recursion.isSome, followsLinks := recursion == some true
              included := globs '\x04', excluded := globs '\x02'
              excludedDirectories := globs '\x03' }
          let isMany ← Course.ask fun machine =>
            match operands with
            | [] => filter.isRecursive
            | [operand] => filter.isRecursive && machine.isDirectory operand
            | _ => true
          let display := { display with withNames := nameChoice?.getD isMany }
          let casing := (options.letters.filterMap fun (letter, _) =>
            if letter == 'i' || letter == 'y' then some true
            else if letter == 'Y' then some false
            else none).getLastD false
          let query : Query :=
            { patterns, ignoresCase := casing, isInverted := has 'v', isLine := has 'x'
              isWord := has 'w' && !has 'x', isOrdered := kind == .looking }
          let names ←
            if filter.isRecursive then
              Course.ask fun machine =>
                if operands.isEmpty then
                  (filter.filesBelow machine Disk.maximalPathSize true ".").map fun path =>
                    (path.drop 2).toString
                else
                  operands.flatMap fun operand =>
                    if operand = "-" then [operand]
                    else filter.filesBelow machine Disk.maximalPathSize true operand
            else if operands.isEmpty then pure ["-"]
            else
              pure (operands.filter fun operand =>
                operand = "-" || filter.admits false (FileFilter.baseName operand))
          let passesDirectories := options.argument? 'd' == some "skip"
          let mut isFound := false
          let mut isUsed := false
          for name in names do
            match ← openOperand name with
            | .error fault =>
                unless display.isSilent do remark (name ++ ": " ++ faultText fault)
                raiseStatus 2
            | .ok descriptor =>
                let isDirectory ← Course.ask fun machine =>
                  name != "-" && machine.isDirectory name
                unless isDirectory && passesDirectories do
                  let shown := if name = "-" then display.label else name
                  let (found, used) ← searchInput query display shown descriptor isUsed
                  isFound := isFound || found
                  isUsed := used
                closeOperand descriptor
          if (← get).status = 0 && !isFound then setStatus 1

end HingeField.Shell.Utility
