import HingeField.Shell.Utility.DifferenceForm
import HingeField.Shell.Utility.Find
import HingeField.Shell.Utility.Properties

/-!
The command that compares files line by line, and directories name by name.
-/

namespace HingeField.Shell.Utility

/-- What is compared, and how. -/
structure FileComparison where
  form : DifferenceForm := {}
  style? : Option DifferenceStyle := none
  /-- How many lines around changes are shown at least, as options say. -/
  around? : Option Nat := none
  /-- Whether an option has given the number. -/
  isExplicit : Bool := false
  /-- The number given by digits that are options. -/
  digits? : Option Nat := none
  horizon : Nat := 0
  isLeast : Bool := false
  isBrief : Bool := false
  reportsSame : Bool := false
  recurses : Bool := false
  /-- Whether a file that is not there counts as an empty one, and whether the first one does. -/
  startsEmpty : Bool := false
  startsFirstEmpty : Bool := false
  isText : Bool := false
  dropsReturns : Bool := false
  labels : List String := []
  excluded : List Pattern := []
  /-- The first name that is compared in directories. -/
  firstName : String := ""
  /-- The options as they stand in the headings of files in directories. -/
  given : String := ""

namespace FileComparison

/-! ### Options -/

/-- Reports a wrong use of the command and ends. -/
def refuseUse {α : Type} (text : String) : Work α := do
  misuseNamed text
  leave

/-- The comparison in a style, unless another one has been asked for. -/
def withStyle (comparison : FileComparison) (style : DifferenceStyle) : Work FileComparison := do
  if comparison.style?.any (· != style) then refuseUse "conflicting output style options"
  return { comparison with style? := some style }

/-- The comparison with lines around changes. -/
def withAround (comparison : FileComparison) (style : DifferenceStyle) (text? : Option String) :
    Work FileComparison := do
  let around ←
    match text? with
    | none => pure 3
    | some text =>
        match text.toNat? with
        | some around => pure around
        | none => refuseUse ("invalid context length '" ++ text ++ "'")
  let comparison ← comparison.withStyle style
  return { comparison with
    around? := some (max around (comparison.around?.getD 0))
    isExplicit := comparison.isExplicit || text?.isSome }

/-- An expression that is given as an option. -/
def expressionOf (text : String) : Work Regex := do
  match Regex.parse false (decode text) with
  | .ok expression => return expression
  | .error defect => refuse 2 (text ++ ": " ++ defect)

/-- The rule for blanks that a letter asks for besides another one. -/
def blanksWith (blanks : BlankRule) (letter : Char) : BlankRule :=
  match letter, blanks with
  | 'w', _ | _, .all => .all
  | 'b', _ | _, .runs => .runs
  | 'E', .exact | 'E', .tabs => .tabs
  | _, _ => .ends

/-- Takes in an option that says how changes are shown. -/
def withFormOption (comparison : FileComparison) (letter : Char) (text : String) :
    Work FileComparison := do
  let form := comparison.form
  let withForm := fun form : DifferenceForm => { comparison with form }
  match letter with
  | 'b' | 'w' | 'E' | 'Z' =>
      return withForm { form with blanks := blanksWith form.blanks letter }
  | 'B' => return withForm { form with ignoresEmpty := true }
  | 'i' => return withForm { form with ignoresCase := true }
  | 'I' => return withForm { form with ignored := form.ignored ++ [← expressionOf text] }
  | 'F' => return withForm { form with headings := form.headings ++ [← expressionOf text] }
  | 't' => return withForm { form with expandsTabs := true }
  | 'T' => return withForm { form with startsWithTab := true }
  | 'ε' => return withForm { form with trimsEmpty := true }
  | 'σ' => return withForm { form with showsCommon := false }
  | 'λ' => return withForm { form with showsCommonOnce := true }
  | 'W' =>
      match text.toNat?.filter (0 < ·) with
      | some width => return withForm { form with width }
      | none => refuseUse ("invalid width '" ++ text ++ "'")
  | 'τ' =>
      match text.toNat?.filter (0 < ·) with
      | some tabWidth => return withForm { form with tabWidth }
      | none => refuseUse ("invalid tabsize '" ++ text ++ "'")
  | _ => return comparison

/-- Takes in an option. -/
def withOption (comparison : FileComparison) (before? : Option Char) (letter : Char)
    (text : String) : Work FileComparison := do
  match letter with
  | 'c' => comparison.withAround .paired none
  | 'C' => comparison.withAround .paired (some text)
  | 'γ' => comparison.withAround .paired (if text.isEmpty then none else some text)
  | 'u' => comparison.withAround .joined none
  | 'U' => comparison.withAround .joined (some text)
  | 'υ' => comparison.withAround .joined (if text.isEmpty then none else some text)
  | 'e' => comparison.withStyle .commands
  | 'f' => comparison.withStyle .forwardCommands
  | 'n' => comparison.withStyle .counted
  | 'y' => comparison.withStyle .columns
  | 'ν' => comparison.withStyle .plain
  | 'D' => comparison.withStyle (.guarded text)
  | 'p' =>
      let form := comparison.form
      let heading ← expressionOf "^[[:alpha:]$_]"
      return { comparison with form := { form with headings := form.headings ++ [heading] } }
  | 'q' => return { comparison with isBrief := true }
  | 's' => return { comparison with reportsSame := true }
  | 'r' => return { comparison with recurses := true }
  | 'N' => return { comparison with startsEmpty := true }
  | 'P' => return { comparison with startsFirstEmpty := true }
  | 'a' => return { comparison with isText := true }
  | 'd' => return { comparison with isLeast := true }
  | 'ρ' => return { comparison with dropsReturns := true }
  | 'L' =>
      if comparison.labels.length = 2 then refuse 2 "too many file label options"
      else return { comparison with labels := comparison.labels ++ [text] }
  | 'S' => return { comparison with firstName := text }
  | 'x' =>
      return { comparison with excluded := comparison.excluded ++ [Pattern.ofText true text] }
  | 'X' =>
      match ← readOperand text with
      | .error fault => refuse 2 (text ++ ": " ++ faultText fault)
      | .ok octets =>
          let patterns := ((linesOf octets).filter (· != "")).map (Pattern.ofText true)
          return { comparison with excluded := comparison.excluded ++ patterns }
  | 'η' =>
      match text.toNat? with
      | some horizon => return { comparison with horizon := max horizon comparison.horizon }
      | none => refuseUse ("invalid horizon length '" ++ text ++ "'")
  | letter =>
      if letter.isDigit then
        let digit := letter.toNat - '0'.toNat
        let start := if before?.any Char.isDigit then comparison.digits?.getD 0 else 0
        return { comparison with digits? := some (start * 10 + digit) }
      else comparison.withFormOption letter text

/-- The comparison that options ask for. -/
def ofLetters : Option Char → List (Char × String) → FileComparison → Work FileComparison
  | _, [], comparison => return comparison
  | before?, (letter, text) :: rest, comparison => do
      ofLetters (some letter) rest (← comparison.withOption before? letter text)

/-- The comparison in its final form: a style is chosen where none is asked for, and the lines
around changes are counted. -/
def completed (comparison : FileComparison) (showsFunctions : Bool) : FileComparison :=
  let style := comparison.style?.getD (if showsFunctions then .paired else .plain)
  let usual := comparison.around?.getD 3
  let around :=
    match comparison.digits?, comparison.around? with
    | some digits, none => digits
    | some digits, some around =>
        if around < digits || !comparison.isExplicit then digits else around
    | none, _ => usual
  let isAround := style == .paired || style == .joined
  { comparison with
    form := { comparison.form with style, around }
    horizon := if isAround then max comparison.horizon around else comparison.horizon }

/-! ### Files -/

/-- A file that is compared: its name and what is known of it, or nothing if it is not there and
counts as empty. -/
structure Side where
  name : String
  status? : Option FileStatus

def Side.isDirectory (side : Side) : Bool :=
  side.status?.any fun status => status.kind == .directory

/-- What is known of a file; a dash stands for the input. -/
def statusOf (name : String) : Work (Except FileFault FileStatus) :=
  Course.ask fun machine =>
    if name = "-" then
      match machine.descriptorStatus? 0 with
      | some status => .ok status
      | none => .error .badDescriptor
    else machine.status true name

/-- The names of two files in messages. -/
def titles (comparison : FileComparison) (first second : Side) : String × String :=
  (comparison.labels.headD first.name, comparison.labels.getD 1 second.name)

/-- The heading for two files: how they were compared, if they are in directories, and their names
with the times of their last changes, if lines around changes are shown. -/
def heading (comparison : FileComparison) (isBelow : Bool) (first second : Side) : String :=
  let command :=
    if isBelow then
      "diff" ++ comparison.given ++ " " ++ first.name ++ " " ++ second.name ++ "\n"
    else ""
  let (firstLabel?, secondLabel?) := (comparison.labels.head?, comparison.labels[1]?)
  let labelled := fun (mark : String) (label? : Option String) (side : Side) =>
    mark ++ " " ++
      (match label? with
        | some label => label
        | none =>
            side.name ++ "\t" ++
              fullTime ((side.status?.map fun status => status.node.modified).getD 0)) ++ "\n"
  command ++
    match comparison.form.style with
    | .paired => labelled "***" firstLabel? first ++ labelled "---" secondLabel? second
    | .joined => labelled "---" firstLabel? first ++ labelled "+++" secondLabel? second
    | _ => ""

/-- Whether bytes are not those of a text. -/
def isBinary (octets : String) : Bool :=
  (octets.toList.take 4096).contains '\x00'

/-- Whether nothing is shown for files that are the same. -/
def isQuietOnSame (comparison : FileComparison) : Bool :=
  match comparison.form.style with
  | .guarded _ => false
  | .columns => !comparison.form.showsCommon
  | _ => true

/-- Shows how the contents of two files differ. Returns whether they do, or that there was
trouble. -/
def compareTexts (comparison : FileComparison) (isBelow : Bool) (first second : Side)
    (left right : String) : Work Nat := do
  let (firstTitle, secondTitle) := comparison.titles first second
  if !comparison.isText && (isBinary left || isBinary right) then
    if left == right then return 0
    put ((if comparison.isBrief then "Files " else "Binary files ") ++ firstTitle ++ " and " ++
      secondTitle ++ " differ\n")
    return 1
  else
    let form := comparison.form
    let linesIn := fun octets : String =>
      endedLines (if comparison.dropsReturns then octets.replace "\r\n" "\n" else octets)
    let old := linesIn left
    let fresh := linesIn right
    let withEnd := fun text : String => if text.endsWith "\n" then text else text ++ "\n"
    let plain := fun lines : List String =>
      if form.style.showsEnds then lines else lines.map withEnd
    let hasEnd := fun lines : List String => lines.getLast?.all fun text => text.endsWith "\n"
    let search : ChangeSearch :=
      { horizon := comparison.horizon, isLeast := comparison.isLeast
        dropsEnd := !form.style.showsEnds || hasEnd old == hasEnd fresh }
    let changes :=
      search.changes (plain old) (plain fresh) (old.map form.key) (fresh.map form.key)
    let lines : ComparedLines := { first := old.toArray, second := fresh.toArray }
    let differs := changes.any fun change => !form.ignores lines change
    let status := differs.toNat
    if comparison.isBrief then
      if differs then
        put ("Files " ++ firstTitle ++ " and " ++ secondTitle ++ " differ\n")
    else if differs || !comparison.isQuietOnSame then
      put (form.text (comparison.heading isBelow first second) lines changes)
    if form.style.showsEnds then return status
    else
      let open1 := [(firstTitle, old), (secondTitle, fresh)].filter fun entry => !hasEnd entry.2
      for (title, _) in open1 do
        remark (title ++ ": No newline at end of file\n")
      return if open1.isEmpty then status else 2

/-- The bytes of a file, of which there are none if it is not there. -/
def contentOf (side : Side) : Work (Except FileFault String) :=
  if side.status?.isSome then readOperand side.name else return .ok ""

/-- Whether two files are one. -/
def isOne (first second : Side) : Bool :=
  match first.status?, second.status? with
  | some first, some second => first.number == second.number && first.kind == second.kind
  | _, _ => false

/-- Shows how two files differ that are no directories. -/
def compareFiles (comparison : FileComparison) (isBelow : Bool) (first second : Side) :
    Work Nat := do
  let isSame := isOne first second
  let left ← contentOf first
  let right ← if isSame then pure left else contentOf second
  match left, right with
  | .ok left, .ok right => comparison.compareTexts isBelow first second left right
  | left, right => do
      for (name, content) in [(first.name, left), (second.name, right)] do
        if let .error fault := content then remark (name ++ ": " ++ faultText fault)
      return 2

/-! ### Directories -/

/-- The names in a directory that are compared, in order. -/
def namesIn (comparison : FileComparison) (side : Side) : List String :=
  let names :=
    match side.status?.map fun status => status.node.body with
    | some (.directory _ names) => names.map Prod.fst
    | _ => []
  let kept := names.filter fun name =>
    comparison.firstName ≤ name &&
      !(comparison.excluded.any fun pattern => pattern.fitsText name.toList)
  kept.mergeSort fun first second => first ≤ second

/-- Two lists in order, with names that are in both of them side by side. -/
def pairedNames : Nat → List String → List String → List (Option String × Option String)
  | 0, _, _ => []
  | fuel + 1, first :: firsts, second :: seconds =>
      if first = second then (some first, some second) :: pairedNames fuel firsts seconds
      else if first < second then (some first, none) :: pairedNames fuel firsts (second :: seconds)
      else (none, some second) :: pairedNames fuel (first :: firsts) seconds
  | _, firsts, [] => firsts.map fun first => (some first, none)
  | _, [], seconds => seconds.map fun second => (none, some second)

/-- Says that two files are of kinds that are not compared. -/
def reportKinds (comparison : FileComparison) (first second : Side) : Work Unit := do
  let (firstTitle, secondTitle) := comparison.titles first second
  let kind := fun side : Side => (side.status?.map kindText).getD "regular file"
  put ("File " ++ firstTitle ++ " is a " ++ kind first ++ " while file " ++ secondTitle ++
    " is a " ++ kind second ++ "\n")

/-- Compares two files or directories. Those that are in directories are compared as they are asked
for; others go by what they are. -/
def compareSides (comparison : FileComparison) : Nat → Bool → Side → Side → Work Nat
  | 0, _, _, _ => return 2
  | fuel + 1, isBelow, first, second => do
      let isRegular := fun side : Side =>
        side.status?.all fun status => status.kind == .regular
      let status : Nat ←
        if isOne first second && comparison.isQuietOnSame then pure 0
        else if first.isDirectory && second.isDirectory ||
            (first.isDirectory && second.status?.isNone ||
              second.isDirectory && first.status?.isNone) && comparison.recurses then
          if isBelow && !comparison.recurses then
            put ("Common subdirectories: " ++ first.name ++ " and " ++ second.name ++ "\n")
            pure 0
          else do
            let firsts := comparison.namesIn first
            let seconds := comparison.namesIn second
            let pairs := pairedNames (firsts.length + seconds.length + 1) firsts seconds
            let mut worst := 0
            for (first?, second?) in pairs do
              let name := (first?.or second?).getD ""
              let found := fun (side : Side) (name? : Option String) => do
                let path := childPath side.name name
                if name?.isNone then return ({ name := path, status? := none } : Side)
                else return { name := path, status? := (← statusOf path).toOption }
              let isMeant := comparison.startsEmpty || first?.isSome && second?.isSome ||
                comparison.startsFirstEmpty && second?.isSome
              if isMeant then
                let left ← found first first?
                let right ← found second second?
                let isLonely := (left.isDirectory || right.isDirectory) &&
                  (left.status?.isNone || right.status?.isNone) && !comparison.recurses
                if isLonely then
                  let place := if first?.isSome then first.name else second.name
                  put ("Only in " ++ place ++ ": " ++ name ++ "\n")
                  worst := max worst 1
                else worst := max worst (← compareSides comparison fuel true left right)
              else
                let place := if first?.isSome then first.name else second.name
                put ("Only in " ++ place ++ ": " ++ name ++ "\n")
                worst := max worst 1
            pure worst
        else if first.isDirectory || second.isDirectory ||
            isBelow && !(isRegular first && isRegular second) then do
          comparison.reportKinds first second
          pure 1
        else comparison.compareFiles isBelow first second
      if status = 0 && comparison.reportsSame && !first.isDirectory then
        let (firstTitle, secondTitle) := comparison.titles first second
        put ("Files " ++ firstTitle ++ " and " ++ secondTitle ++ " are identical\n")
      return status

/-- Compares two operands. A directory stands for the file in it that has the name of the other
operand. -/
def compareOperands (comparison : FileComparison) (first second : String) : Work Nat := do
  let left ← statusOf first
  let right ← if second = first then pure left else statusOf second
  let isAbsent := fun (mayStart : Bool) (own other : Except FileFault FileStatus) =>
    match own, other with
    | .error .notFound, .ok _ => mayStart
    | _, _ => false
  let firstIsEmpty :=
    isAbsent (comparison.startsEmpty || comparison.startsFirstEmpty) left right
  let secondIsEmpty := isAbsent comparison.startsEmpty right left
  let faults := [(first, left, firstIsEmpty), (second, right, secondIsEmpty)].filterMap
    fun (name, status, isEmpty) =>
      match status with
      | .error fault => if isEmpty then none else some (name, fault)
      | .ok _ => none
  for (name, fault) in faults do remark (name ++ ": " ++ faultText fault)
  unless faults.isEmpty do return 2
  let firstSide : Side := { name := first, status? := left.toOption }
  let secondSide : Side := { name := second, status? := right.toOption }
  let inside := fun (directory file : String) => do
    if file = "-" then refuse 2 "cannot compare '-' to a directory"
    let path := childPath directory (lastName file)
    match ← statusOf path with
    | .ok status => return ({ name := path, status? := some status } : Side)
    | .error fault => refuse 2 (path ++ ": " ++ faultText fault)
  let areBoth := firstSide.status?.isSome && secondSide.status?.isSome
  let firstSide ←
    if areBoth && firstSide.isDirectory && !secondSide.isDirectory then inside first second
    else pure firstSide
  let secondSide ←
    if areBoth && secondSide.isDirectory && !firstSide.isDirectory then inside second first
    else pure secondSide
  comparison.compareSides endlessSteps false firstSide secondSide

/-- The words of a command that are no operands, as they stand in headings. -/
def optionWords (given operands : List String) : String :=
  let rest := operands.reverse.foldl (fun words operand => words.erase operand) given.reverse
  String.join (rest.reverse.map (" " ++ ·))

end FileComparison

def compareNames : LongNames :=
  [("brief", 'q'), ("report-identical-files", 's'), ("ignore-case", 'i'),
    ("ignore-all-space", 'w'), ("ignore-space-change", 'b'), ("ignore-blank-lines", 'B'),
    ("ignore-tab-expansion", 'E'), ("ignore-trailing-space", 'Z'),
    ("ignore-matching-lines", 'I'), ("unified", 'υ'), ("context", 'γ'), ("ed", 'e'),
    ("forward-ed", 'f'), ("rcs", 'n'), ("side-by-side", 'y'), ("normal", 'ν'), ("ifdef", 'D'),
    ("text", 'a'), ("recursive", 'r'), ("new-file", 'N'), ("unidirectional-new-file", 'P'),
    ("label", 'L'), ("width", 'W'), ("left-column", 'λ'), ("suppress-common-lines", 'σ'),
    ("suppress-blank-empty", 'ε'), ("expand-tabs", 't'), ("initial-tab", 'T'), ("tabsize", 'τ'),
    ("minimal", 'd'), ("speed-large-files", 'H'), ("horizon-lines", 'η'),
    ("strip-trailing-cr", 'ρ'), ("show-c-function", 'p'), ("show-function-line", 'F'),
    ("exclude", 'x'), ("exclude-from", 'X'), ("starting-file", 'S'), ("no-dereference", 'δ'),
    ("color", 'κ'), ("paginate", 'l')]

def compareLines (given : List String) : Work Unit := do
  let allowed := "0123456789abBcC:dD:eEfF:hHiI:lL:nNpPqrsS:tTuU:wW:x:X:yZ υ?γ?νλσετ:η:ρδκ?"
  match findOptions allowed.toList compareNames false given with
  | .error defect => misuseNamed defect.message
  | .ok options => do
      let comparison ← FileComparison.ofLetters none options.letters {}
      match options.operands with
      | [first, second] =>
          let given := FileComparison.optionWords given options.operands
          let comparison := { comparison.completed (options.has 'p') with given }
          raiseStatus (← comparison.compareOperands first second)
      | _ :: _ :: extra :: _ => misuseNamed ("extra operand '" ++ extra ++ "'")
      | _ => misuseNamed ("missing operand after '" ++ given.getLastD "diff" ++ "'")

end HingeField.Shell.Utility
