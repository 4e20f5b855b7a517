import HingeField.Shell.Utility.Criterion
import HingeField.Shell.Utility.Launch
import HingeField.Shell.Utility.Properties

/-!
The search for files: an expression is tried on each path below some starts, and
says what is done with it.
-/

namespace HingeField.Shell.Utility

/-- A path that an expression is tried on. -/
structure Candidate where
  path : String
  /-- The start below which the path has been found. -/
  start : String
  depth : Nat
  /-- What is known of the file; of a link itself, unless links are followed. -/
  status : FileStatus

/-- How a search has gone so far. -/
structure Search where
  /-- Whether what lies below the path is left out. -/
  isPruned : Bool := false
  isDone : Bool := false
  /-- The paths that commands are still to be run on, each with its command. -/
  kept : List (Errand × List String) := []

abbrev Searching := StateT Search Work

namespace Candidate

/-- The last name of the path. -/
def name (candidate : Candidate) : String :=
  lastName candidate.path

/-- The path of the directory that the last name stands in. -/
def directory (candidate : Candidate) : String :=
  let path := candidate.path.toList.reverse.dropWhile (· == '/')
  let stem := path.dropWhile (· != '/')
  if stem.isEmpty then if candidate.path.startsWith "/" then "" else "."
  else
    let kept := stem.dropWhile (· == '/')
    if kept.isEmpty then "" else String.ofList kept.reverse

/-- The path from the start on. -/
def below (candidate : Candidate) : String :=
  if candidate.depth = 0 then ""
  else
    let rest := (candidate.path.drop candidate.start.length).toString
    (rest.dropWhile (· == '/')).toString

end Candidate

/-- A letter for the type of a file. -/
def typeLetter (status : FileStatus) : Char :=
  match status.kind with
  | .regular => 'f'
  | kind => kindLetter kind

/-- A text behind as many blanks as a width leaves. -/
def alignedRight (width : Nat) (text : String) : String :=
  String.ofList (List.replicate (width - text.length) ' ') ++ text

/-- Whether a name fits a pattern; without regard to case, if that is asked for. -/
def fitsPattern (pattern : Pattern) (ignoresCase : Bool) (name : String) : Bool :=
  if ignoresCase then
    Pattern.fitsText (pattern.map fun (c, isActive) => (c.toLower, isActive))
      (name.toList.map Char.toLower)
  else pattern.fitsText name.toList

/-- How a regular expression is matched against a path. -/
def pathMatching (ignoresCase : Bool) (path : String) : Matching :=
  { text := path.toList.toArray, ignoresCase }

/-- What a directive for a path stands for. -/
def pathText (machine : Machine) (candidate : Candidate) (fitting : Fitting) (letter : Char) :
    Option String :=
  let status := candidate.status
  let node := status.node
  let text := fitting.text
  match letter with
  | 'p' => some (text candidate.path)
  | 'f' => some (text candidate.name)
  | 'h' => some (text candidate.directory)
  | 'P' => some (text candidate.below)
  | 'H' => some (text candidate.start)
  | 'd' => some (fitting.nat candidate.depth)
  | 's' => some (text (toString node.size))
  | 'k' => some (text (toString (allotted status / 1024)))
  | 'b' => some (text (toString (allotted status / 512)))
  | 'm' => some (fitting.number "" (Permission.digitsOf 1 node.mode))
  | 'M' => some (text (modeText status))
  | 'y' => some (text (String.singleton (typeLetter status)))
  | 'Y' =>
      some <| text <|
        match machine.status true candidate.path with
        | .ok status => String.singleton (typeLetter status)
        | .error .tooManyLinks => "L"
        | .error _ => "N"
  | 'l' => some (text ((goalOf? status).getD ""))
  | 'u' => some (text (ownerText false node.owner))
  | 'U' => some (text (toString node.owner))
  | 'g' => some (text (ownerText false node.group))
  | 'G' => some (text (toString node.group))
  | 'n' => some (text (toString node.links))
  | 'i' => some (text (toString (1000 + status.number)))
  | 'D' => some (text "50")
  | 'F' => some (text "overlay")
  | 't' => some (text (timeText node.modified "%a %b %e %H:%M:%S.%N0 %Y"))
  | 'a' => some (text (timeText node.accessed "%a %b %e %H:%M:%S.%N0 %Y"))
  | 'c' => some (text (timeText node.changed "%a %b %e %H:%M:%S.%N0 %Y"))
  | _ => none
where
  timeText (time : Int) (format : String) : String :=
    (CalendarTime.ofNanoseconds time).format (format.length + 1) format.toList

/-- What is known of a path, by a format. -/
def pathDescribed (machine : Machine) (candidate : Candidate) : Nat → List Char → String
  | 0, _ => ""
  | _ + 1, [] => ""
  | _ + 1, '\\' :: 'c' :: _ => ""
  | fuel + 1, '\\' :: c :: rest =>
      let (shown, rest) : String × List Char :=
        match controlOf? c with
        | some control => (String.singleton control, rest)
        | none =>
            if (octalDigit? c).isSome then
              let (c, rest) := readOctal 3 (c :: rest)
              (String.singleton c, rest)
            else ("\\" ++ String.singleton c, rest)
      shown ++ pathDescribed machine candidate fuel rest
  | fuel + 1, '%' :: '%' :: rest => "%" ++ pathDescribed machine candidate fuel rest
  | fuel + 1, '%' :: rest =>
      let flags := rest.takeWhile fun c => "#-+0 ".toList.contains c
      let behind := rest.drop flags.length
      let width := behind.takeWhile Char.isDigit
      let behind := behind.drop width.length
      let (precision?, behind) : Option Nat × List Char :=
        match behind with
        | '.' :: behind =>
            let digits := behind.takeWhile Char.isDigit
            (some ((String.ofList digits).toNat?.getD 0), behind.drop digits.length)
        | behind => (none, behind)
      let fitting : Fitting := { flags, width := (String.ofList width).toNat?.getD 0, precision? }
      match behind with
      | [] => "%"
      | letter :: later =>
          let time? :=
            match letter with
            | 'T' => some candidate.status.node.modified
            | 'A' => some candidate.status.node.accessed
            | 'C' => some candidate.status.node.changed
            | _ => none
          match time?, later with
          | some time, '@' :: later =>
              ({ fitting with precision? := some 9 } : Fitting).seconds time ++ "0" ++
                pathDescribed machine candidate fuel later
          | some time, '+' :: later =>
              fitting.text (pathText.timeText time "%Y-%m-%d+%H:%M:%S.%N0") ++
                pathDescribed machine candidate fuel later
          | some time, 'S' :: later =>
              fitting.text (pathText.timeText time "%S.%N0") ++
                pathDescribed machine candidate fuel later
          | some time, 'T' :: later =>
              fitting.text (pathText.timeText time "%H:%M:%S.%N0") ++
                pathDescribed machine candidate fuel later
          | some time, c :: later =>
              fitting.text (pathText.timeText time (String.ofList ['%', c])) ++
                pathDescribed machine candidate fuel later
          | _, _ =>
              match pathText machine candidate fitting letter with
              | some text => text ++ pathDescribed machine candidate fuel later
              | none => "%" ++ String.singleton letter ++ pathDescribed machine candidate fuel later
  | fuel + 1, c :: rest => String.singleton c ++ pathDescribed machine candidate fuel rest

/-- Whether a path is as a criterion that does nothing demands. -/
def Candidate.isAs (machine : Machine) (candidate : Candidate) : Criterion → Bool
  | .named pattern ignoresCase => fitsPattern pattern ignoresCase candidate.name
  | .withPath pattern ignoresCase => fitsPattern pattern ignoresCase candidate.path
  | .withGoal pattern ignoresCase =>
      (goalOf? candidate.status).any (fitsPattern pattern ignoresCase)
  | .fitting regex ignoresCase =>
      ((pathMatching ignoresCase candidate.path).find? regex 0).isSome
  | .ofType letters isOther =>
      let letter :=
        if isOther then
          match machine.status true candidate.path with
          | .ok status => typeLetter status
          | .error _ => 'l'
        else typeLetter candidate.status
      letters.contains letter
  | .empty =>
      match candidate.status.node.body with
      | .directory _ names => names.isEmpty
      | .regular content => content.isEmpty
      | _ => false
  | .allowed bits =>
      match machine.status true candidate.path with
      | .ok status => status.node.mode &&& bits != 0
      | .error _ => false
  | .ofSize units bound => bound.admits ((candidate.status.node.size + units - 1) / units)
  | .withLinks bound => bound.admits candidate.status.node.links
  | .withNumber bound => bound.admits (1000 + candidate.status.number)
  | .ownedBy bound isGroup =>
      let node := candidate.status.node
      bound.admits (if isGroup then node.group else node.owner)
  | .unowned => candidate.status.node.owner ≠ 0
  | .permitted test bits =>
      let mode := candidate.status.node.mode
      match test with
      | .exactly => mode = bits
      | .allOf => mode &&& bits = bits
      | .anyOf => bits = 0 || mode &&& bits != 0
  | .since time moment => moment < time.of candidate.status.node
  | .daysAgo time bound =>
      let age := Int.fdiv (machine.time - time.of candidate.status.node) (86400 * 1000000000)
      bound.admits age.toNat
  | .minutesAgo time bound =>
      let age := machine.time - time.of candidate.status.node
      let limit : Int := bound.value * 60 * 1000000000
      match bound.order with
      | .gt => limit < age
      | .lt => age < limit
      | .eq => limit - 60 * 1000000000 ≤ age && age < limit
  | .same number => candidate.status.number = number
  | _ => true

section

variable (launch : Launcher)

/-- Runs a command on paths; tells how it has ended, unless it could not be started. -/
def runErrand (errand : Errand) (candidate? : Option Candidate) (words : List String) :
    Work Ending := do
  let place? ←
    match errand.isInPlace, candidate? with
    | true, some candidate =>
        let directory := candidate.directory
        Course.ask fun machine =>
          machine.disk.find? machine.own.here (if directory.isEmpty then "/" else directory)
    | _, _ => pure none
  let arrange := fun process : Process => { process with here := place?.getD process.here }
  runProgram launch (refusalOf (← get).command inCurlyQuotes words) arrange words

/-- Asks whether something is to be done. -/
def isConfirmed (words : List String) (path : String) : Work Bool := do
  putError ("< " ++ words.headD "" ++ " ... " ++ path ++ " > ? ")
  match ← nextLine 0 endlessSteps with
  | .ok (some line) => return line.startsWith "y" || line.startsWith "Y"
  | _ => return false

/-- Writes to a file, or to the output. -/
def putInto (file? : Option String) (octets : String) : Work Unit := do
  match file? with
  | none => put octets
  | some file =>
      let _ ← writeNamed true file octets

/-- Tries an expression on a path; tells whether it holds. -/
def tryPath (candidate : Candidate) : Criterion → Searching Bool
  | .negated criterion => do return !(← tryPath candidate criterion)
  | .both first second => do
      if ← tryPath candidate first then tryPath candidate second else return false
  | .either first second => do
      if ← tryPath candidate first then return true else tryPath candidate second
  | .inTurn first second => do
      let _ ← tryPath candidate first
      tryPath candidate second
  | .print file? ending => do
      putInto file? (candidate.path ++ ending)
      return true
  | .printBy file? format => do
      let text ← (Course.ask fun machine =>
        pathDescribed machine candidate (format.length + 1) format.toList : Work String)
      putInto file? text
      return true
  | .list => do
      let row ← (Course.ask fun machine =>
        let listed : ListedFile :=
          { name := candidate.path, path := candidate.path, status := candidate.status }
        (Listing.longRows {} machine [listed]).headD "" : Work String)
      let status := candidate.status
      put (alignedRight 9 (toString (1000 + status.number)) ++ " " ++
        alignedRight 6 (toString (allotted status / 1024)) ++ " " ++ row ++ "\n")
      return true
  | .delete => do
      if candidate.path == "." then return true
      let isDirectory := candidate.status.kind == .directory
      let removed ← (Course.onDisk fun disk here time =>
        if isDirectory then disk.removeDirectory here candidate.path time
        else disk.unlink here candidate.path time : Work (Except FileFault Unit))
      match removed with
      | .ok () => return true
      | .error fault =>
          warn 1 ("cannot delete " ++ inCurlyQuotes candidate.path ++ ": " ++ faultText fault)
          return false
  | .prune => do
      modify fun search => { search with isPruned := true }
      return true
  | .quit => do
      modify fun search => { search with isDone := true }
      return true
  | .execute errand => do
      let path := if errand.isInPlace then "./" ++ candidate.name else candidate.path
      if errand.isAsked then
        unless ← isConfirmed errand.words path do return false
      let words := errand.words.map fun word => word.replace "\x7b\x7d" path
      let ending ← runErrand launch errand (some candidate) words
      return ending.status = 0
  | .executeAll errand => do
      if errand.isInPlace then
        let ending ← runErrand launch errand (some candidate)
          (errand.words ++ ["./" ++ candidate.name])
        if ending.status ≠ 0 then (Utility.setStatus 1 : Work Unit)
      else
        modify fun search =>
          let own := (search.kept.find? fun entry => entry.1.words == errand.words).map (·.2)
          match own with
          | some _ =>
              { search with
                kept := search.kept.map fun (other, paths) =>
                  if other.words == errand.words then (other, paths ++ [candidate.path])
                  else (other, paths) }
          | none => { search with kept := search.kept ++ [(errand, [candidate.path])] }
      return true
  | criterion => (Course.ask fun machine => candidate.isAs machine criterion : Work Bool)

/-- What is known of a path that is found. -/
def statusAt (follows : Bool) (machine : Machine) (path : String) : Except FileFault FileStatus :=
  match follows, machine.status true path with
  | true, .ok status => .ok status
  | _, _ => machine.status false path

/-- Tries an expression on a path and on what lies below it. -/
def tryBelow (source : FindSource) (criterion : Criterion) (start : String) :
    Nat → Nat → List String → Searching Unit
  | 0, _, _ => pure ()
  | _, _, [] => pure ()
  | fuel + 1, depth, path :: rest => do
      unless (← get).isDone do
        match ← (Course.ask fun machine => statusAt source.follows machine path : Work _) with
        | .error fault => warn 1 (inCurlyQuotes path ++ ": " ++ faultText fault)
        | .ok status =>
            let candidate : Candidate := { path, start, depth, status }
            let goesDeeper := source.most.all fun most => depth < most
            let below ← (Course.ask fun machine =>
              if status.kind == .directory && goesDeeper then
                (namesIn machine.disk status.number).map (childPath path)
              else [] : Work (List String))
            let attempt : Searching Unit := do
              if source.least ≤ depth then
                let _ ← tryPath launch candidate criterion
            if source.isDeepFirst then
              tryBelow source criterion start fuel (depth + 1) below
              unless (← get).isDone do attempt
            else
              attempt
              let isPruned ← modifyGet fun search =>
                (search.isPruned, { search with isPruned := false })
              unless isPruned do tryBelow source criterion start fuel (depth + 1) below
        tryBelow source criterion start fuel depth rest

/-- The options in front of the starts, whether links are followed then, the starts, and the words
of the expression. -/
def splitStarts (operands : List String) : Bool × List String × List String :=
  let leading := operands.takeWhile fun operand =>
    ["-H", "-L", "-P", "-O0", "-O1", "-O2", "-O3"].contains operand
  let operands := operands.drop leading.length
  let operands := if operands.head? == some "--" then operands.drop 1 else operands
  let starts := operands.takeWhile fun operand =>
    !(operand.startsWith "-" && 1 < operand.length) && operand != "!" && operand != "(" &&
      operand != ")" && operand != ","
  let follows := (leading.filter fun option => option == "-L" || option == "-P").getLast? ==
    some "-L"
  (follows, if starts.isEmpty then ["."] else starts, operands.drop starts.length)

/-- Searches for files. -/
def findFiles (operands : List String) : Work Unit := do
  let (follows, starts, words) := splitStarts operands
  let fuel := 8 * words.length + 8
  let outcome : Except String (Criterion × FindSource) ← Course.ask fun machine =>
    let reading : FindReading Criterion := do
      if words.isEmpty then return .always
      let criterion ← FindReading.readTurns machine fuel
      match ← FindReading.next? with
      | none => return criterion
      | some _ => throw "you have too many ')'"
    reading.run { words, follows }
  match outcome with
  | .error text => warn 1 text
  | .ok (criterion, source) =>
      let criterion := if criterion.acts then criterion else .both criterion (.print none "\n")
      for file in criterion.targets do
        let _ ← writeNamed false file ""
      let (_, search) ← StateT.run (do
        for start in starts do
          tryBelow launch source criterion start endlessSteps 0 [start]) ({} : Search)
      for (errand, paths) in search.kept do
        let ending ← runErrand launch errand none (errand.words ++ paths)
        if ending.status ≠ 0 then raiseStatus 1

end

end HingeField.Shell.Utility
