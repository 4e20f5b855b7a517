import HingeField.Shell.Conversion
import HingeField.Shell.Pattern
import HingeField.Shell.Permission
import HingeField.Shell.Utility.Calendar
import HingeField.Shell.Utility.Listing
import HingeField.Shell.Utility.Expression

/-!
What the search for files tries on paths: expressions of tests and deeds, as they
are read from words.
-/

namespace HingeField.Shell.Utility

/-- A number that a property is less than, equal to or more than. -/
structure Bound where
  order : Ordering
  value : Nat

def Bound.admits (bound : Bound) (value : Nat) : Bool :=
  compare value bound.value == bound.order

/-- The times that are known of a file. -/
inductive FileTime where
  | accessed
  | changed
  | modified
deriving DecidableEq

def FileTime.of (time : FileTime) (node : Node) : Int :=
  match time with
  | .accessed => node.accessed
  | .changed => node.changed
  | .modified => node.modified

/-- How asked-for permissions are compared: all equal, all there, or one of them there. -/
inductive PermissionTest where
  | exactly
  | allOf
  | anyOf
deriving DecidableEq

/-- A command that is run on paths. -/
structure Errand where
  words : List String
  /-- Whether the command runs in the directory of the path. -/
  isInPlace : Bool := false
  /-- Whether it is asked first. -/
  isAsked : Bool := false

/-- What a path must be, or what is done with it. -/
inductive Criterion where
  | always
  | named (pattern : Pattern) (ignoresCase : Bool)
  | withPath (pattern : Pattern) (ignoresCase : Bool)
  | withGoal (pattern : Pattern) (ignoresCase : Bool)
  | fitting (regex : Regex) (ignoresCase : Bool)
  | ofType (letters : List Char) (isOther : Bool)
  | empty
  | allowed (bits : Nat)
  | ofSize (units : Nat) (bound : Bound)
  | withLinks (bound : Bound)
  | withNumber (bound : Bound)
  | ownedBy (bound : Bound) (isGroup : Bool)
  | unowned
  | permitted (test : PermissionTest) (bits : Nat)
  | since (time : FileTime) (moment : Int)
  | daysAgo (time : FileTime) (bound : Bound)
  | minutesAgo (time : FileTime) (bound : Bound)
  | same (number : Nat)
  | print (file? : Option String) (ending : String)
  | printBy (file? : Option String) (format : String)
  | list
  | delete
  | prune
  | quit
  | execute (errand : Errand)
  | executeAll (errand : Errand)
  | negated (criterion : Criterion)
  | both (first second : Criterion)
  | either (first second : Criterion)
  | inTurn (first second : Criterion)

/-- Whether something is done with paths, so that they are not just printed. -/
def Criterion.acts : Criterion → Bool
  | .print _ _ | .printBy _ _ | .list | .delete | .execute _ | .executeAll _ => true
  | .negated criterion => criterion.acts
  | .both first second | .either first second | .inTurn first second =>
      first.acts || second.acts
  | _ => false

/-- The files that paths are written to. -/
def Criterion.targets : Criterion → List String
  | .print (some file) _ | .printBy (some file) _ => [file]
  | .negated criterion => criterion.targets
  | .both first second | .either first second | .inTurn first second =>
      first.targets ++ second.targets
  | _ => []

/-- What is left of an expression, and the settings that are read on the way. -/
structure FindSource where
  words : List String
  least : Nat := 0
  most : Option Nat := none
  isDeepFirst : Bool := false
  follows : Bool := false
  /-- The kind of regular expressions that is read. -/
  syntaxName : String := "findutils-default"

abbrev FindReading := StateT FindSource (Except String)

namespace FindReading

def next? : FindReading (Option String) := do
  return (← get).words.head?

def skip : FindReading Unit :=
  modify fun source => { source with words := source.words.drop 1 }

def argumentOf (name : String) : FindReading String := do
  match ← next? with
  | some word =>
      skip
      return word
  | none => throw ("missing argument to \x60" ++ name ++ "'")

def levelOf (name : String) : FindReading Nat := do
  let word ← argumentOf name
  match word.toNat? with
  | some number => return number
  | none =>
      throw ("Expected a positive decimal integer argument to " ++ name ++ ", but got " ++
        inCurlyQuotes word)

/-- The text behind a sign for more or less, and what that sign says. -/
def orderOf (word : String) : Ordering × String :=
  if word.startsWith "+" then (.gt, (word.drop 1).toString)
  else if word.startsWith "-" then (.lt, (word.drop 1).toString)
  else (.eq, word)

def boundOf (name : String) : FindReading Bound := do
  let word ← argumentOf name
  let (order, digits) := orderOf word
  match digits.toNat? with
  | some value => return { order, value }
  | none => throw ("invalid argument \x60" ++ word ++ "' to \x60" ++ name ++ "'")

def sizeOf (name : String) : FindReading Criterion := do
  let word ← argumentOf name
  let (order, text) := orderOf word
  let digits := text.toList.takeWhile Char.isDigit
  let units? : Option Nat :=
    match text.toList.drop digits.length with
    | [] | ['b'] => some 512
    | ['c'] => some 1
    | ['w'] => some 2
    | ['k'] => some 1024
    | ['M'] => some 1048576
    | ['G'] => some 1073741824
    | _ => none
  match units?, (String.ofList digits).toNat? with
  | some units, some value => return .ofSize units { order, value }
  | _, _ => throw ("invalid -size type \x60" ++ String.ofList (text.toList.drop
      (max digits.length (text.length - 1))) ++ "'")

/-- The words of a command up to the sign that ends it. -/
def readCommand (name : String) : FindReading Criterion := do
  let words := (← get).words
  let hole := "\x7b\x7d"
  let isEnd := fun place : Nat =>
    words[place]? == some ";" ||
      (words[place]? == some "+" && 0 < place &&
        (words[place - 1]?).any fun word => word.endsWith hole)
  let errand : Errand :=
    { words := [], isInPlace := name.endsWith "dir", isAsked := name.startsWith "-ok" }
  match (List.range words.length).find? isEnd with
  | none | some 0 => throw ("missing argument to \x60" ++ name ++ "'")
  | some place =>
      modify fun source => { source with words := words.drop (place + 1) }
      let command := words.take place
      if words[place]? == some ";" then return .execute { errand with words := command }
      else if command.getLast? != some hole then
        throw ("In " ++ inCurlyQuotes (name ++ " ... " ++ hole ++ " +") ++ " the " ++
          inCurlyQuotes hole ++ " must appear by itself, but you specified " ++
          inCurlyQuotes (command.getLastD ""))
      else if (command.dropLast.any fun word => (word.splitOn hole).length ≠ 1) then
        throw ("Only one instance of " ++ hole ++ " is supported with " ++ name ++ " ... +")
      else return .executeAll { errand with words := command.dropLast }

/-- The kinds of regular expressions that can be chosen. -/
def syntaxNames : List String :=
  ["findutils-default", "ed", "emacs", "gnu-awk", "grep", "posix-awk", "awk", "posix-basic",
    "posix-egrep", "egrep", "posix-extended", "posix-minimal-basic", "sed"]

/-- An expression in which groups and alternatives are written behind backslashes, but repetitions
are not, as an extended one. -/
def extendedText : List Char → List Char
  | '\\' :: c :: rest =>
      if "()|".toList.contains c then c :: extendedText rest
      else '\\' :: c :: extendedText rest
  | '[' :: rest => '[' :: extendedText rest
  | c :: rest =>
      if "()|\x7b\x7d".toList.contains c then '\\' :: c :: extendedText rest
      else c :: extendedText rest
  | [] => []

/-- An expression that has to fit a whole path. -/
def wholeRegex (name text : String) : Except String Regex :=
  if ["findutils-default", "emacs"].contains name then
    Regex.parse true ("^(" ++ String.ofList (extendedText text.toList) ++ ")$")
  else if ["ed", "grep", "posix-basic", "posix-minimal-basic", "sed"].contains name then
    Regex.parse false ("^\\(" ++ text ++ "\\)$")
  else Regex.parse true ("^(" ++ text ++ ")$")

def patternOf (name : String) : FindReading Pattern := do
  return Pattern.ofText true (← argumentOf name)

/-- The letters for types, which commas separate. -/
def typesOf (name : String) : FindReading (List Char) := do
  let text ← argumentOf name
  let pieces := text.splitOn ","
  match text.toList.find? fun c => !"bcdpflsD,".toList.contains c with
  | some c => throw ("Unknown argument to " ++ name ++ ": " ++ String.singleton c)
  | none =>
      if pieces.any fun piece => 1 < piece.length then
        throw ("Must separate multiple arguments to " ++ name ++ " using: ','")
      else return pieces.flatMap String.toList

/-- The node of a file that others are compared with. -/
def fileNamed (machine : Machine) (name : String) : FindReading FileStatus := do
  match machine.status true name with
  | .ok status => return status
  | .error fault => throw (inCurlyQuotes name ++ ": " ++ faultText fault)

def ownerOf (name : String) : FindReading Bound := do
  let word ← argumentOf name
  let (order, digits) := orderOf word
  match word, digits.toNat? with
  | "root", _ => return { order := .eq, value := 0 }
  | _, some value => return { order, value }
  | _, none =>
      let kind := if name = "-group" then " is not the name of an existing group"
        else " is not the name of a known user"
      throw (inCurlyQuotes word ++ kind)

def permissionOf : FindReading Criterion := do
  let word ← argumentOf "-perm"
  let (test, text) : PermissionTest × String :=
    if word.startsWith "-" then (.allOf, (word.drop 1).toString)
    else if word.startsWith "/" then (.anyOf, (word.drop 1).toString)
    else (.exactly, word)
  match Permission.changes? text with
  | some changes => return .permitted test (Permission.apply changes 0 false 0)
  | none => throw ("invalid mode " ++ inCurlyQuotes word)

/-- Which time of a file a letter stands for. -/
def fileTime? (letter : Char) : Option FileTime :=
  match letter with
  | 'a' => some .accessed
  | 'c' => some .changed
  | 'm' => some .modified
  | _ => none

/-- A comparison of times by its letters. -/
def readSince (machine : Machine) (word : String) : FindReading Criterion := do
  match (word.drop 6).toString.toList with
  | [own, other] =>
      match fileTime? own, fileTime? other with
      | some time, some reference =>
          let status ← fileNamed machine (← argumentOf word)
          return .since time (reference.of status.node)
      | some time, none =>
          unless other == 't' do throw ("invalid predicate \x60" ++ word ++ "'")
          let text ← argumentOf word
          match CalendarTime.read? machine.time text with
          | some moment => return .since time moment
          | none =>
              throw ("I cannot figure out how to interpret " ++ inCurlyQuotes text ++
                " as a date or time")
      | none, _ => throw ("invalid predicate \x60" ++ word ++ "'")
  | _ => throw ("invalid predicate \x60" ++ word ++ "'")

def setLevels (change : FindSource → FindSource) : FindReading Criterion := do
  modify change
  return .always

def readTest (machine : Machine) (previous? : Option String) (word : String) :
    FindReading Criterion := do
  match word with
  | "-name" => return .named (← patternOf word) false
  | "-iname" => return .named (← patternOf word) true
  | "-path" | "-wholename" => return .withPath (← patternOf word) false
  | "-ipath" | "-iwholename" => return .withPath (← patternOf word) true
  | "-lname" => return .withGoal (← patternOf word) false
  | "-ilname" => return .withGoal (← patternOf word) true
  | "-regex" | "-iregex" =>
      let text ← argumentOf word
      match wholeRegex (← get).syntaxName text with
      | .ok regex => return .fitting regex (word = "-iregex")
      | .error defect => throw ("failed to compile regular expression '" ++ text ++ "': " ++ defect)
  | "-regextype" =>
      let name ← argumentOf word
      unless syntaxNames.contains name do
        throw ("Unknown regular expression type " ++ inCurlyQuotes name ++ "; valid types are " ++
          String.intercalate ", " (syntaxNames.map inCurlyQuotes) ++ ".")
      setLevels fun source => { source with syntaxName := name }
  | "-type" => return .ofType (← typesOf word) false
  | "-xtype" => return .ofType (← typesOf word) true
  | "-empty" => return .empty
  | "-executable" => return .allowed 0o111
  | "-readable" | "-writable" => return .always
  | "-size" => sizeOf word
  | "-links" => return .withLinks (← boundOf word)
  | "-inum" => return .withNumber (← boundOf word)
  | "-user" => return .ownedBy (← ownerOf word) false
  | "-group" => return .ownedBy (← ownerOf word) true
  | "-uid" => return .ownedBy (← boundOf word) false
  | "-gid" => return .ownedBy (← boundOf word) true
  | "-nouser" | "-nogroup" => return .unowned
  | "-perm" => permissionOf
  | "-samefile" => return .same (← fileNamed machine (← argumentOf word)).number
  | "-newer" => return .since .modified (← fileNamed machine (← argumentOf word)).node.modified
  | "-anewer" => return .since .accessed (← fileNamed machine (← argumentOf word)).node.modified
  | "-cnewer" => return .since .changed (← fileNamed machine (← argumentOf word)).node.modified
  | "-mtime" => return .daysAgo .modified (← boundOf word)
  | "-atime" => return .daysAgo .accessed (← boundOf word)
  | "-ctime" => return .daysAgo .changed (← boundOf word)
  | "-mmin" => return .minutesAgo .modified (← boundOf word)
  | "-amin" => return .minutesAgo .accessed (← boundOf word)
  | "-cmin" => return .minutesAgo .changed (← boundOf word)
  | "-print" => return .print none "\n"
  | "-print0" => return .print none "\x00"
  | "-printf" => return .printBy none (← argumentOf word)
  | "-fprint" => return .print (some (← argumentOf word)) "\n"
  | "-fprint0" => return .print (some (← argumentOf word)) "\x00"
  | "-fprintf" =>
      let file ← argumentOf word
      return .printBy (some file) (← argumentOf word)
  | "-ls" => return .list
  | "-delete" =>
      modify fun source => { source with isDeepFirst := true }
      return .delete
  | "-prune" => return .prune
  | "-quit" => return .quit
  | "-exec" | "-execdir" | "-ok" | "-okdir" => readCommand word
  | "-true" => return .always
  | "-false" => return .negated .always
  | "-maxdepth" =>
      let number ← levelOf word
      setLevels fun source => { source with most := some number }
  | "-mindepth" =>
      let number ← levelOf word
      setLevels fun source => { source with least := number }
  | "-depth" | "-d" => setLevels fun source => { source with isDeepFirst := true }
  | "-follow" => setLevels fun source => { source with follows := true }
  | "-mount" | "-xdev" | "-noleaf" | "-daystart" | "-warn" | "-nowarn"
  | "-ignore_readdir_race" | "-noignore_readdir_race" => return .always
  | word =>
      if word.startsWith "-newer" then readSince machine word
      else if word.startsWith "-" then throw ("unknown predicate \x60" ++ word ++ "'")
      else
        let guess :=
          match previous? with
          | some previous =>
              "\nfind: possible unquoted pattern after predicate \x60" ++ previous ++ "'?"
          | none => ""
        throw ("paths must precede expression: \x60" ++ word ++ "'" ++ guess)

mutual

/-- Reads expressions that commas separate. -/
def readTurns (machine : Machine) : Nat → FindReading Criterion
  | 0 => return .always
  | fuel + 1 => do
      let first ← readEither machine fuel
      match ← next? with
      | some "," =>
          skip
          return .inTurn first (← readTurns machine fuel)
      | _ => return first

def readEither (machine : Machine) : Nat → FindReading Criterion
  | 0 => return .always
  | fuel + 1 => do
      let first ← readBoth machine fuel
      match ← next? with
      | some "-o" | some "-or" =>
          let sign := (← next?).getD ""
          skip
          if (← next?).isNone then throw ("expected an expression after '" ++ sign ++ "'")
          return .either first (← readEither machine fuel)
      | _ => return first

def readBoth (machine : Machine) : Nat → FindReading Criterion
  | 0 => return .always
  | fuel + 1 => do
      let first ← readOne machine fuel
      match ← next? with
      | none => return first
      | some "-o" | some "-or" | some ")" | some "," => return first
      | some "-a" | some "-and" =>
          let sign := (← next?).getD ""
          skip
          if (← next?).isNone then throw ("expected an expression after '" ++ sign ++ "'")
          return .both first (← readBoth machine fuel)
      | some _ => return .both first (← readBoth machine fuel)

def readOne (machine : Machine) : Nat → FindReading Criterion
  | 0 => return .always
  | fuel + 1 => do
      match ← next? with
      | none => return .always
      | some "!" | some "-not" =>
          let sign := (← next?).getD ""
          skip
          if (← next?).isNone then throw ("expected an expression after '" ++ sign ++ "'")
          return .negated (← readOne machine fuel)
      | some "(" =>
          skip
          if (← next?) == some ")" then
            throw "invalid expression; empty parentheses are not allowed."
          let inside ← readTurns machine fuel
          unless (← next?) == some ")" do
            throw ("invalid expression; I was expecting to find a ')' somewhere but did not see " ++
              "one.")
          skip
          return inside
      | some ")" => throw "you have too many ')'"
      | some word =>
          if ["-o", "-or", "-a", "-and", ","].contains word then
            throw ("invalid expression; you have used a binary operator '" ++ word ++
              "' with nothing before it.")
          let before := (← get).words
          skip
          let criterion ← readTest machine none word
          let after ← next?
          let isStray := after.any fun word =>
            !(word.startsWith "-" || ["!", "(", ")", ","].contains word)
          if isStray then
            let guess? := if before.length - (← get).words.length = 2 then some word else none
            let _ ← readTest machine (if (after.getD "").isEmpty then none else guess?)
              (after.getD "")
          return criterion

end

end FindReading

end HingeField.Shell.Utility
