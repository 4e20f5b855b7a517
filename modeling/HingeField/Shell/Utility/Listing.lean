import HingeField.Shell.Names
import HingeField.Shell.Permission
import HingeField.Shell.Utility.Calendar
import HingeField.Shell.Utility.Transfer
import HingeField.Shell.Utility.Version

/-!
The command that lists directories: their names in an order, one a line or in
columns, and on request with what is known of the files.
-/

namespace HingeField.Shell.Utility

/-- A name that is listed, with the path that leads to it and what is there. -/
structure ListedFile where
  name : String
  path : String
  status : FileStatus

/-- What the text of a link is, if the file is one. -/
def goalOf? (status : FileStatus) : Option String :=
  match status.node.body with
  | .link goal => some goal
  | _ => none

/-- The letter for what kind of file there is. -/
def kindLetter : FileKind → Char
  | .directory => 'd'
  | .regular => '-'
  | .link => 'l'
  | .fifo => 'p'
  | .device => 'c'

/-- The kind and the permissions of a file. -/
def modeText (status : FileStatus) : String :=
  String.singleton (kindLetter status.kind) ++ Permission.lettersOf status.node.mode

/-- How many bytes of the disk a file takes up. -/
def allotted (status : FileStatus) : Nat :=
  match status.kind with
  | .directory => 4096
  | .regular => (status.node.size + 4095) / 4096 * 4096
  | _ => 0

/-- A size as a number with a letter for its unit. -/
def scaledText (size : Nat) : String :=
  go 1024 ["K", "M", "G", "T", "P"]
where
  go (unit : Nat) : List String → String
    | [] => toString size
    | letter :: letters =>
        if size < 1024 then toString size
        else
          let tenths := (10 * size + unit - 1) / unit
          if tenths < 100 then toString (tenths / 10) ++ "." ++ toString (tenths % 10) ++ letter
          else if (size + unit - 1) / unit < 1024 || letters.isEmpty then
            toString ((size + unit - 1) / unit) ++ letter
          else go (1024 * unit) letters

/-- The name of a user or a group. -/
def ownerText (isNumeric : Bool) (number : Nat) : String :=
  if number = 0 && !isNumeric then "root" else toString number

namespace Listing

/-! ### Order -/

/-- The extension of a name, with the dot. -/
def extension (name : String) : String :=
  let reversed := name.toList.reverse
  let behind := reversed.takeWhile (· != '.')
  if behind.length = reversed.length then "" else String.ofList ('.' :: behind.reverse)

def compareTexts (first second : String) : Ordering :=
  if first < second then .lt else if second < first then .gt else .eq

/-- How two files are ordered by the last of the letters for an order. -/
def compareBy (letter : Char) (options : Options) (first second : ListedFile) : Ordering :=
  let byName := compareTexts first.name second.name
  let time := fun listed : ListedFile =>
    let node := listed.status.node
    if options.has 'u' then node.accessed else if options.has 'c' then node.changed
    else node.modified
  match letter with
  | 'S' => (compare second.status.node.size first.status.node.size).then byName
  | 't' => (compare (time second) (time first)).then byName
  | 'X' => (compareTexts (extension first.name) (extension second.name)).then byName
  | 'ω' => (compare first.name.length second.name.length).then byName
  | 'v' => (Version.compareNames first.name.toList second.name.toList).then byName
  | _ => byName

/-- The letter for the order that is asked for. -/
def orderLetter (options : Options) : Char :=
  let asked := options.letters.filterMap fun (letter, _) =>
    if "StXvUfω".toList.contains letter then some letter else none
  let usual := if !options.has 'l' && (options.has 'u' || options.has 'c') then 't' else 'n'
  asked.getLast?.getD usual

def sort (options : Options) (files : List ListedFile) : List ListedFile :=
  let letter := orderLetter options
  if letter == 'U' || letter == 'f' then files
  else
    let sorted := files.mergeSort fun first second =>
      compareBy letter options first second != .gt
    let sorted := if options.has 'r' then sorted.reverse else sorted
    if options.has 'π' then
      let (directories, others) :=
        sorted.partition fun listed => listed.status.kind == .directory
      directories ++ others
    else sorted

/-! ### Names -/

/-- A character as an escape, where it cannot be shown. -/
def escapedChar (c : Char) : String :=
  match c with
  | '\\' => "\\\\"
  | '\n' => "\\n"
  | '\t' => "\\t"
  | '\r' => "\\r"
  | ' ' => "\\ "
  | c =>
      if c < ' ' || c == '\x7f' then
        "\\" ++ Permission.digitsOf 3 c.toNat
      else String.singleton c

/-- The last of the letters that options are given by. -/
def lastOf (letters : String) (options : Options) : Option Char :=
  (options.letters.filter fun option => letters.toList.contains option.1).getLast?.map (·.1)

/-- A name as it is listed. -/
def shown (options : Options) (name : String) : String :=
  let escaped := fun name : String => String.join (name.toList.map fun c =>
    if c == '\x22' then "\\\x22" else if c == ' ' then " " else escapedChar c)
  match lastOf "NbQσςχ" options with
  | some 'b' => String.join (name.toList.map escapedChar)
  | some 'Q' => "\x22" ++ escaped name ++ "\x22"
  | some 'χ' => if escaped name == name then name else "\x22" ++ escaped name ++ "\x22"
  | some 'σ' => if needsQuotes false name then inQuotes name else name
  | some 'ς' => inQuotes name
  | _ =>
      if options.has 'q' then
        String.ofList (name.toList.map fun c => if c < ' ' || c == '\x7f' then '?' else c)
      else name

/-- The sign behind a name for what kind of file it is. -/
def signOf (options : Options) (status : FileStatus) : String :=
  match lastOf "Fpφν" options, status.kind with
  | some 'F', .directory | some 'p', .directory | some 'φ', .directory => "/"
  | some 'F', .regular => if status.node.isExecutable then "*" else ""
  | some 'F', .link | some 'φ', .link => "@"
  | some 'F', .fifo | some 'φ', .fifo => "|"
  | _, _ => ""

/-- How much of the disk a file takes up, as it is listed. -/
def allottedText (options : Options) (size : Nat) : String :=
  if options.has 'h' then scaledText size else toString (size / 1024)

/-- What stands in front of a name: a number of the node and what the file takes up. -/
def lead (options : Options) (numberWidth sizeWidth : Nat) (listed : ListedFile) : String :=
  let alignRight := fun (width : Nat) (text : String) =>
    String.ofList (List.replicate (width - text.length) ' ') ++ text ++ " "
  let number :=
    if options.has 'i' then alignRight numberWidth (toString (1000 + listed.status.number)) else ""
  let size :=
    if options.has 's' then alignRight sizeWidth (allottedText options (allotted listed.status))
    else ""
  let context := if options.has 'Z' then "? " else ""
  number ++ size ++ context

/-! ### Rows -/

/-- The time of a file as it is listed: with the time of day if it is not long ago. -/
def timeText (options : Options) (now : Int) (node : Node) : String :=
  let time :=
    if options.has 'u' then node.accessed else if options.has 'c' then node.changed
    else node.modified
  let calendar := CalendarTime.ofNanoseconds time
  let halfYear : Int := 31556952 / 2 * 1000000000
  let format :=
    match (if options.has 'ζ' then some "full-iso" else options.argument? 'y') with
    | some "full-iso" => "%Y-%m-%d %H:%M:%S.%N %z"
    | some "long-iso" => "%Y-%m-%d %H:%M"
    | some "iso" => if now - halfYear < time && time ≤ now then "%m-%d %H:%M" else "%Y-%m-%d "
    | some style =>
        if style.startsWith "+" then (style.drop 1).toString
        else if now - halfYear < time && time ≤ now then "%b %e %H:%M" else "%b %e  %Y"
    | none => if now - halfYear < time && time ≤ now then "%b %e %H:%M" else "%b %e  %Y"
  calendar.format (format.length + 1) format.toList

/-- Rows of cells, each as wide as the widest of its column; the last one is as it is. -/
def aligned (toRight : Nat → Bool) (rows : List (List String)) : List String :=
  let count := (rows.map List.length).foldl max 0
  let widths := (List.range count).map fun column =>
    (rows.map fun row => (row.getD column "").length).foldl max 0
  rows.map fun row =>
    String.intercalate " " <| row.zipIdx.map fun (cell, column) =>
      let fill := String.ofList (List.replicate (widths.getD column 0 - cell.length) ' ')
      if column + 1 = row.length then cell
      else if toRight column then fill ++ cell else cell ++ fill

/-- The rows of a list with all that is known of the files. -/
def longRows (options : Options) (machine : Machine) (files : List ListedFile) : List String :=
  let isNumeric := options.has 'n'
  let numberWidth := (files.map fun listed =>
    (toString (1000 + listed.status.number)).length).foldl max 0
  let sizeWidth := (files.map fun listed =>
    (allottedText options (allotted listed.status)).length).foldl max 0
  let owners := !options.has 'g'
  let groups := !options.has 'o' && !options.has 'G'
  let rows := files.map fun listed =>
    let node := listed.status.node
    let size :=
      match listed.status.kind with
      | .device => "1, 3"
      | _ => if options.has 'h' then scaledText node.size else toString node.size
    let name := shown options listed.name
    let name :=
      match goalOf? listed.status with
      | some goal =>
          let behind := (machine.status? listed.path).map (signOf options)
          name ++ " -> " ++ shown options goal ++ behind.getD ""
      | none => name ++ signOf options listed.status
    [lead options numberWidth sizeWidth listed ++ modeText listed.status, toString node.links] ++
      (if owners then [ownerText isNumeric node.owner] else []) ++
      (if groups then [ownerText isNumeric node.group] else []) ++
      [size, timeText options machine.time node, name]
  let owned := (if owners then 1 else 0) + (if groups then 1 else 0)
  aligned (fun column => column = 1 || column = 2 + owned) rows

/-- The blanks from a column to another one. -/
def indent : Nat → Nat → Nat → String
  | 0, _, _ => ""
  | fuel + 1, start, stop =>
      if stop ≤ start then ""
      else if (start + 1) / 8 < stop / 8 then "\t" ++ indent fuel (start + 8 - start % 8) stop
      else " " ++ indent fuel (start + 1) stop

/-- Names in as many columns as fit. -/
def columned (isAcross : Bool) (width : Nat) (names : List String) : List String :=
  let total := names.length
  let rowsFor := fun columns : Nat => (total + columns - 1) / columns
  let columnOf := fun (columns place : Nat) =>
    if isAcross then place % columns else place / rowsFor columns
  let widthsFor := fun columns : Nat =>
    names.zipIdx.foldl
      (fun (widths : Array Nat) (name, place) =>
        let column := columnOf columns place
        let isLast := column + 1 = columns
        let size := name.length + (if isLast then 0 else 2)
        widths.setIfInBounds column (max (widths.getD column 3) size))
      (Array.replicate columns 3)
  let most := min total (max 1 (width / 3))
  let fitting := (List.range most).reverse.find? fun less =>
    (widthsFor (less + 1)).foldl (· + ·) 0 < width
  let columns := fitting.getD 0 + 1
  let widths := widthsFor columns
  let placed := names.toArray
  (List.range (rowsFor columns)).map fun row =>
    let places :=
      (List.range columns).filterMap fun column =>
        let place := if isAcross then row * columns + column else column * rowsFor columns + row
        if place < total then some (column, place) else none
    let (text, _, _) := places.foldl
      (fun (text, position, start) (column, place) =>
        let name := placed.getD place ""
        (text ++ indent (start - position) position start ++ name, start + name.length,
          start + widths.getD column 0))
      ("", 0, 0)
    text

/-- Names behind one another with commas, on lines of a width. -/
def commaLines (width : Nat) (names : List String) : String :=
  let (text, _) := names.foldl
    (fun (text, position) name =>
      if text.isEmpty then (name, name.length)
      else if position + name.length + 2 < width then
        (text ++ ", " ++ name, position + name.length + 2)
      else (text ++ ",\n" ++ name, name.length))
    (("" : String), 0)
  if text.isEmpty then "" else text ++ "\n"

/-- The letter for how names are laid out. -/
def layoutLetter (options : Options) : Char :=
  let asked := options.letters.filterMap fun (letter, _) =>
    if letter == 'l' || letter == 'g' || letter == 'o' || letter == 'n' || letter == 'ζ' then
      some 'l'
    else if "Cxm1".toList.contains letter then some letter
    else none
  match asked.getLast? with
  | some '1' => if asked.contains 'l' then 'l' else '1'
  | asked? => asked?.getD '1'

/-- Lists files. -/
def putFiles (options : Options) (files : List ListedFile) : Work Unit := do
  let width := ((options.argument? 'w').bind String.toNat?).getD 80
  let numberWidth := (files.map fun listed =>
    (toString (1000 + listed.status.number)).length).foldl max 0
  let sizeWidth := (files.map fun listed =>
    (allottedText options (allotted listed.status)).length).foldl max 0
  let names := files.map fun listed =>
    lead options numberWidth sizeWidth listed ++ shown options listed.name ++
      signOf options listed.status
  match layoutLetter options with
  | 'l' =>
      let rows ← Course.ask fun machine => longRows options machine files
      for row in rows do put (row ++ "\n")
  | 'C' => unless names.isEmpty do for row in columned false width names do put (row ++ "\n")
  | 'x' => unless names.isEmpty do for row in columned true width names do put (row ++ "\n")
  | 'm' => put (commaLines width names)
  | _ => for name in names do put (name ++ (if options.has 'η' then "\x00" else "\n"))

/-! ### Directories -/

/-- Whether a name in a directory is listed. -/
def isListed (options : Options) (name : String) : Bool :=
  let fits := fun (letter : Char) =>
    options.letters.any fun (other, pattern) =>
      other == letter &&
        (!name.startsWith "." || pattern.startsWith ".") &&
        (Pattern.ofText true pattern).fitsText name.toList
  let showsAll := options.has 'a' || options.has 'f' || options.has 'A'
  (showsAll || !name.startsWith ".") && !(options.has 'B' && name.endsWith "~") &&
    !fits 'I' && (showsAll || !fits 'Y')

/-- The files in a directory that are listed. -/
def filesIn (options : Options) (path : String) (machine : Machine) :
    Except FileFault (List ListedFile) := do
  let number ← machine.disk.find true machine.own.here path
  if !machine.disk.isDirectory number then throw .notDirectory
  let names := namesIn machine.disk number
  let names := if options.has 'a' || options.has 'f' then "." :: ".." :: names else names
  let names := names.filter (isListed options)
  return sort options <| names.filterMap fun name =>
    let path := childPath path name
    let status? :=
      match options.has 'L', machine.status true path with
      | true, .ok status => some status
      | _, _ => (machine.status false path).toOption
    status?.map fun status => { name, path, status }

/-- Lists a directory, and those in it if that is asked for. A title stands in front of each of
several ones. -/
def putDirectory (options : Options) : Nat → Bool → Bool → String → Work Unit
  | 0, _, _, _ => pure ()
  | fuel + 1, isTitled, isFirst, path => do
      match ← Course.ask (filesIn options path) with
      | .error fault =>
          warn 2 ("cannot open directory " ++ inQuotes path ++ ": " ++ faultText fault)
      | .ok files => do
          if isTitled then put ((if isFirst then "" else "\n") ++ shown options path ++ ":\n")
          if layoutLetter options == 'l' || options.has 's' then
            let total := (files.map fun listed => allotted listed.status).foldl (· + ·) 0
            put ("total " ++ allottedText options total ++ "\n")
          putFiles options files
          if options.has 'R' then
            for listed in files do
              if listed.status.kind == .directory && listed.name != "." && listed.name != ".." then
                putDirectory options fuel true false listed.path

/-- What is known of the operands: those that are files, and those that are directories whose
content is listed. -/
def operandsOf (options : Options) (names : List String) :
    Work (List ListedFile × List ListedFile) := do
  let mut files : List ListedFile := []
  let mut directories : List ListedFile := []
  let isLong := layoutLetter options == 'l'
  for name in names do
    let found : Except FileFault FileStatus ← Course.ask fun machine =>
      match machine.status true name, machine.status false name with
      | .ok status, .ok own =>
          let isFollowed :=
            options.has 'L' || options.has 'H' ||
              (status.kind == .directory && !isLong && !options.has 'd' &&
                lastOf "Fpφν" options != some 'F')
          .ok (if isFollowed then status else own)
      | _, .ok own => .ok own
      | _, .error fault => .error fault
    match found with
    | .error fault => warn 2 (cannot "access" name ++ ": " ++ faultText fault)
    | .ok status =>
        let listed : ListedFile := { name, path := name, status }
        if status.kind == .directory && !options.has 'd' then
          directories := directories ++ [listed]
        else files := files ++ [listed]
  return (files, directories)

def names : LongNames :=
  [("all", 'a'), ("almost-all", 'A'), ("directory", 'd'), ("recursive", 'R'), ("reverse", 'r'),
    ("classify", 'ε'), ("human-readable", 'h'), ("inode", 'i'), ("size", 's'), ("sort", 'α'),
    ("group-directories-first", 'π'), ("dereference", 'L'), ("numeric-uid-gid", 'n'),
    ("no-group", 'G'), ("literal", 'N'), ("quote-name", 'Q'), ("escape", 'b'), ("author", 'ο'),
    ("hide-control-chars", 'q'), ("time-style", 'y'), ("full-time", 'ζ'), ("ignore", 'I'),
    ("hide", 'Y'), ("width", 'w'), ("zero", 'η'), ("time", 'β'), ("format", 'γ'),
    ("indicator-style", 'δ'), ("file-type", 'φ'), ("quoting-style", 'κ'), ("color", 'ψ'),
    ("show-control-chars", 'ο'), ("ignore-backups", 'B'), ("kibibytes", 'k'), ("tabsize", 'T'),
    ("context", 'Z'), ("dereference-command-line", 'H')]

/-- The words for what long options ask for, each with the letter that asks for the same; words in a
row mean the same. -/
def wordTables : List (Char × String × List (List String × Char)) :=
  [('α', "--sort", [(["none"], 'U'), (["time"], 't'), (["size"], 'S'), (["extension"], 'X'),
      (["version"], 'v'), (["width"], 'ω')]),
    ('β', "--time", [(["atime", "access", "use"], 'u'), (["ctime", "status"], 'c'),
      (["mtime", "modification"], 'μ'), (["birth", "creation"], 'μ')]),
    ('γ', "--format", [(["verbose", "long"], 'l'), (["commas"], 'm'),
      (["horizontal", "across"], 'x'), (["vertical"], 'C'), (["single-column"], '1')]),
    ('δ', "--indicator-style", [(["none"], 'ν'), (["slash"], 'p'), (["file-type"], 'φ'),
      (["classify"], 'F')]),
    ('ε', "--classify", [(["always", "yes", "force"], 'F'), (["never", "no", "none"], 'ν'),
      (["auto", "tty", "if-tty"], 'ν')]),
    ('κ', "--quoting-style", [(["literal"], 'N'), (["shell"], 'σ'), (["shell-always"], 'ς'),
      (["shell-escape"], 'σ'), (["shell-escape-always"], 'ς'), (["c"], 'Q'), (["c-maybe"], 'χ'),
      (["escape"], 'b'), (["locale"], 'ς'), (["clocale"], 'Q')]),
    ('ψ', "--color", [(["always", "yes", "force"], 'ο'), (["never", "no", "none"], 'ο'),
      (["auto", "tty", "if-tty"], 'ο')])]

/-- Options with letters in the place of words; a word that means nothing is refused. -/
def withoutWords (options : Options) : Work Options := do
  let letters ← options.letters.mapM fun (letter, word) => do
    match wordTables.lookup letter with
    | none => return (letter, word)
    | some (name, table) =>
        let isMeant := fun entry : List String × Char =>
          word.isEmpty || entry.1.contains word || entry.1.any fun other => other.startsWith word
        let named := table.find? fun entry => entry.1.contains word
        match named.or (table.find? isMeant) with
        | some (_, letter) => return (letter, "")
        | none =>
            misuseWord 2 word name (table.map (·.1))
            leave
  return { options with letters }

/-- Refuses sizes that are no numbers. -/
def checkSizes (options : Options) : Work Unit := do
  for (letter, phrase) in [('w', "line width"), ('T', "tab size")] do
    for (_, text) in options.letters.filter fun option => option.1 == letter do
      if text.toNat?.isNone then refuse 2 ("invalid " ++ phrase ++ ": " ++ inCurlyQuotes text)

end Listing

def listFiles (operands : List String) : Work Unit :=
  let letters := "1aAdRrpFfStUXvlhinsgoGHLNQbqmxCBkucI:w:DT:Z y:Y:α:β:γ:δ:ε?ζηκ:οπφψ?"
  withOptions letters Listing.names 2 operands fun options => do
    let options ← Listing.withoutWords options
    Listing.checkSizes options
    let operands := if options.operands.isEmpty then ["."] else options.operands
    let (files, directories) ← Listing.operandsOf options operands
    let files := Listing.sort options files
    let directories := Listing.sort options directories
    Listing.putFiles options files
    let isTitled := 1 < operands.length || options.has 'R'
    for (listed, place) in directories.zipIdx do
      Listing.putDirectory options Transfer.deepest isTitled (place = 0 && files.isEmpty)
        listed.path

end HingeField.Shell.Utility
