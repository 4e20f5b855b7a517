import HingeField.Shell.Permission
import HingeField.Shell.Utility.Calendar
import HingeField.Shell.Utility.Transfer

/-!
The commands that make and remove files and directories, and change what is
known of them: their permissions, owners, times and sizes.
-/

namespace HingeField.Shell.Utility

/-- Changes the disk unless the operation is refused, which is reported. Tells whether it was
done. -/
def attempt (phrase : String) (operation : Disk → Nat → Int → Except FileFault Disk) :
    Work Bool := do
  match ← Course.onDisk operation with
  | .ok () => return true
  | .error fault =>
      warn 1 (phrase ++ ": " ++ faultText fault)
      return false

/-- Changes the node that a path leads to. -/
def changeNode (followsLast : Bool) (path : String) (change : Node → Node) (disk : Disk)
    (here : Nat) (_ : Int) : Except FileFault Disk := do
  let number ← disk.find followsLast here path
  return disk.modify number change

/-- The mask for new files. -/
def ownMask : Work Nat :=
  Course.ask fun machine => machine.own.mask

/-! ### Making -/

/-- Refuses a mode that is none. -/
def checkMode (mode? : Option String) : Work Unit := do
  match mode?.filter fun mode => (Permission.changes? mode).isNone with
  | some mode => refuse 1 ("invalid mode " ++ inCurlyQuotes mode)
  | none => pure ()

/-- The names of the directories on the way to a name, the name itself last. -/
def namesOnWay (name : String) : List String :=
  let lead := if name.startsWith "/" then "/" else ""
  let parts := (name.splitOn "/").filter fun part => !part.isEmpty
  (List.range parts.length).map fun count =>
    lead ++ String.intercalate "/" (parts.take (count + 1))

/-- Makes one directory. One that is there already is no fault if it may lie on a way. -/
def makeDirectoryNamed (onWay showsMade : Bool) (mode? : Option String) (name : String) :
    Work Bool := do
  let phrase := "cannot create directory " ++ inCurlyQuotes name
  if onWay && (← Course.ask fun machine => machine.isDirectory name) then return true
  let mask ← ownMask
  let mode := 0o777 - (0o777 &&& mask)
  let mode :=
    match mode?.bind Permission.changes? with
    | some changes => Permission.apply changes mask true 0o777
    | none => mode
  let isMade ← attempt phrase fun disk here time => disk.makeDirectory here name mode time
  if showsMade && isMade then
    put ((← get).command ++ ": created directory " ++ inQuotes name ++ "\n")
  return isMade

/-- Makes a directory and those on the way to it. -/
def makeWay (showsMade : Bool) (mode? : Option String) : List String → Work Unit
  | [] => pure ()
  | name :: rest => do
      let isOther ← Course.ask fun machine =>
        (machine.status? name).any fun status => status.kind != .directory
      if !rest.isEmpty && isOther then
        warn 1 ("cannot create directory " ++ inCurlyQuotes name ++ ": " ++
          faultText .notDirectory)
      else if ← makeDirectoryNamed true showsMade (if rest.isEmpty then mode? else none) name then
        makeWay showsMade mode? rest

def makeDirectories (operands : List String) : Work Unit :=
  withOptions "pm:v" [("parents", 'p'), ("mode", 'm'), ("verbose", 'v')] 1 operands
    fun options => do
    if options.operands.isEmpty then misuse 1 "missing operand"
    else
      let mode? := options.argument? 'm'
      checkMode mode?
      for name in options.operands do
        if options.has 'p' && !name.isEmpty then
          makeWay (options.has 'v') mode? (namesOnWay name)
        else
          let _ ← makeDirectoryNamed false (options.has 'v') mode? name

/-- Makes pipes on the disk. -/
def makeFifos (operands : List String) : Work Unit :=
  withOptions "m:" [("mode", 'm')] 1 operands fun options => do
    if options.operands.isEmpty then misuse 1 "missing operand"
    let isMode := (options.argument? 'm').all fun mode => (Permission.changes? mode).isSome
    unless isMode do refuse 1 "invalid mode"
    for name in options.operands do
      let mask ← ownMask
      let mode :=
        match (options.argument? 'm').bind Permission.changes? with
        | some changes => Permission.apply changes mask false 0o666
        | none => 0o666 - (0o666 &&& mask)
      let pipe ← Course.fromMachine fun machine => machine.makePipe {}
      let _ ← attempt ("cannot create fifo " ++ inQuotes name) fun disk here time => do
        let spot ← disk.walk false here name
        if spot.node?.isSome then throw .alreadyExists
        return (disk.create spot.directory spot.name (.fifo pipe) mode time).2

/-! ### Temporary names -/

/-- The letters that names without a meaning are made of. -/
def nameLetters : List Char :=
  "abcdefghijklmnopqrstuvwxyzABCDEFGHIJKLMNOPQRSTUVWXYZ0123456789".toList

/-- So many letters that are told from a number. -/
def lettersFrom (count seed : Nat) : String :=
  let bytes := Machine.scattered seed count
  String.ofList <| bytes.data.toList.map fun byte =>
    nameLetters.getD (byte.toNat % nameLetters.length) 'x'

/-- Makes a file or a directory with a name that no other one has. -/
def makeTemporary (operands : List String) : Work Unit :=
  withOptions "dqutp: S:"
    [("directory", 'd'), ("quiet", 'q'), ("dry-run", 'u'), ("tmpdir", 'p'), ("suffix", 'S')] 1
    operands fun options => do
    let shape := options.operands.headD "tmp.XXXXXXXXXX"
    match options.operands.drop 1 with
    | _ :: _ =>
        misuse 1 "too many templates"
        leave
    | [] => pure ()
    let suffix := (options.argument? 'S').getD ""
    let base := shape.toList.reverse
    let (behind, rest) :=
      if options.has 'S' then ([], base) else (base.takeWhile (· != 'X'), base.dropWhile (· != 'X'))
    let count := (rest.takeWhile (· == 'X')).length
    if count < 3 then
      warn 1 ("too few X's in template " ++ inCurlyQuotes shape)
      leave
    let stem := String.ofList (rest.drop count).reverse
    let environment := (← get).environment
    let directory? :=
      if options.has 'p' then
        some ((options.argument? 'p').filter (· != "") |>.getD
          ((environment.lookup "TMPDIR").getD "/tmp"))
      else if options.operands.isEmpty || options.has 't' then
        some (((environment.lookup "TMPDIR").filter (· != "")).getD "/tmp")
      else none
    let seed ← Course.ask fun machine => machine.now * 7919 + machine.disk.nodes.size * 104729
    let own := stem ++ lettersFrom count seed ++ String.ofList behind.reverse ++ suffix
    let name :=
      match directory? with
      | some directory => childPath directory own
      | none => own
    let body : Body := if options.has 'd' then .directory 0 [] else .regular .empty
    let kind := if options.has 'd' then "directory" else "file"
    let isMade ←
      if options.has 'u' then pure true
      else
        attempt ("failed to create " ++ kind ++ " via template " ++
            inCurlyQuotes (match directory? with
              | some directory => childPath directory shape
              | none => shape)) fun disk here time => do
          let spot ← disk.walk false here name
          if spot.node?.isSome then throw .alreadyExists
          let mode := if options.has 'd' then 0o700 else 0o600
          let body :=
            match body with
            | .directory _ names => .directory spot.directory names
            | body => body
          return (disk.create spot.directory spot.name body mode time).2
    if isMade then put (line name)

/-! ### Removing -/

/-- The directories above a path, the nearest first. -/
def directoriesAbove : Nat → String → List String
  | 0, _ => []
  | fuel + 1, name =>
      let above := String.ofList <|
        ((name.toList.reverse.dropWhile (· != '/')).dropWhile (· == '/')).reverse
      if above.isEmpty then [] else above :: directoriesAbove fuel above

def removeDirectories (operands : List String) : Work Unit :=
  withOptions "pv" [("parents", 'p'), ("ignore-fail-on-non-empty", 'i'), ("verbose", 'v')] 1
    operands fun options => do
    if options.operands.isEmpty then misuse 1 "missing operand"
    for operand in options.operands do
      let names :=
        operand :: (if options.has 'p' then directoriesAbove operand.length operand else [])
      let mut isGoing := true
      for name in names do
        if isGoing then
          if options.has 'v' then
            put ((← get).command ++ ": removing directory, " ++ inQuotes name ++ "\n")
          let deed := if name == operand then "failed to remove " else
            "failed to remove directory "
          match ← Course.onDisk fun disk here time => disk.removeDirectory here name time with
          | .ok () => pure ()
          | .error fault =>
              isGoing := false
              unless options.has 'i' && fault == .notEmpty do
                warn 1 (deed ++ inQuotes name ++ ": " ++ faultText fault)

/-- When it is asked before something is removed. -/
inductive Asking where
  | never
  | once
  | always
deriving DecidableEq

/-- How files are removed: with what is below them, directories that are empty, without a word of
those that are missing, telling of each, and asking before each. -/
structure Removal where
  isDeep : Bool := false
  takesEmpty : Bool := false
  isForced : Bool := false
  isReported : Bool := false
  asking : Asking := .never

namespace Removal

/-- Says on request what has been removed. -/
def report (removal : Removal) (isDirectory : Bool) (name : String) : Work Unit := do
  if removal.isReported then
    put ("removed " ++ (if isDirectory then "directory " else "") ++ inQuotes name ++ "\n")

/-- Whether something may be removed: it is asked for, if at all, by a question. -/
def allows (removal : Removal) (question : String) : Work Bool :=
  if removal.asking = .always then isGranted question else return true

/-- What a question calls a file. -/
def kindText (status : FileStatus) : String :=
  match status.kind with
  | .directory => "directory"
  | .link => "symbolic link"
  | .fifo => "fifo"
  | .device => "character special file"
  | .regular => if status.node.content.isEmpty then "regular empty file" else "regular file"

/-- Removes a path and everything below it; tells whether it is gone. -/
def removeBranch (removal : Removal) : Nat → String → Work Bool
  | 0, _ => return false
  | fuel + 1, name => do
      match ← Course.ask fun machine => machine.status false name with
      | .error fault =>
          if removal.isForced && (fault == .notFound || fault == .notDirectory) then return true
          warn 1 (cannot "remove" name ++ ": " ++ faultText fault)
          return false
      | .ok status =>
          let question := "remove " ++ kindText status ++ " " ++ inQuotes name
          if status.kind == .directory then
            let children ← Course.ask fun machine => namesIn machine.disk status.number
            let isEmpty := children.isEmpty
            if !isEmpty then
              unless ← removal.allows ("descend into directory " ++ inQuotes name) do return false
            let mut isBare := true
            for child in children do
              let isGone ← removal.removeBranch fuel (childPath name child)
              isBare := isBare && isGone
            unless isBare do return false
            unless ← removal.allows question do return false
            let isGone ← attempt (cannot "remove" name) fun disk here time =>
              disk.removeDirectory here name time
            if isGone then removal.report true name
            return isGone
          else
            unless ← removal.allows question do return false
            let isGone ← attempt (cannot "remove" name) fun disk here time =>
              disk.unlink here name time
            if isGone then removal.report false name
            return isGone

/-- Removes what an operand names. -/
def removeOperand (removal : Removal) (name : String) : Work Unit := do
  let last := lastName name
  match ← Course.ask fun machine => machine.status false name with
  | .ok { kind := .directory, number, .. } =>
      let isEmpty ← Course.ask fun machine => (namesIn machine.disk number).isEmpty
      if removal.isDeep && (last == "." || last == "..") then
        warn 1 ("refusing to remove '.' or '..' directory: skipping " ++ inQuotes name)
      else if removal.isDeep && number = Disk.root then
        warn 1 ("it is dangerous to operate recursively on " ++ inQuotes name)
        remark "use --no-preserve-root to override this failsafe"
      else if removal.isDeep || removal.takesEmpty && isEmpty then
        let _ ← removal.removeBranch Transfer.deepest name
      else
        let fault := if removal.takesEmpty then FileFault.notEmpty else .isDirectory
        warn 1 (cannot "remove" name ++ ": " ++ faultText fault)
  | _ =>
      let _ ← removal.removeBranch 1 name

/-- The removal that options ask for; of those that tell when to ask, the last one counts. -/
def ofOptions (options : Options) : Except String Removal := do
  let removal : Removal :=
    { isDeep := options.has 'r' || options.has 'R'
      takesEmpty := options.has 'd'
      isReported := options.has 'v' }
  options.letters.foldlM (fun removal (letter, argument) =>
    match letter, argument with
    | 'f', _ => return { removal with isForced := true, asking := .never }
    | 'i', _ => return { removal with isForced := false, asking := .always }
    | 'I', _ => return { removal with isForced := false, asking := .once }
    | 'α', "always" | 'α', "yes" | 'α', "" =>
        return { removal with isForced := false, asking := .always }
    | 'α', "once" => return { removal with isForced := false, asking := .once }
    | 'α', "never" | 'α', "no" | 'α', "none" => return { removal with asking := .never }
    | 'α', other => throw other
    | _, _ => return removal) removal

end Removal

def removeFiles (operands : List String) : Work Unit :=
  withOptions "frRivdIα?β"
    [("force", 'f'), ("recursive", 'r'), ("verbose", 'v'), ("dir", 'd'), ("interactive", 'α'),
      ("one-file-system", 'β'), ("no-preserve-root", 'β'), ("preserve-root", 'β')] 1 operands
    fun options => do
    match Removal.ofOptions options with
    | .error word =>
        misuseWord 1 word "--interactive" [["never", "no", "none"], ["once"], ["always", "yes"]]
    | .ok removal =>
        let count := options.operands.length
        if count = 0 && !removal.isForced then misuse 1 "missing operand"
        let isAsked := removal.asking = .once && (removal.isDeep || 3 < count)
        let question := "remove " ++ toString count ++ " argument" ++
          (if count = 1 then "" else "s") ++ (if removal.isDeep then " recursively" else "")
        let isOn ← if isAsked then isGranted question else pure true
        if isOn then
          for name in options.operands do removal.removeOperand name

/-! ### What is known of files -/

/-- The time that is asked for, in nanoseconds. -/
def askedTime (options : Options) : Work (Option (Int × Int)) := do
  let now ← Course.ask Machine.time
  match options.argument? 'r', options.argument? 'd', options.argument? 't' with
  | some name, _, _ =>
      match ← Course.ask fun machine => machine.status true name with
      | .ok { node, .. } => return some (node.accessed, node.modified)
      | .error fault =>
          warn 1 ("failed to get attributes of " ++ inQuotes name ++ ": " ++ faultText fault)
          leave
  | none, some text, _ =>
      match CalendarTime.read? now text with
      | some time => return some (time, time)
      | none =>
          warn 1 ("invalid date format " ++ inCurlyQuotes text)
          leave
  | none, none, some text =>
      match stamp? (CalendarTime.ofNanoseconds now).year text with
      | some time => return some (time, time)
      | none =>
          warn 1 ("invalid date format " ++ inCurlyQuotes text)
          leave
  | none, none, none => return none
where
  /-- A time as digits for month, day, hour and minute, with the year in front or the seconds
  behind. -/
  stamp? (thisYear : Int) (text : String) : Option Int := do
    let digits := (text.splitOn ".").headD ""
    let second ← match text.splitOn "." with
      | [_, second] => second.toNat?
      | _ => some 0
    let number ← digits.toNat?
    let year : Int ← match digits.length with
      | 8 => some thisYear
      | 10 =>
          let short : Nat := number / 100000000
          some (Int.ofNat (if short < 69 then 2000 + short else 1900 + short))
      | 12 => some (Int.ofNat (number / 100000000))
      | _ => none
    let month := number / 1000000 % 100
    let day := number / 10000 % 100
    let hour := number / 100 % 100
    let minute := number % 100
    guard (1 ≤ month && month ≤ 12 && 1 ≤ day && day ≤ CalendarTime.monthLength year month)
    guard (hour < 24 && minute < 60 && second < 61)
    return ({ year, month, day, hour, minute, second } : CalendarTime).toNanoseconds

/-- Gives a node times, those that the options ask for. -/
def withTimes (options : Options) (accessed modified changed : Int) (node : Node) : Node :=
  let isAccess := options.has 'a' || !options.has 'm'
  let isChange := options.has 'm' || !options.has 'a'
  { node with
    accessed := if isAccess then accessed else node.accessed
    modified := if isChange then modified else node.modified
    changed }

def touchFiles (operands : List String) : Work Unit :=
  withOptions "acmfht:d:r:"
    [("no-create", 'c'), ("date", 'd'), ("reference", 'r'), ("no-dereference", 'h')] 1 operands
    fun options => do
    if options.operands.isEmpty then misuse 1 "missing file operand"
    let asked? ← askedTime options
    for name in options.operands do
      let phrase := cannot "touch" name
      let follows := !options.has 'h'
      match ← Course.ask fun machine => machine.status follows name with
      | .ok _ =>
          let now ← Course.ask Machine.time
          let (accessed, modified) := asked?.getD (now, now)
          let _ ← attempt phrase
            (changeNode follows name (withTimes options accessed modified now))
      | .error .notFound =>
          unless options.has 'c' || options.has 'h' do
            match ← Course.openPath { writes := true, creates := true } name with
            | .error .isDirectory => warn 1 (setting name ++ ": " ++ faultText .notFound)
            | .error fault => warn 1 (phrase ++ ": " ++ faultText fault)
            | .ok _ =>
                if let some (accessed, modified) := asked? then
                  let now ← Course.ask Machine.time
                  let _ ← attempt phrase
                    (changeNode true name (withTimes options accessed modified now))
      | .error fault =>
          let isSlashed ← Course.ask fun machine =>
            name.endsWith "/" && (machine.status? (name.dropEnd 1).toString).isSome
          warn 1 ((if isSlashed then setting name else phrase) ++ ": " ++ faultText fault)
where
  setting (name : String) : String :=
    "setting times of " ++ inQuotes name

/-- Whether an operand is a mode that takes permissions away, which looks like an option. -/
def isTakingMode (operand : String) : Bool :=
  match operand.toList with
  | '-' :: rest =>
      !rest.isEmpty && rest.all fun c => "rwxXstugo,=+-".toList.contains c || c.isDigit
  | _ => false

/-- Changes the permissions at a path, and on request below it. -/
def permitBranch (options : Options) (changes : List Permission.Change) :
    Nat → String → Work Unit
  | 0, _ => pure ()
  | fuel + 1, name => do
      match ← Course.ask fun machine => machine.status true name with
      | .error fault =>
          match ← Course.ask fun machine => machine.status false name with
          | .ok _ => warn 1 ("cannot operate on dangling symlink " ++ inQuotes name)
          | .error _ => warn 1 (cannot "access" name ++ ": " ++ faultText fault)
      | .ok { node, number, kind } =>
          let mask ← ownMask
          let mode := Permission.apply changes mask (kind == .directory) node.mode
          let now ← Course.ask Machine.time
          Course.onMachine fun machine =>
            { machine with
              disk := machine.disk.modify number fun node => { node with mode, changed := now } }
          let shown := fun mode : Nat =>
            Permission.digitsOf 4 mode ++ " (" ++ Permission.lettersOf mode ++ ")"
          if options.has 'v' || (options.has 'c' && mode ≠ node.mode) then
            if mode = node.mode then
              put ("mode of " ++ inQuotes name ++ " retained as " ++ shown mode ++ "\n")
            else
              put ("mode of " ++ inQuotes name ++ " changed from " ++ shown node.mode ++ " to " ++
                shown mode ++ "\n")
          if options.has 'R' && kind == .directory then
            for child in ← Course.ask fun machine => namesIn machine.disk number do
              let isLink ← Course.ask fun machine =>
                (machine.status false (childPath name child)).toOption.any fun status =>
                  status.kind == .link
              unless isLink do permitBranch options changes fuel (childPath name child)

def permitFiles (operands : List String) : Work Unit := do
  let modes := operands.filter isTakingMode
  let others := operands.filter fun operand => !isTakingMode operand
  withOptions "Rfvcr:" [("recursive", 'R'), ("verbose", 'v'), ("changes", 'c'), ("silent", 'f'),
      ("quiet", 'f'), ("reference", 'r')] 1 others fun options => do
    match options.argument? 'r', modes ++ options.operands with
    | some reference, names =>
        match ← Course.ask fun machine => machine.status true reference with
        | .error fault =>
            warn 1 ("failed to get attributes of " ++ inQuotes reference ++ ": " ++
              faultText fault)
        | .ok { node, .. } =>
            let changes := (Permission.changes? (Permission.digitsOf 3 node.mode)).getD []
            for name in names do permitBranch options changes Transfer.deepest name
    | none, [] => misuse 1 "missing operand"
    | none, [mode] => misuse 1 ("missing operand after " ++ inCurlyQuotes mode)
    | none, mode :: names =>
        match Permission.changes? mode with
        | none => misuse 1 ("invalid mode: " ++ inCurlyQuotes mode)
        | some changes =>
            for name in names do permitBranch options changes Transfer.deepest name

/-- The number of a user or group, by name or by itself. -/
def ownerNumber? (name : String) : Option Nat :=
  if name = "root" then some 0 else if name = "nobody" || name = "nogroup" then some 65534
  else if name = "daemon" then some 1 else if name = "bin" then some 2
  else name.toNat?

/-- Gives files other owners. -/
def ownFiles (isGroup : Bool) (operands : List String) : Work Unit :=
  withOptions "RfvchHLP" [("recursive", 'R'), ("no-dereference", 'h')] 1 operands
    fun options => do
    match options.operands with
    | [] => misuse 1 "missing operand"
    | [operand] => misuse 1 ("missing operand after " ++ inCurlyQuotes operand)
    | asked :: names =>
        let pieces := asked.splitOn (if asked.contains ':' then ":" else ".")
        let (user, group) :=
          if isGroup then ("", asked) else (pieces.headD "", (pieces[1]?).getD "")
        let kind := if isGroup then "group" else "user"
        if !user.isEmpty && (ownerNumber? user).isNone then
          warn 1 ("invalid " ++ kind ++ ": " ++ inCurlyQuotes asked)
        else if !group.isEmpty && (ownerNumber? group).isNone then
          warn 1 ("invalid group: " ++ inCurlyQuotes asked)
        else
          for name in names do
            let _ ← attempt (cannot "access" name) <| changeNode (!options.has 'h') name
              fun node =>
                { node with
                  owner := (ownerNumber? user).getD node.owner
                  group := (ownerNumber? group).getD node.group }

/-- The factor that a suffix of a size stands for. -/
def sizeFactor? (suffix : List Char) : Option Nat :=
  match suffix with
  | [] => some 1
  | [letter] | [letter, 'i', 'B'] =>
      ("KMGTPE".toList.findIdx? (· == letter.toUpper)).map fun power => Nat.pow 1024 (power + 1)
  | [letter, 'B'] =>
      ("KMGTPE".toList.findIdx? (· == letter.toUpper)).map fun power => Nat.pow 1000 (power + 1)
  | _ => none

def sizeOf? (text : String) : Option Nat := do
  let digits := text.toList.takeWhile Char.isDigit
  let number ← (String.ofList digits).toNat?
  return number * (← sizeFactor? (text.toList.drop digits.length))

/-- A size that is told from the one before by a sign. -/
def newSize? (text : String) (before : Nat) : Option Nat := do
  let size ← sizeOf? (text.dropWhile fun c => "+-<>/%".toList.contains c).toString
  match text.toList.head? with
  | some '+' => some (before + size)
  | some '-' => some (before - size)
  | some '<' => some (min before size)
  | some '>' => some (max before size)
  | some '/' => if size = 0 then none else some (before / size * size)
  | some '%' => if size = 0 then none else some ((before + size - 1) / size * size)
  | _ => some size

/-- Gives files a size: what is beyond it is cut off, and what is missing is zero. -/
def resizeFiles (operands : List String) : Work Unit :=
  withOptions "s:cr:o" [("size", 's'), ("no-create", 'c'), ("reference", 'r')] 1 operands
    fun options => do
    let reference? ←
      match options.argument? 'r' with
      | none => pure none
      | some name =>
          match ← Course.ask fun machine => machine.status true name with
          | .ok { node, .. } => pure (some node.size)
          | .error fault =>
              warn 1 (cannot "stat" name ++ ": " ++ faultText fault)
              leave
    match options.argument? 's', reference? with
    | none, none =>
        misuse 1 ("you must specify either " ++ inCurlyQuotes "--size" ++ " or " ++
          inCurlyQuotes "--reference")
    | asked?, reference? =>
        match asked?.filter fun text => (newSize? text 0).isNone with
        | some text => warn 1 ("Invalid number: " ++ inCurlyQuotes text)
        | none =>
            if options.operands.isEmpty then misuse 1 "missing file operand"
            for name in options.operands do
              let isThere ← Course.ask fun machine => (machine.status true name).isOk
              unless options.has 'c' && !isThere do
                match ← Course.openFrom 3 { writes := true, creates := true } name with
                | .error fault =>
                    warn 1 ("cannot open " ++ inQuotes name ++ " for writing: " ++
                      faultText fault)
                | .ok descriptor =>
                    Course.onMachine fun machine =>
                      match machine.channel? descriptor with
                      | some { medium := .node number, .. } =>
                          let before := (machine.disk.node number).size
                          let base := reference?.getD before
                          let size :=
                            match asked? with
                            | some text => (newSize? text base).getD before
                            | none => base
                          { machine with disk := machine.disk.resize number size machine.time }
                      | _ => machine
                    Course.close descriptor

/-! ### Installing -/

/-- Copies files to their places, with their permissions. -/
def installFiles (operands : List String) : Work Unit :=
  withOptions "m:dDvt:To:g:pcsbCS:"
    [("mode", 'm'), ("directory", 'd'), ("verbose", 'v'), ("target-directory", 't'),
      ("no-target-directory", 'T'), ("owner", 'o'), ("group", 'g'),
      ("preserve-timestamps", 'p')] 1 operands fun options => do
    checkMode (options.argument? 'm')
    let changes :=
      ((options.argument? 'm').bind Permission.changes?).getD
        ((Permission.changes? "755").getD [])
    let mode := Permission.apply changes 0 false 0
    if options.has 'd' then
      if options.operands.isEmpty then misuse 1 "missing file operand"
      for name in options.operands do
        for part in namesOnWay name do
          if ← makeDirectoryNamed true false none part then
            if options.has 'v' then
              put ((← get).command ++ ": creating directory " ++ inQuotes part ++ "\n")
        let _ ← attempt (cannot "change permissions of" name)
          (changeNode true name fun node => { node with mode })
    else
      let install := fun source target : String => do
        match ← Course.ask fun machine => machine.status true source with
        | .error fault => warn 1 (cannot "stat" source ++ ": " ++ faultText fault)
        | .ok { kind := .directory, .. } => warn 1 ("omitting directory " ++ inQuotes source)
        | .ok { node, .. } =>
            if ← Course.ask fun machine => (machine.status false target).isOk then
              let _ ← (Course.onDisk fun disk here time => disk.unlink here target time : Work _)
            match ← Transfer.copyContent { letters := [] } source target node with
            | some text => warn 1 text
            | none =>
                let _ ← attempt (cannot "change permissions of" target)
                  (changeNode true target fun copy =>
                    { copy with
                      mode
                      modified := if options.has 'p' then node.modified else copy.modified })
                if options.has 'v' then put (Transfer.report .copying source target)
      let into := fun source directory : String =>
        install source (childPath directory (lastName source))
      match options.argument? 't', options.operands with
      | some directory, sources =>
          if options.has 'D' then makeWay false none (namesOnWay directory)
          for source in sources do into source directory
      | none, [] => misuse 1 "missing file operand"
      | none, [source] =>
          misuse 1 ("missing destination file operand after " ++ inQuotes source)
      | none, [source, target] =>
          if options.has 'D' then
            makeWay false none (namesOnWay target).dropLast
          if !options.has 'T' && (← Course.ask fun machine => machine.isDirectory target) then
            into source target
          else install source target
      | none, first :: second :: rest =>
          let target := rest.getLastD second
          if ← Course.ask fun machine => machine.isDirectory target then
            for source in (first :: second :: rest).dropLast do into source target
          else warn 1 ("target " ++ inQuotes target ++ ": " ++ faultText .notDirectory)

end HingeField.Shell.Utility
