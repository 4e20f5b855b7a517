import HingeField.Shell.Host.Status
import HingeField.Shell.Utility.Desk

/-!
Copying and moving: a file, or a directory with everything below it, goes to
another place. It goes into a directory under its own name; a file takes the
place of a file, and a directory joins a directory or must find it empty.
-/

namespace HingeField.Shell.Utility

/-- What could not be done to an operand. -/
def cannot (deed operand : String) : String :=
  "cannot " ++ deed ++ " " ++ inQuotes operand

/-- The last name of a path. -/
def lastName (path : String) : String :=
  let names := (path.splitOn "/").filter fun name => !name.isEmpty
  names.getLastD (if path.startsWith "/" then "/" else path)

/-- A name behind the path of a directory. -/
def childPath (directory name : String) : String :=
  if directory.endsWith "/" then directory ++ name else directory ++ "/" ++ name

inductive Transfer where
  | copying
  | moving
deriving DecidableEq

namespace Transfer

/-- What could not be done when there is no directory to put the target in. -/
def failure (source target : String) : Transfer → FileKind → String
  | .moving, _ => cannot "move" source ++ " to " ++ inQuotes target
  | .copying, .directory => cannot "create directory" target
  | .copying, .link => cannot "create symbolic link" target
  | .copying, _ => cannot "create regular file" target

/-- What is said of a directory that would have to hold itself. -/
def nesting (source target : String) : Transfer → String
  | .moving => cannot "move" source ++ " to a subdirectory of itself, " ++ inQuotes target
  | .copying => cannot "copy a directory," source ++ ", into itself, " ++ inQuotes target

/-- Why something may not take the place of what is at the target, if it may not. -/
def conflict? (source target : String) (kind : FileKind)
    (other? : Option FileStatus) : Option String :=
  match kind, other?.map FileStatus.kind with
  | .directory, some .directory => none
  | .directory, some _ =>
      some ("cannot overwrite non-directory " ++ inQuotes target ++ " with directory " ++
        inQuotes source)
  | _, some .directory =>
      some ("cannot overwrite directory " ++ inQuotes target ++ " with non-directory")
  | _, _ => none

/-- What is said of a successful transfer on request. -/
def report (transfer : Transfer) (source target : String) : String :=
  (if transfer = .moving then "renamed " else "") ++ inQuotes source ++ " -> " ++ inQuotes target ++
    "\n"

/-- Whether the options ask for directories to be copied with all that is below them. -/
def isDeep (options : Options) : Bool :=
  "rRa".toList.any options.has

/-- Whether links are copied as links. -/
def keepsLinks (options : Options) : Bool :=
  match options.letters.reverse.find? fun option => "LPdaH".toList.contains option.1 with
  | some ('L', _) => false
  | some ('H', _) => false
  | some _ => true
  | none => isDeep options

/-- Whether what is known of files is copied with them. -/
def keepsFacts (options : Options) : Bool :=
  options.has 'p' || options.has 'a'

/-- Gives a copy what is known of its source, as far as that is asked for. -/
def copyFacts (options : Options) (node : Node) (target : String) : Work Unit :=
  if keepsFacts options then
    Course.onMachine fun machine =>
      match machine.disk.find false machine.own.here target with
      | .error _ => machine
      | .ok number =>
          { machine with
            disk := machine.disk.modify number fun copy =>
              { copy with
                mode := node.mode, owner := node.owner, group := node.group
                modified := node.modified, accessed := node.accessed } }
  else return ()

/-- Copies the bytes of a file to a place, where a file is made or its content replaced. -/
def copyContent (options : Options) (source target : String) (node : Node) :
    Work (Option String) := do
  match ← Course.openFrom 3 .forReading source with
  | .error fault =>
      return some (cannot "open" source ++ " for reading: " ++ faultText fault)
  | .ok input =>
      let isThere ← Course.ask fun machine => (machine.status true target).isOk
      let isLink ← Course.ask fun machine => (machine.status false target).isOk
      if isLink && !isThere && !options.has 'f' then
        Course.close input
        return some ("not writing through dangling symlink " ++ inQuotes target)
      match ← Course.openFrom 3 .forWriting target with
      | .error fault =>
          Course.close input
          return some (failure source target .copying .regular ++ ": " ++ faultText fault)
      | .ok output => do
          match ← readRest input endlessSteps .empty with
          | .error fault =>
              Course.close input
              Course.close output
              return some ("error reading " ++ inQuotes source ++ ": " ++ faultText fault)
          | .ok content => do
              let written ← Course.write output content
              Course.close input
              Course.close output
              unless isThere do
                Course.onMachine fun machine =>
                  match machine.disk.find true machine.own.here target with
                  | .error _ => machine
                  | .ok number =>
                      let mask := machine.own.mask
                      let mode := node.mode &&& 0o777
                      { machine with
                        disk := machine.disk.modify number fun copy =>
                          if copy.isRegular then { copy with mode := mode - (mode &&& mask) }
                          else copy }
              match written with
              | .ok () => return none
              | .error fault => return some ("error writing " ++ inQuotes target ++ ": " ++
                  faultText fault)

/-- Copies what is at a path, and all that is below it. -/
def copyBranch (options : Options) : Nat → String → String → Work Unit
  | 0, _, _ => pure ()
  | fuel + 1, source, target => do
      let follows := !keepsLinks options
      match ← Course.ask fun machine => machine.status follows source with
      | .error fault => warn 1 (cannot "stat" source ++ ": " ++ faultText fault)
      | .ok { kind, node, number } =>
          let other? ← Course.ask fun machine =>
            (machine.status (kind != .link) target).toOption
          if kind == .directory && !isDeep options then
            warn 1 ("-r not specified; omitting directory " ++ inQuotes source)
          else if (other?.any fun other => other.number == number) && kind != .link then
            if (other?.any fun other => other.kind == .directory) then
              warn 1 (nesting source target .copying)
            else warn 1 (inQuotes source ++ " and " ++ inQuotes target ++ " are the same file")
          else
            match conflict? source target kind other?, node.body with
            | some text, _ => warn 1 text
            | none, .directory _ _ => do
                let isNesting ← Course.ask fun machine =>
                  match machine.disk.walk true machine.own.here target with
                  | .ok spot =>
                      machine.disk.isWithin number (machine.disk.nodes.size + 1) spot.directory
                  | .error _ => false
                let made ←
                  if other?.isSome then pure (.ok ())
                  else
                    let mode := node.mode &&& 0o777
                    let mask ← Course.ask fun machine => machine.own.mask
                    Course.onDisk fun disk here time =>
                      disk.makeDirectory here target (mode - (mode &&& mask)) time
                match made with
                | .error fault =>
                    warn 1 (failure source target .copying .directory ++ ": " ++ faultText fault)
                | .ok () =>
                    if options.has 'v' && other?.isNone then
                      put (report .copying source target)
                    let names ← Course.ask fun machine =>
                      (namesIn machine.disk number).filter fun name =>
                        childPath source name != target
                    if isNesting then warn 1 (nesting source target .copying)
                    for name in names do
                      let isOwn ← Course.ask fun machine =>
                        match machine.status false (childPath source name),
                            machine.status false target with
                        | .ok first, .ok second => first.number == second.number
                        | _, _ => false
                      unless isOwn do
                        copyBranch { options with letters := ('P', "") :: options.letters } fuel
                          (childPath source name) (childPath target name)
                    copyFacts options node target
            | none, .link goal => do
                if other?.isSome then
                  let _ ← (Course.onDisk fun disk here time => disk.unlink here target time :
                    Work _)
                match ← Course.onDisk fun disk here time =>
                    disk.symbolicLink here goal target time with
                | .ok () =>
                    if options.has 'v' then put (report .copying source target)
                | .error fault =>
                    warn 1 (failure source target .copying .link ++ ": " ++ faultText fault)
            | none, .fifo _ => do
                if isDeep options then
                  let _ ← (Course.onDisk fun disk here time => do
                    let spot ← disk.walk false here target
                    return (disk.create spot.directory spot.name node.body node.mode time).2 :
                    Work _)
                else
                  match ← copyContent options source target node with
                  | some text => warn 1 text
                  | none => pure ()
            | none, _ => do
                if options.has 'l' || options.has 's' then
                  let deed := if options.has 'l' then
                      Course.onDisk fun disk here time =>
                        disk.hardLink here true source target time
                    else Course.onDisk fun disk here time =>
                      disk.symbolicLink here source target time
                  match ← deed with
                  | .ok () => pure ()
                  | .error fault =>
                      let kind := if options.has 'l' then "hard link" else "symbolic link"
                      warn 1 (cannot ("create " ++ kind) target ++ " to " ++ inQuotes source ++
                        ": " ++ faultText fault)
                else
                  match ← copyContent options source target node with
                  | some text => warn 1 text
                  | none =>
                      if options.has 'v' then put (report .copying source target)
                      copyFacts options node target

/-- Moves what is at a path. -/
def moveEntry (options : Options) (source target : String) : Work Unit := do
  match ← Course.ask fun machine => machine.status false source with
  | .error fault => warn 1 (cannot "stat" source ++ ": " ++ faultText fault)
  | .ok { kind, number, .. } =>
      let other? ← Course.ask fun machine => (machine.status false target).toOption
      let isNesting ← Course.ask fun machine =>
        match machine.disk.walk false machine.own.here target with
        | .ok spot =>
            kind == FileKind.directory &&
              machine.disk.isWithin number (machine.disk.nodes.size + 1) spot.directory
        | .error _ => false
      if other?.any fun other => other.number == number then
        let isNameOnly ← Course.ask fun machine =>
          match machine.disk.walk false machine.own.here source,
              machine.disk.walk false machine.own.here target with
          | .ok first, .ok second =>
              first.directory == second.directory && first.name == second.name
          | _, _ => true
        if isNameOnly then
          warn 1 (inQuotes source ++ " and " ++ inQuotes target ++ " are the same file")
        else
          let _ ← (Course.onDisk fun disk here time => disk.unlink here source time : Work _)
      else if isNesting then warn 1 (nesting source target .moving)
      else
        match conflict? source target kind other? with
        | some text => warn 1 text
        | none =>
            if (other?.map FileStatus.kind) == some .device then
              let _ ← (Course.onDisk fun disk here time => disk.unlink here source time : Work _)
            else
              match ← Course.onDisk fun disk here time => disk.rename here source target time with
              | .ok () => if options.has 'v' then put (report .moving source target)
              | .error .notEmpty =>
                  warn 1 ("cannot overwrite " ++ inQuotes target ++ ": Directory not empty")
              | .error fault =>
                  warn 1 (failure source target .moving kind ++ ": " ++ faultText fault)

/-- The target an operand stands for: in a directory, the name of the source. -/
def targetOf (options : Options) (machine : Machine) (source target : String) : String :=
  if machine.isDirectory target && !options.has 'T' then childPath target (lastName source)
  else target

/-- Whether a newer file is at the target than at the source. -/
def isOlder (machine : Machine) (source target : String) : Bool :=
  match machine.status? source, machine.status? target with
  | some first, some second => first.node.modified ≤ second.node.modified
  | _, _ => false

/-- Whether the options have a target left alone. -/
def isSpared (options : Options) (machine : Machine) (source target : String) : Bool :=
  (options.has 'n' && (machine.status false target).isOk) ||
    (options.has 'u' && isOlder machine source target)

/-- Puts aside what is at the target, if that is asked for. -/
def keepBackup (options : Options) (target : String) : Work Unit := do
  if options.has 'b' || options.has 'S' then
    let name := target ++ (options.argument? 'S').getD "~"
    let _ ← (Course.onDisk fun disk here time => disk.rename here target name time : Work _)

/-- How deep directories are copied. -/
def deepest : Nat := 1000

def step (transfer : Transfer) (options : Options) (operand source : String) : Work Unit := do
  let target ← Course.ask fun machine => targetOf options machine source operand
  match target.isEmpty, ← Course.ask fun machine => machine.status false source with
  | true, .ok { kind, .. } =>
      warn 1 (transfer.failure source target kind ++ ": " ++ faultText .notFound)
  | true, .error fault => warn 1 (cannot "stat" source ++ ": " ++ faultText fault)
  | false, .error fault => warn 1 (cannot "stat" source ++ ": " ++ faultText fault)
  | false, .ok _ =>
      match ← Course.ask fun machine => machine.status true target with
      | .error .notDirectory =>
          warn 1 (cannot "stat" target ++ ": " ++ faultText .notDirectory)
      | _ =>
          unless ← Course.ask fun machine => isSpared options machine source target do
            keepBackup options target
            match transfer with
            | .copying => copyBranch options deepest source target
            | .moving => moveEntry options source target

/-- Brings operands to another one. -/
def runTo (transfer : Transfer) (options : Options) (operand : String) (sources : List String) :
    Work Unit := do
  let refuse := fun fault =>
    warn 1 ((if options.has 't' then "target directory " else "target ") ++ inQuotes operand ++
      ": " ++ faultText fault)
  match ← Course.ask fun machine => machine.status true operand with
  | .ok { kind := .directory, .. } => sources.forM (transfer.step options operand)
  | .ok _ => refuse .notDirectory
  | .error fault => refuse fault

/-- Brings all operands but the last one to the last one. -/
def run (transfer : Transfer) (options : Options) : Work Unit := do
  match options.argument? 't', options.operands with
  | some operand, sources => transfer.runTo options operand sources
  | none, [] => misuse 1 "missing file operand"
  | none, [source] => misuse 1 ("missing destination file operand after " ++ inQuotes source)
  | none, [source, operand] =>
      let isThere ← Course.ask fun machine => machine.isDirectory operand
      if operand.endsWith "/" && !isThere && !isDeep options && transfer = .copying then
        match ← Course.ask fun machine => machine.status true source with
        | .ok { kind := .directory, .. } => transfer.step options operand source
        | .ok _ =>
            warn 1 (transfer.failure source operand .regular ++ ": " ++ faultText .notDirectory)
        | .error _ => transfer.step options operand source
      else transfer.step options operand source
  | none, first :: second :: rest =>
      transfer.runTo options (rest.getLastD second) (first :: second :: rest).dropLast

def names : LongNames :=
  [("recursive", 'r'), ("archive", 'a'), ("force", 'f'), ("no-clobber", 'n'), ("verbose", 'v'),
    ("target-directory", 't'), ("no-target-directory", 'T'), ("dereference", 'L'),
    ("no-dereference", 'P'), ("link", 'l'), ("symbolic-link", 's'), ("update", 'u'),
    ("interactive", 'i'), ("backup", 'b'), ("suffix", 'S'), ("preserve", 'p')]

end Transfer

def copyFiles (operands : List String) : Work Unit :=
  withOptions "rRapfinvt:TdLPHulsbS:" Transfer.names 1 operands fun options =>
    Transfer.copying.run options

def moveFiles (operands : List String) : Work Unit :=
  withOptions "finvt:TubS:" Transfer.names 1 operands fun options => Transfer.moving.run options

end HingeField.Shell.Utility
