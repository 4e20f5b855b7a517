import HingeField.Shell.Utility.Transfer

/-!
The commands that give files further names, and those that tell where paths
lead.
-/

namespace HingeField.Shell.Utility

/-- What a link is called. -/
def linkKind (options : Options) : String :=
  if options.has 's' then "symbolic" else "hard"

/-- The text of a link at one place that leads where a path leads. -/
def relativeGoal (machine : Machine) (source target : String) : String :=
  let absolute := fun path : String =>
    let path := if path.startsWith "/" then path else childPath machine.herePath path
    (Disk.namesOf path).foldl
      (fun names name =>
        if name == "." then names else if name == ".." then names.dropLast else names ++ [name]) []
  let goal := absolute source
  let base := (absolute target).dropLast
  let common := ((goal.zip base).takeWhile fun (first, second) => first == second).length
  let ups := List.replicate (base.length - common) ".."
  String.intercalate "/" (ups ++ goal.drop common)

/-- Gives a file another name, or makes a link to it. -/
def linkOne (options : Options) (source operand : String) : Work Unit := do
  let keepsTarget := options.has 'n' || options.has 'T'
  let isInside ← Course.ask fun machine =>
    machine.isDirectory operand &&
      !(keepsTarget && ((machine.status false operand).toOption.any fun status =>
        status.kind == .link)) && !options.has 'T'
  let target := if isInside then childPath operand (lastName source) else operand
  let isThere ← Course.ask fun machine => (machine.status false target).isOk
  let isDirectory ← Course.ask fun machine =>
    (machine.status false target).toOption.any fun status => status.kind == .directory
  let same ← Course.ask fun machine =>
    match machine.disk.walk false machine.own.here source,
        machine.disk.walk false machine.own.here target with
    | .ok first, .ok second =>
        first.node?.isSome && first.directory == second.directory && first.name == second.name
    | _, _ => false
  match options.has 's', ← Course.ask fun machine => machine.status (options.has 'L') source with
  | false, .error fault =>
      warn 1 ("failed to access " ++ inQuotes source ++ ": " ++ faultText fault)
  | false, .ok { kind := .directory, .. } =>
      warn 1 (shownName source ++ ": hard link not allowed for directory")
  | _, _ =>
      if isThere && isDirectory then
        warn 1 (inQuotes target ++ ": cannot overwrite directory")
      else if isThere && same && options.has 'f' then
        warn 1 (inQuotes source ++ " and " ++ inQuotes target ++ " are the same file")
      else
        if isThere && options.has 'f' then
          let _ ← (Course.onDisk fun disk here time => disk.unlink here target time : Work _)
        else if isThere && (options.has 'b' || options.has 'S') then
          Transfer.keepBackup options target
        let goal ←
          if options.has 'r' then
            Course.ask fun machine => relativeGoal machine source target
          else pure source
        let made ← Course.onDisk fun disk here time =>
          if options.has 's' then disk.symbolicLink here goal target time
          else disk.hardLink here (options.has 'L') source target time
        match made with
        | .ok () =>
            let arrow := if options.has 's' then " -> " else " => "
            if options.has 'v' then put (inQuotes target ++ arrow ++ inQuotes goal ++ "\n")
        | .error .alreadyExists =>
            warn 1 ("failed to create " ++ linkKind options ++ " link " ++ inQuotes target ++
              ": File exists")
        | .error fault =>
            let goalText := if options.has 's' then "" else " => " ++ inQuotes source
            warn 1 ("failed to create " ++ linkKind options ++ " link " ++ inQuotes target ++
              goalText ++ ": " ++ faultText fault)

/-- Gives files further names, or makes links to them. -/
def linkFiles (operands : List String) : Work Unit :=
  withOptions "sfnvTrt:LPibS:"
    [("symbolic", 's'), ("force", 'f'), ("no-dereference", 'n'), ("verbose", 'v'),
      ("relative", 'r'), ("no-target-directory", 'T'), ("target-directory", 't'),
      ("logical", 'L'), ("physical", 'P'), ("backup", 'b'), ("suffix", 'S')] 1 operands
    fun options => do
    match options.argument? 't', options.operands with
    | some directory, sources => for source in sources do linkOne options source directory
    | none, [] => misuse 1 "missing file operand"
    | none, [source] => linkOne options source "."
    | none, [source, target] => linkOne options source target
    | none, first :: second :: rest =>
        let target := rest.getLastD second
        match ← Course.ask fun machine => machine.status true target with
        | .ok { kind := .directory, .. } =>
            for source in (first :: second :: rest).dropLast do linkOne options source target
        | .ok _ => warn 1 ("target " ++ inQuotes target ++ ": " ++ faultText .notDirectory)
        | .error fault => warn 1 ("target " ++ inQuotes target ++ ": " ++ faultText fault)

/-- Gives a file one more name. -/
def linkOnce (operands : List String) : Work Unit :=
  withOptions "" [] 1 operands fun options => do
    match options.operands with
    | [] => misuse 1 "missing operand"
    | [source] => misuse 1 ("missing operand after " ++ inCurlyQuotes source)
    | [source, target] =>
        match ← Course.onDisk fun disk here time =>
            disk.hardLink here false source target time with
        | .ok () => pure ()
        | .error fault =>
            warn 1 ("cannot create link " ++ inQuotes target ++ " to " ++ inQuotes source ++ ": " ++
              faultText fault)
    | _ :: _ :: extra :: _ => misuse 1 ("extra operand " ++ inCurlyQuotes extra)

/-- Takes one name of a file away. -/
def unlinkOnce (operands : List String) : Work Unit :=
  withOptions "" [] 1 operands fun options => do
    match options.operands with
    | [] => misuse 1 "missing operand"
    | [name] =>
        match ← Course.onDisk fun disk here time => disk.unlink here name time with
        | .ok () => pure ()
        | .error fault =>
            warn 1 (cannot "unlink" name ++ ": " ++ faultText fault)
    | _ :: extra :: _ => misuse 1 ("extra operand " ++ inCurlyQuotes extra)

/-! ### Where paths lead -/

/-- What must be there of a path: nothing, all but its last name, or all of it. -/
inductive Presence where
  | none
  | allButLast
  | all
deriving DecidableEq

/-- The names behind the links among others, from names that lead to no link. -/
def resolveNames (disk : Disk) (presence : Presence) :
    Nat → List String → List String → Except FileFault (List String)
  | 0, _, _ => .error .tooManyLinks
  | _ + 1, found, [] => .ok found
  | fuel + 1, found, name :: rest =>
      if name == "." then
        if rest.isEmpty && presence != .none &&
            (disk.find? Disk.root ("/" ++ String.intercalate "/" found)).any
              (fun number => !disk.isDirectory number) then .error .notDirectory
        else resolveNames disk presence fuel found rest
      else if name == ".." then resolveNames disk presence fuel found.dropLast rest
      else
        let path := "/" ++ String.intercalate "/" (found ++ [name])
        match disk.find false Disk.root path with
        | .error fault =>
            let isLast := rest.all (· == ".")
            let isAllowed := presence == .none ||
              (presence == .allButLast && isLast && fault == .notFound)
            if isAllowed then resolveNames disk presence fuel (found ++ [name]) rest
            else .error fault
        | .ok number =>
            match (disk.node number).body with
            | .link goal =>
                let start := if goal.startsWith "/" then [] else found
                resolveNames disk presence fuel start (Disk.namesOf goal ++ rest)
            | .directory _ _ => resolveNames disk presence fuel (found ++ [name]) rest
            | _ =>
                if rest.isEmpty || presence == .none then
                  resolveNames disk presence fuel (found ++ [name]) rest
                else .error .notDirectory

/-- The path without links that a path leads to. -/
def resolvedPath (machine : Machine) (presence : Presence) (path : String) :
    Except FileFault String := do
  if path.isEmpty then throw .notFound
  let start := if path.startsWith "/" then [] else Disk.namesOf machine.herePath
  let fuel := 1000 + path.length
  let names ← resolveNames machine.disk presence fuel start (Disk.namesOf path)
  return "/" ++ String.intercalate "/" names

/-- A path seen from a directory. -/
def pathFrom (directory path : String) : String :=
  let goal := Disk.namesOf path
  let base := Disk.namesOf directory
  let common := ((goal.zip base).takeWhile fun (first, second) => first == second).length
  let names := List.replicate (base.length - common) ".." ++ goal.drop common
  if names.isEmpty then "." else String.intercalate "/" names

/-- Shows where paths lead. -/
def showPlaces (operands : List String) : Work Unit :=
  withOptions "emqszLP R:B:"
    [("canonicalize-existing", 'e'), ("canonicalize-missing", 'm'), ("quiet", 'q'),
      ("strip", 's'), ("no-symlinks", 's'), ("zero", 'z'), ("relative-to", 'R'),
      ("relative-base", 'B'), ("logical", 'L'), ("physical", 'P')] 1 operands fun options => do
    if options.operands.isEmpty then misuse 1 "missing operand"
    let presence : Presence :=
      if options.has 'e' then .all else if options.has 'm' then .none else .allButLast
    let lineEnd := if options.has 'z' then "\x00" else "\n"
    for name in options.operands do
      let resolved ← Course.ask fun machine =>
        if options.has 's' && !name.isEmpty then
          let path := if name.startsWith "/" then name else childPath machine.herePath name
          let names := (Disk.namesOf path).foldl
            (fun names name =>
              if name == "." then names else if name == ".." then names.dropLast
              else names ++ [name]) []
          .ok ("/" ++ String.intercalate "/" names)
        else resolvedPath machine presence name
      match resolved with
      | .ok path =>
          let shown ←
            match options.argument? 'R' with
            | some directory =>
                Course.ask fun machine =>
                  pathFrom ((resolvedPath machine .none directory).toOption.getD directory) path
            | none => pure path
          put (shown ++ lineEnd)
      | .error fault =>
          if options.has 'q' then raiseStatus 1
          else warn 1 (shownName name ++ ": " ++ faultText fault)

/-- Shows what links hold, or on request where paths lead. -/
def showLinks (operands : List String) : Work Unit :=
  withOptions "femnqsvz"
    [("canonicalize", 'f'), ("canonicalize-existing", 'e'), ("canonicalize-missing", 'm'),
      ("no-newline", 'n'), ("quiet", 'q'), ("silent", 's'), ("verbose", 'v'), ("zero", 'z')] 1
    operands fun options => do
    if options.operands.isEmpty then misuse 1 "missing operand"
    let isSingle := options.operands.length = 1
    let lineEnd := if options.has 'n' && isSingle then "" else if options.has 'z' then "\x00"
      else "\n"
    let isWhole := "fem".toList.any options.has
    let presence : Presence :=
      if options.has 'e' then .all else if options.has 'm' then .none else .allButLast
    for name in options.operands do
      let shown ← Course.ask fun machine =>
        if isWhole then resolvedPath machine presence name
        else
          match machine.status false name with
          | .error fault => .error fault
          | .ok { node := { body := .link goal, .. }, .. } => .ok goal
          | .ok _ => .error .invalid
      match shown with
      | .ok path => put (path ++ lineEnd)
      | .error fault =>
          if options.has 'v' then warn 1 (shownName name ++ ": " ++ faultText fault)
          else raiseStatus 1

end HingeField.Shell.Utility
