import HingeField.Fault
import HingeField.Keyed
import HingeField.Solver.Path

/-!
A file system: directories, files and links by location, and the directory
relative paths start from. The operations are those a solver run needs, and each
of them is refused exactly as the paths and entries it meets demand. A link is
followed wherever a path goes through it; where a path ends at a link, reading
and writing go on to its goal, and removing takes the link itself.
-/

namespace HingeField

/-- The names on the way from the root to an entry. -/
abbrev Location := List String

inductive Entry where
  | directory
  | file (content : ByteArray) (executable : Bool)
  | link (goal : Path)

structure FileSystem where
  entries : List (Location × Entry)
  here : Location

namespace FileSystem

/-- Only the directories down to the given one, which is the current one. -/
def emptyAt (here : Location) : FileSystem :=
  { entries := (List.range here.length).map fun depth => (here.take (depth + 1), Entry.directory)
    here }

/-- The entry at a location. The root is always a directory. -/
def entryAt (files : FileSystem) (location : Location) : Option Entry :=
  if location.isEmpty then some .directory else files.entries.lookup location

/-- How many bytes a name may have. -/
def maximalNameSize : Nat := 255

/-- How many bytes a path may have. -/
def maximalPathSize : Nat := 4095

/-- How many links may lead to one another. -/
def maximalLinks : Nat := 40

/-- One step of a path from a location that is no link, possible from a directory only. -/
def step (files : FileSystem) (location : Location) (name : String) :
    Except FileFault Location :=
  match files.entryAt location with
  | some .directory =>
      if maximalNameSize < name.utf8ByteSize then .error .nameTooLong
      else .ok (if name = ".." then location.dropLast else location ++ [name])
  | some _ => .error .notDirectory
  | none => .error .notFound

/-- Where the links at a location lead, of which at most so many are followed one inside another.
The path of a link starts from the directory that the link is in. -/
def goalOf (files : FileSystem) : Nat → Location → Except FileFault Location
  | 0, _ => .error .tooManyLinks
  | links + 1, location =>
      match files.entryAt location with
      | some (.link path) => do
          let start := if path.isAbsolute then [] else location.dropLast
          let goal ←
            path.parts.foldlM
              (fun location name => do files.step (← files.goalOf links location) name) start
          files.goalOf links goal
      | _ => .ok location

def follow (files : FileSystem) (location : Location) : Except FileFault Location :=
  files.goalOf maximalLinks location

/-- One step of a path, behind the links that stand before it. -/
def enter (files : FileSystem) (location : Location) (name : String) :
    Except FileFault Location := do
  files.step (← files.follow location) name

/-- The location a path leads to, whether or not an entry is there. -/
def locate (files : FileSystem) (path : Path) : Except FileFault Location :=
  if path.text.contains '\x00' then .error .embeddedNull
  else if maximalPathSize < path.text.utf8ByteSize then .error .nameTooLong
  else path.parts.foldlM files.enter (if path.isAbsolute then [] else files.here)

/-- Stores an entry in the place of the one at its location. -/
def store (files : FileSystem) (location : Location) (entry : Entry) : FileSystem :=
  { files with entries := Keyed.put files.entries location entry }

theorem entryAt_store_self (files : FileSystem) {location : Location}
    (below : location ≠ []) (entry : Entry) :
    (files.store location entry).entryAt location = some entry := by
  unfold entryAt store
  rw [if_neg (by simpa using below)]
  exact Keyed.lookup_put_self files.entries location entry

theorem entryAt_store_of_ne (files : FileSystem) {location asked : Location}
    (different : asked ≠ location) (entry : Entry) :
    (files.store location entry).entryAt asked = files.entryAt asked := by
  unfold entryAt store
  split
  · rfl
  · exact Keyed.lookup_put_of_ne files.entries different entry

def erase (files : FileSystem) (location : Location) : FileSystem :=
  { files with entries := files.entries.filter fun entry => entry.1 != location }

/-- The location a path leads to behind links. -/
def goal (files : FileSystem) (path : Path) : Except FileFault Location := do
  files.follow (← files.locate path)

/-- The entry a path leads to; `none` also when the path leads nowhere. -/
def entry? (files : FileSystem) (path : Path) : Option Entry :=
  match files.goal path with
  | .ok location => files.entryAt location
  | .error _ => none

/-- The entry a path is found to lead to, if any. A name that is too long is a fault even here, and
everything else that is wrong with a path means that it leads to no entry. -/
def status (files : FileSystem) (path : Path) : Except FileFault (Option Entry) :=
  match files.goal path with
  | .ok location => .ok (files.entryAt location)
  | .error .nameTooLong => .error .nameTooLong
  | .error _ => .ok none

def contains (files : FileSystem) (path : Path) : Except FileFault Bool := do
  return (← files.status path).isSome

def isDirectory (files : FileSystem) (path : Path) : Except FileFault Bool := do
  match (← files.status path) with
  | some .directory => return true
  | _ => return false

/-- The content of the regular file a path leads to. -/
def content? (files : FileSystem) (path : Path) : Option ByteArray :=
  match files.entry? path with
  | some (.file content _) => some content
  | _ => none

def read (files : FileSystem) (path : Path) : Except FileFault ByteArray := do
  match files.entryAt (← files.goal path) with
  | some (.file content _) => return content
  | some _ => throw .isDirectory
  | none => throw .notFound

/-- Replaces the content of a file, or makes a new one in an existing directory. -/
def write (files : FileSystem) (path : Path) (content : ByteArray) :
    Except FileFault FileSystem := do
  let location ← files.goal path
  match files.entryAt location with
  | some (.file _ executable) => return files.store location (.file content executable)
  | some _ => throw .isDirectory
  | none =>
      match files.entryAt location.dropLast with
      | some .directory => return files.store location (.file content false)
      | some _ => throw .notDirectory
      | none => throw .notFound

def makeExecutable (files : FileSystem) (path : Path) : Except FileFault FileSystem := do
  let location ← files.goal path
  match files.entryAt location with
  | some (.file content _) => return files.store location (.file content true)
  | some _ => return files
  | none => throw .notFound

/-- Removes a file or a link. -/
def remove (files : FileSystem) (path : Path) : Except FileFault FileSystem := do
  let location ← files.locate path
  match files.entryAt location with
  | some .directory => throw .isDirectory
  | some _ => return files.erase location
  | none => throw .notFound

/-- Removes a file if there is one at the path. -/
def removeIfPresent (files : FileSystem) (path : Path) : Except FileFault FileSystem :=
  match files.remove path with
  | .error .notFound => .ok files
  | result => result

def makeDirectory (files : FileSystem) (path : Path) : Except FileFault FileSystem := do
  let location ← files.locate path
  match files.entryAt location with
  | some _ => throw .alreadyExists
  | none => return files.store location .directory

/-- Makes a directory unless the path leads to one already. -/
def ensureDirectory (files : FileSystem) (path : Path) : Except FileFault FileSystem :=
  match files.makeDirectory path with
  | .error .notFound => .error .notFound
  | .error fault => do if (← files.isDirectory path) then .ok files else .error fault
  | .ok files => .ok files

/-- The files after an operation, with the fault if it was refused. -/
def settle (files : FileSystem) :
    Except FileFault FileSystem → FileSystem × Option FileFault
  | .ok changed => (changed, none)
  | .error fault => (files, some fault)

/-- Makes the directory at a path given by its components, last one first, after its parents. -/
def ensureParts (root : String) : List String → FileSystem → FileSystem × Option FileFault
  | [], files => files.settle (files.ensureDirectory ⟨root, []⟩)
  | last :: before, files =>
      let path : Path := ⟨root, (last :: before).reverse⟩
      match files.ensureDirectory path with
      | .error .notFound =>
          match ensureParts root before files with
          | (files, none) => files.settle (files.ensureDirectory path)
          | refused => refused
      | result => files.settle result

/-- Makes a directory and all the directories above it that are missing. Those made before a
refusal stay. -/
def ensureDirectories (files : FileSystem) (path : Path) : FileSystem × Option FileFault :=
  ensureParts path.root path.parts.reverse files

/-- Makes a new directory and all the directories above it that are missing. -/
def makeDirectories (files : FileSystem) (path : Path) : FileSystem × Option FileFault :=
  match files.makeDirectory path with
  | .error .notFound =>
      match files.ensureDirectories path.parent with
      | (files, none) => files.settle (files.makeDirectory path)
      | refused => refused
  | result => files.settle result

/-- The same files seen from another directory. -/
def movedTo (files : FileSystem) (path : Path) : Except FileFault FileSystem := do
  let location ← files.goal path
  match files.entryAt location with
  | some .directory => return { files with here := location }
  | some _ => throw .notDirectory
  | none => throw .notFound

/-- The part of a location below another one. -/
def below? (above : Location) (location : Location) : Option Location :=
  if above.isPrefixOf location ∧ location ≠ above then some (location.drop above.length)
  else none

/-- Whether a location is a directory, or a link to one. -/
def leadsToDirectory (files : FileSystem) (location : Location) : Bool :=
  match files.follow location with
  | .ok goal =>
      match files.entryAt goal with
      | some .directory => true
      | _ => false
  | .error _ => false

/-- The paths of everything below the current directory, in order; those that lead to directories
end in a separator. -/
def listing (files : FileSystem) : List String :=
  let paths :=
    files.entries.filterMap fun (location, _) =>
      (below? files.here location).map fun names =>
        String.intercalate "/" names ++ (if files.leadsToDirectory location then "/" else "")
  paths.mergeSort fun first second => !(second < first)

end FileSystem

end HingeField
