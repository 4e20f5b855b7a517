import HingeField.Shell.Host.Status
import HingeField.Shell.Session

/-!
Where commands are found: the directories that are searched for them, in turn,
and the findings that are kept so that the search is not repeated. A finding
from before the current directory changed is looked at again.
-/

namespace HingeField.Shell

/-- The bytes of a file that may be executed. -/
def executable (machine : Machine) (path : String) : Except FileFault ByteArray := do
  let status ← machine.status true path
  if status.kind == .regular && status.node.isExecutable then return status.node.content
  else throw .notPermitted

/-- The directories that are searched unless others are set. -/
def standardDirectories : String :=
  "/usr/local/sbin:/usr/local/bin:/usr/sbin:/usr/bin:/sbin:/bin"

/-- The directories in which programs are searched for other programs. -/
def Session.searchedDirectories (session : Session) : String :=
  (session.valueOf? "PATH").getD standardDirectories

/-- The paths that a name may stand for in directories, in turn. -/
def pathsOf (directories name : String) : List String :=
  if name.contains '/' then [name]
  else
    (directories.splitOn ":").map fun directory =>
      if directory.isEmpty then name else directory ++ "/" ++ name

/-- The paths that a script searches for a command, in turn. -/
def Session.pathsOf (session : Session) (name : String) : List String :=
  Shell.pathsOf ((session.valueOf? "PATH").getD "") name

/-- The path at a place among those that are searched for a command. -/
def Session.pathAt (session : Session) (name : String) (place : Nat) : String :=
  (session.pathsOf name).getD place name

/-- The place of the first program among paths, which start at a place; up to one that was known,
paths from the root are taken to be as they were. Without a program there is a reason why the last
file is none. -/
def searchFrom (machine : Machine) (known? : Option Nat) :
    Nat → List String → FileFault → Except FileFault Nat
  | _, [], fault => .error fault
  | place, path :: rest, fault =>
      if path.startsWith "/" && known?.any (place ≤ ·) then
        if known? == some place then .ok place
        else searchFrom machine known? (place + 1) rest fault
      else
        match machine.status true path, executable machine path with
        | .ok _, .ok _ => .ok place
        | .ok _, .error _ => searchFrom machine known? (place + 1) rest .notPermitted
        | .error .notFound, _ | .error .notDirectory, _ =>
            searchFrom machine known? (place + 1) rest fault
        | .error fault, _ => searchFrom machine known? (place + 1) rest fault

/-- Forgets where a command was found. -/
def Session.forget (session : Session) (name : String) : Session :=
  { session with findings := session.findings.filter fun entry => entry.1 != name }

/-- Keeps where a command was found. -/
def Session.keep (session : Session) (name : String) (finding : Finding) : Session :=
  if session.findings.any fun entry => entry.1 == name then
    { session with
      findings := session.findings.map fun entry =>
        if entry.1 == name then (name, finding) else entry }
  else { session with findings := session.findings ++ [(name, finding)] }

/-- Finds a command, by a name without a directory, at its place among those that are searched. -/
def findCommand (name : String) : Act (Except FileFault Nat) := do
  let session ← get
  let known? := session.findings.lookup name
  match known? with
  | some { place, isStale := false } => return .ok place
  | _ => do
      let found : Except FileFault Nat ← Course.ask fun machine =>
        searchFrom machine (known?.map Finding.place) 0 (session.pathsOf name) .notFound
      match found with
      | .ok place => modify fun session => session.keep name { place }
      | .error _ => modify fun session => session.forget name
      return found

/-- The number by which names are scattered. -/
def scatterOf (name : String) : Nat :=
  name.toList.foldl (fun sum c => sum + c.toNat) ((name.toList.head?.map Char.toNat).getD 0 * 16)

/-- Entries in the order in which they are shown: by the numbers of their names, which are scattered
over places. -/
def scattered {α : Type} (places : Nat) (entries : List (String × α)) : List (String × α) :=
  (List.range places).flatMap fun place =>
    entries.filter fun entry => scatterOf entry.1 % places == place

end HingeField.Shell
