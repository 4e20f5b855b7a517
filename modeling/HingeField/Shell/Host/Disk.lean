import HingeField.Fault
import HingeField.Shell.Octets

/-!
The disk of the machine that scripts run on. Nodes hold what there is, and names
in directories lead to nodes, so that a file may have several names. A path is
walked name by name; a link on the way is replaced by its text, and one at the
end of a path only if it is to be followed.
-/

namespace HingeField.Shell

/-- What is not stored, but made when it is read or written. -/
inductive Device where
  | null
  | zero
  | full
  | random
  | terminal
  | descriptor (number : Nat)
deriving DecidableEq

/-- What a node holds. A directory knows the one above it, and its names in the order in which they
were made. -/
inductive Body where
  | directory (above : Nat) (names : List (String × Nat))
  | regular (content : ByteArray)
  | link (goal : String)
  | fifo (pipe : Nat)
  | device (device : Device)

structure Node where
  body : Body
  /-- The permissions, as twelve bits. -/
  mode : Nat
  owner : Nat := 0
  group : Nat := 0
  /-- How many names lead to the node. -/
  links : Nat := 1
  /-- Times in nanoseconds. -/
  accessed : Int := 0
  modified : Int := 0
  changed : Int := 0

namespace Node

def isDirectory (node : Node) : Bool :=
  match node.body with
  | .directory _ _ => true
  | _ => false

def isLink (node : Node) : Bool :=
  match node.body with
  | .link _ => true
  | _ => false

def isRegular (node : Node) : Bool :=
  match node.body with
  | .regular _ => true
  | _ => false

/-- The bytes of a regular file. -/
def content (node : Node) : ByteArray :=
  match node.body with
  | .regular content => content
  | _ => .empty

/-- How many bytes a node is said to have. -/
def size (node : Node) : Nat :=
  match node.body with
  | .directory _ _ => 4096
  | .regular content => content.size
  | .link goal => goal.length
  | .fifo _ | .device _ => 0

/-- Whether anyone may execute the node. -/
def isExecutable (node : Node) : Bool :=
  node.mode &&& 0o111 != 0

end Node

structure Disk where
  nodes : Array Node

namespace Disk

/-- The directory that all absolute paths start from. -/
def root : Nat := 0

def node (disk : Disk) (number : Nat) : Node :=
  disk.nodes.getD number { body := .regular .empty, mode := 0 }

def modify (disk : Disk) (number : Nat) (change : Node → Node) : Disk :=
  { disk with nodes := disk.nodes.modify number change }

/-- A disk that has the first directory alone. -/
def blank : Disk :=
  { nodes := #[{ body := .directory root [], mode := 0o755, links := 2 }] }

/-- The names in a directory, with the nodes they lead to. -/
def names (disk : Disk) (number : Nat) : List (String × Nat) :=
  match (disk.node number).body with
  | .directory _ names => names
  | _ => []

def isDirectory (disk : Disk) (number : Nat) : Bool :=
  (disk.node number).isDirectory

/-- The directory above a directory. -/
def above (disk : Disk) (number : Nat) : Nat :=
  match (disk.node number).body with
  | .directory above _ => above
  | _ => root

/-- Where a path ends: the directory that holds its last name, that name, and the node it leads to,
if there is one. -/
structure Spot where
  directory : Nat
  name : String
  node? : Option Nat

/-- How far names lead: to their end, or to a link that has to be followed. -/
inductive Arrival where
  | spot (spot : Spot)
  | link (directory : Nat) (goal : String) (rest : List String)

/-- The names of a path. A separator at its end stands for the directory that the path leads to. -/
def namesOf (path : String) : List String :=
  let names := (path.splitOn "/").filter fun name => !name.isEmpty
  if path.endsWith "/" && !names.isEmpty then names ++ ["."] else names

/-- How many bytes a name may have. -/
def maximalNameSize : Nat := 255

/-- Follows names from a directory, up to the first link that has to be followed. -/
def advance (disk : Disk) (followsLast : Bool) : Nat → List String → Except FileFault Arrival
  | directory, [] => .ok (.spot { directory, name := ".", node? := some directory })
  | directory, name :: rest =>
      if !disk.isDirectory directory then .error .notDirectory
      else if maximalNameSize < name.length then .error .nameTooLong
      else if name == "." then
        if rest.isEmpty then .ok (.spot { directory, name, node? := some directory })
        else disk.advance followsLast directory rest
      else if name == ".." then
        let above := disk.above directory
        if rest.isEmpty then .ok (.spot { directory := above, name, node? := some above })
        else disk.advance followsLast above rest
      else
        match (disk.names directory).lookup name with
        | none =>
            if (disk.node directory).links = 0 then .error .notFound
            else if rest.isEmpty then .ok (.spot { directory, name, node? := none })
            else if rest == ["."] then .ok (.spot { directory, name, node? := none })
            else .error .notFound
        | some number =>
            match (disk.node number).body, rest with
            | .link goal, _ :: _ => .ok (.link directory goal rest)
            | .link goal, [] =>
                if followsLast then .ok (.link directory goal [])
                else .ok (.spot { directory, name, node? := some number })
            | _, [] => .ok (.spot { directory, name, node? := some number })
            | .directory _ _, ["."] => .ok (.spot { directory, name, node? := some number })
            | _, rest => disk.advance followsLast number rest

/-- How many links one path may go through. -/
def maximalLinks : Nat := 40

/-- Follows names and the links among them. -/
def walkNames (disk : Disk) (followsLast : Bool) :
    Nat → Nat → List String → Except FileFault Spot
  | links, directory, names =>
      match disk.advance followsLast directory names with
      | .error fault => .error fault
      | .ok (.spot spot) => .ok spot
      | .ok (.link directory goal rest) =>
          match links with
          | 0 => .error .tooManyLinks
          | links + 1 =>
              if goal.isEmpty then .error .notFound
              else
                let start := if goal.startsWith "/" then root else directory
                disk.walkNames followsLast links start (namesOf goal ++ rest)

/-- How many bytes a path may have. -/
def maximalPathSize : Nat := 4095

/-- Where a path leads from a directory. -/
def walk (disk : Disk) (followsLast : Bool) (here : Nat) (path : String) :
    Except FileFault Spot :=
  if path.isEmpty then .error .notFound
  else if maximalPathSize < path.length then .error .nameTooLong
  else
    disk.walkNames followsLast maximalLinks (if path.startsWith "/" then root else here)
      (namesOf path)

/-- The node a path leads to. -/
def find (disk : Disk) (followsLast : Bool) (here : Nat) (path : String) :
    Except FileFault Nat := do
  match (← disk.walk followsLast here path).node? with
  | some number => return number
  | none => throw .notFound

/-- The node a path leads to behind links; `none` also when the path leads nowhere. -/
def find? (disk : Disk) (here : Nat) (path : String) : Option Nat :=
  (disk.find true here path).toOption

/-- The name under which a directory stands in the one above it, and so on upwards. -/
def climb (disk : Disk) : Nat → Nat → List String → List String
  | 0, _, found => found
  | fuel + 1, number, found =>
      if number = root then found
      else
        let above := disk.above number
        match (disk.names above).find? fun entry => entry.2 == number with
        | some (name, _) => disk.climb fuel above (name :: found)
        | none => found

/-- The path of a directory. -/
def pathTo (disk : Disk) (number : Nat) : String :=
  "/" ++ String.intercalate "/" (disk.climb disk.nodes.size number [])

/-- Whether a directory stands below another one, or is that one. -/
def isWithin (disk : Disk) (upper : Nat) : Nat → Nat → Bool
  | 0, _ => false
  | fuel + 1, number =>
      number = upper || (number ≠ root && disk.isWithin upper fuel (disk.above number))

/-! ### Changes -/

/-- Notes that the names in a directory have changed. -/
def touch (disk : Disk) (number : Nat) (time : Int) : Disk :=
  disk.modify number fun node => { node with modified := time, changed := time }

def setNames (disk : Disk) (number : Nat) (names : List (String × Nat)) : Disk :=
  disk.modify number fun node =>
    match node.body with
    | .directory above _ => { node with body := .directory above names }
    | _ => node

/-- Leads a name in a directory to a node. -/
def attach (disk : Disk) (directory : Nat) (name : String) (number : Nat) (time : Int) : Disk :=
  (disk.setNames directory (disk.names directory ++ [(name, number)])).touch directory time

/-- Makes a new node under a name in a directory. -/
def create (disk : Disk) (directory : Nat) (name : String) (body : Body) (mode : Nat)
    (time : Int) : Nat × Disk :=
  let number := disk.nodes.size
  let isDirectory :=
    match body with
    | .directory _ _ => true
    | _ => false
  let node : Node :=
    { body, mode, links := if isDirectory then 2 else 1
      accessed := time, modified := time, changed := time }
  let disk := { disk with nodes := disk.nodes.push node }
  let disk := disk.attach directory name number time
  let disk :=
    if isDirectory then
      disk.modify directory fun node => { node with links := node.links + 1 }
    else disk
  (number, disk)

/-- Takes a name out of a directory. -/
def detach (disk : Disk) (directory : Nat) (name : String) (time : Int) : Disk :=
  match (disk.names directory).lookup name with
  | none => disk
  | some number =>
      let disk :=
        disk.setNames directory ((disk.names directory).filter fun entry => entry.1 != name)
      let disk := disk.touch directory time
      let disk :=
        disk.modify number fun node => { node with links := node.links - 1, changed := time }
      if disk.isDirectory number then
        disk.modify directory fun node => { node with links := node.links - 1 }
      else disk

/-- Makes a directory at a path. -/
def makeDirectory (disk : Disk) (here : Nat) (path : String) (mode : Nat) (time : Int) :
    Except FileFault Disk := do
  let spot ← disk.walk false here path
  match spot.node? with
  | some _ => throw .alreadyExists
  | none =>
      return (disk.create spot.directory spot.name (.directory spot.directory []) mode time).2

/-- Removes the name of a file, or of a link. -/
def unlink (disk : Disk) (here : Nat) (path : String) (time : Int) : Except FileFault Disk := do
  let spot ← disk.walk false here path
  match spot.node? with
  | none => throw .notFound
  | some number =>
      if disk.isDirectory number then throw .isDirectory
      if path.endsWith "/" then throw .notDirectory
      return disk.detach spot.directory spot.name time

/-- Removes an empty directory. -/
def removeDirectory (disk : Disk) (here : Nat) (path : String) (time : Int) :
    Except FileFault Disk := do
  let spot ← disk.walk false here path
  match spot.node? with
  | none => throw .notFound
  | some number =>
      if !disk.isDirectory number then throw .notDirectory
      if spot.name == "." then throw .invalid
      if spot.name == ".." || !(disk.names number).isEmpty then throw .notEmpty
      if number = root then throw .busy
      let disk := disk.detach spot.directory spot.name time
      return disk.modify number fun node => { node with links := 0 }

/-- Gives a node another name. -/
def hardLink (disk : Disk) (here : Nat) (followsLast : Bool) (source target : String)
    (time : Int) : Except FileFault Disk := do
  let number ← disk.find followsLast here source
  let spot ← disk.walk false here target
  if spot.node?.isSome then throw .alreadyExists
  if disk.isDirectory number then throw .notAllowed
  if target.endsWith "/" then throw .notFound
  let disk := disk.attach spot.directory spot.name number time
  return disk.modify number fun node => { node with links := node.links + 1, changed := time }

/-- Makes a link with a text. -/
def symbolicLink (disk : Disk) (here : Nat) (goal target : String) (time : Int) :
    Except FileFault Disk := do
  if goal.isEmpty then throw .notFound
  let spot ← disk.walk false here target
  if spot.node?.isSome then throw .alreadyExists
  if target.endsWith "/" then throw .notFound
  return (disk.create spot.directory spot.name (.link goal) 0o777 time).2

/-- Moves a name to another place, where it takes the place of what is there. -/
def rename (disk : Disk) (here : Nat) (source target : String) (time : Int) :
    Except FileFault Disk := do
  let origin ← disk.walk false here source
  let goal ← disk.walk false here target
  match origin.node? with
  | none => throw .notFound
  | some number =>
      let isDirectory := disk.isDirectory number
      if [".", ".."].contains origin.name || [".", ".."].contains goal.name then throw .busy
      if !isDirectory && source.endsWith "/" then throw .notDirectory
      if isDirectory && disk.isWithin number (disk.nodes.size + 1) goal.directory then
        throw .invalid
      match goal.node? with
      | some other =>
          if other = number then return disk
          if isDirectory && !disk.isDirectory other then throw .notDirectory
          if !isDirectory && disk.isDirectory other then throw .isDirectory
          if !(disk.names other).isEmpty then throw .notEmpty
      | none => if !isDirectory && target.endsWith "/" then throw .notDirectory
      let disk := disk.detach goal.directory goal.name time
      let disk := disk.modify number fun node => { node with links := node.links + 1 }
      let disk := disk.detach origin.directory origin.name time
      let disk := disk.attach goal.directory goal.name number time
      if isDirectory then
        let disk :=
          disk.modify goal.directory fun node => { node with links := node.links + 1 }
        return disk.modify number fun node =>
          match node.body with
          | .directory _ names => { node with body := .directory goal.directory names }
          | _ => node
      else return disk

/-- Bytes with others in the place of those from an offset on; what lies between is zero. -/
def overwritten (content : ByteArray) (offset : Nat) (written : ByteArray) : ByteArray :=
  if offset = content.size then content ++ written
  else if content.size < offset then
    (List.range (offset - content.size)).foldl (fun grown _ => grown.push 0) content ++ written
  else
    written.copySlice 0 content offset written.size

/-- Writes bytes to a regular file. -/
def write (disk : Disk) (number offset : Nat) (written : ByteArray) (time : Int) : Disk :=
  disk.modify number fun node =>
    match node with
    | ⟨.regular content, mode, owner, group, links, accessed, _, _⟩ =>
        ⟨.regular (overwritten content offset written), mode, owner, group, links, accessed,
          time, time⟩
    | node => node

/-- Gives a regular file a size: what is beyond it is cut off, and what is missing is zero. -/
def resize (disk : Disk) (number size : Nat) (time : Int) : Disk :=
  disk.modify number fun node =>
    match node.body with
    | .regular content =>
        let content :=
          if size ≤ content.size then content.extract 0 size
          else overwritten content size .empty
        { node with body := .regular content, modified := time, changed := time }
    | _ => node

end Disk

end HingeField.Shell
