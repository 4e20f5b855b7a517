import HingeField.Shell.Host.Machine
import HingeField.Solver.FileSystem

/-!
What a machine starts from and what it leaves. Its disk holds the files of the
caller and what the system has besides: directories, devices, and programs. A
program is a file that starts with a mark of its own, behind which it names what
carries it out.
-/

namespace HingeField.Shell

def programMark : String := "\x7fELF"

/-- What carries out a file, if the file is a program. -/
def programName? (octets : String) : Option String :=
  if octets.startsWith programMark then some (octets.drop programMark.length).toString else none

namespace Disk

/-- The directory that names lead to from another one; those that are missing are made. -/
def descend (disk : Disk) (time : Int) : Nat → List String → Nat × Disk
  | directory, [] => (directory, disk)
  | directory, name :: rest =>
      match disk.find? directory name with
      | some number => disk.descend time number rest
      | none =>
          let (number, disk) :=
            disk.create directory name (.directory directory []) 0o755 time
          disk.descend time number rest

/-- Puts a node at a location, unless a directory is to be where one is already. -/
def place (disk : Disk) (time : Int) (location : List String) (body : Body) (mode : Nat) : Disk :=
  let (directory, disk) := disk.descend time root location.dropLast
  let name := location.getLastD ""
  match body, disk.find? directory name with
  | .directory _ _, some _ => disk
  | .directory _ _, none => (disk.create directory name (.directory directory []) mode time).2
  | body, _ => ((disk.detach directory name time).create directory name body mode time).2

def systemDirectories : List String :=
  ["usr/bin", "usr/sbin", "usr/lib", "usr/local/bin", "usr/local/sbin", "usr/share", "etc",
    "etc/alternatives", "dev", "proc/self/fd", "home", "root", "tmp", "var/tmp", "var/log", "run",
    "opt", "srv", "mnt", "media", "sys", "boot"]

/-- The links of the system, with the paths they hold. -/
def systemLinks : List (String × String) :=
  [("bin", "usr/bin"), ("sbin", "usr/sbin"), ("lib", "usr/lib"), ("dev/fd", "/proc/self/fd"),
    ("dev/stdin", "/proc/self/fd/0"), ("dev/stdout", "/proc/self/fd/1"),
    ("dev/stderr", "/proc/self/fd/2"), ("usr/bin/sh", "dash"),
    ("usr/bin/awk", "/etc/alternatives/awk"), ("etc/alternatives/awk", "/usr/bin/mawk"),
    ("usr/bin/nawk", "/etc/alternatives/nawk"), ("etc/alternatives/nawk", "/usr/bin/mawk")]

def systemDevices : List (String × Device) :=
  [("dev/null", .null), ("dev/zero", .zero), ("dev/full", .full), ("dev/random", .random),
    ("dev/urandom", .random), ("dev/tty", .terminal)] ++
    (List.range 64).map fun number => ("proc/self/fd/" ++ toString number, .descriptor number)

def systemTexts : List (String × String) :=
  [("etc/passwd", "root:x:0:0:root:/root:/bin/bash\n"), ("etc/group", "root:x:0:\n")]

/-- The disk that the system has, with its programs. -/
def ofSystem (programs : List String) : Disk :=
  let put := fun (disk : Disk) (path : String) (body : Body) (mode : Nat) =>
    disk.place 0 (path.splitOn "/") body mode
  let disk :=
    systemDirectories.foldl (fun disk path => put disk path (.directory 0 []) 0o755) blank
  let disk :=
    systemLinks.foldl (fun disk (path, goal) => put disk path (.link goal) 0o777) disk
  let disk :=
    systemDevices.foldl (fun disk (path, device) => put disk path (.device device) 0o666) disk
  let disk :=
    systemTexts.foldl (fun disk (path, text) => put disk path (.regular text.toUTF8) 0o644) disk
  programs.foldl
    (fun disk name =>
      put disk ("usr/bin/" ++ name) (.regular (octetsContent (programMark ++ name))) 0o755)
    disk

/-- The node that an entry of a file system becomes, with its permissions. -/
def bodyOf : Entry → Body × Nat
  | .directory => (.directory root [], 0o755)
  | .file content isExecutable => (.regular content, if isExecutable then 0o755 else 0o644)
  | .link goal => (.link (encode goal.text), 0o777)

/-- The disk with the files of the caller. Each of them is a little newer than the one before. -/
def withFiles (disk : Disk) (files : FileSystem) (time : Int) : Disk :=
  let count := files.entries.length
  files.entries.zipIdx.foldl
    (fun disk ((location, entry), index) =>
      let (body, mode) := bodyOf entry
      disk.place (time - 1000000 * (count - index)) (location.map encode) body mode)
    disk

/-- The entry that a node becomes for the caller. -/
def entryOf (node : Node) : Entry :=
  match node.body with
  | .directory _ _ => .directory
  | .regular content => .file content node.isExecutable
  | .link goal => .link (Path.ofString (decode goal))
  | .fifo _ | .device _ => .file .empty false

/-- Everything below a directory that is a directory or has been added to the first nodes. -/
def entriesBelow (disk : Disk) (first : Nat) : Nat → Nat → Location → List (Location × Entry)
  | 0, _, _ => []
  | fuel + 1, directory, location =>
      (disk.names directory).flatMap fun (name, number) =>
        let node := disk.node number
        let place := location ++ [decode name]
        let own :=
          if node.isDirectory || first ≤ number then [(place, entryOf node)] else []
        own ++ if node.isDirectory then disk.entriesBelow first fuel number place else []

/-- The files that the caller gets, of which the first nodes are none. -/
def toFiles (disk : Disk) (first : Nat) (here : Location) : FileSystem :=
  { entries := disk.entriesBelow first disk.nodes.size root [], here }

end Disk

end HingeField.Shell
