import HingeField.Shell.Host.Machine

/-!
What the machine tells about files. A device that stands for a descriptor is
whatever that descriptor leads to.
-/

namespace HingeField.Shell

inductive FileKind where
  | directory
  | regular
  | link
  | fifo
  | device
deriving DecidableEq

/-- What is known of a file: a number of its own, and the node it is like. -/
structure FileStatus where
  number : Nat
  kind : FileKind
  node : Node

def Body.kind : Body → FileKind
  | .directory _ _ => .directory
  | .regular _ => .regular
  | .link _ => .link
  | .fifo _ => .fifo
  | .device _ => .device

namespace Machine

def nodeStatus (machine : Machine) (number : Nat) : FileStatus :=
  let node := machine.disk.node number
  { number, kind := node.body.kind, node }

/-- What is known of the file that a channel leads to. -/
def channelStatus (machine : Machine) (channel : Channel) : FileStatus :=
  match channel.medium with
  | .node number => machine.nodeStatus number
  | .pipe pipe =>
      { number := machine.disk.nodes.size + pipe, kind := .fifo
        node := { body := .fifo pipe, mode := 0o600 } }
  | .device device =>
      match machine.disk.find? Disk.root "/dev/null", device with
      | some number, .null => machine.nodeStatus number
      | _, device =>
          { number := 0, kind := .device, node := { body := .device device, mode := 0o666 } }

/-- What is known of the file that a descriptor leads to. -/
def descriptorStatus? (machine : Machine) (descriptor : Nat) : Option FileStatus :=
  (machine.channel? descriptor).map machine.channelStatus

/-- What is known of the file that a path leads to. -/
def status (machine : Machine) (followsLast : Bool) (path : String) :
    Except FileFault FileStatus := do
  let number ← machine.disk.find followsLast machine.own.here path
  match (machine.disk.node number).body with
  | .device (.descriptor descriptor) =>
      match machine.descriptorStatus? descriptor with
      | some status => return status
      | none => throw .notFound
  | .directory _ _ => return machine.nodeStatus number
  | _ => if path.endsWith "/" then throw .notDirectory else return machine.nodeStatus number

def status? (machine : Machine) (path : String) : Option FileStatus :=
  (machine.status true path).toOption

def isDirectory (machine : Machine) (path : String) : Bool :=
  (machine.status? path).any fun status => status.kind == .directory

/-- The path of the directory that relative paths start from. -/
def herePath (machine : Machine) : String :=
  machine.disk.pathTo machine.own.here

end Machine

end HingeField.Shell
