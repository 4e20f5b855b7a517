import HingeField.Shell.Expansion
import HingeField.Shell.Names

/-!
Redirections: files are opened, made or emptied, and descriptors led to them,
to one another, or nowhere. What descriptors led to before is kept under other
numbers as long as a redirection lasts.
-/

namespace HingeField.Shell

/-- What the system says about a refused operation. -/
def faultText : FileFault → String
  | .notFound => "No such file or directory"
  | .alreadyExists => "File exists"
  | .isDirectory => "Is a directory"
  | .notDirectory => "Not a directory"
  | .notPermitted => "Permission denied"
  | .nameTooLong => "File name too long"
  | .embeddedNull => "Invalid argument"
  | .unknownFormat => "Exec format error"
  | .tooManyLinks => "Too many levels of symbolic links"
  | .notEmpty => "Directory not empty"
  | .invalid => "Invalid argument"
  | .noDevice => "No such device or address"
  | .notAllowed => "Operation not permitted"
  | .badDescriptor => "Bad file descriptor"
  | .brokenPipe => "Broken pipe"
  | .noSpace => "No space left on device"
  | .busy => "Device or resource busy"

/-- What is said about a path that leads nowhere stands in for both its reasons. -/
def refusalText (missing : String) (fault : FileFault) : String :=
  match fault with
  | .notFound | .notDirectory => missing
  | fault => faultText fault

/-- Fails because a file cannot be opened, or be made. -/
def refuseOpening {α : Type} (kind : RedirectionKind) (name : String) (fault : FileFault) :
    Act α := do
  if (← get).isWordy then
    complain (name ++ ": " ++ faultText fault)
    setStatus 1
    throw .failure
  match kind with
  | .read => fail ("cannot open " ++ name ++ ": " ++ refusalText "No such file" fault)
  | _ => fail ("cannot create " ++ name ++ ": " ++ refusalText "Directory nonexistent" fault)

/-- How a file is opened for a redirection. A file that is there may be protected. -/
def openingOf (kind : RedirectionKind) (protectedKind? : Option FileKind) : Opening :=
  match kind, protectedKind? with
  | .read, _ => .forReading
  | .readWrite, _ => { reads := true, writes := true, creates := true }
  | .append, _ => .forAdding
  | .write, some .regular => { writes := true, creates := true, isNew := true }
  | .write, some _ => { writes := true }
  | _, _ => .forWriting

/-- Opens what a name leads to; returns the number of the channel. -/
def openNamed (kind : RedirectionKind) (name : String) : Act Nat := do
  let isProtected := (← get).hasSetting 'C'
  let kind? ← Course.ask fun machine =>
    if isProtected then (machine.status? name).map FileStatus.kind else none
  match ← Course.openPath (openingOf kind kind?) name with
  | .ok channel => return channel
  | .error fault => refuseOpening kind name fault

/-- A redirection whose target has been expanded. A descriptor to copy is checked then. -/
inductive Lead where
  | named (descriptor : Nat) (kind : RedirectionKind) (name : String)
  | copied (descriptor source : Nat)
  | closed (descriptor : Nat)
  | given (descriptor : Nat) (octets : String)

def Lead.descriptor : Lead → Nat
  | .named descriptor _ _ => descriptor
  | .copied descriptor _ => descriptor
  | .closed descriptor => descriptor
  | .given descriptor _ => descriptor

def expandRedirection (outputOf : Command → Act String) (fuel : Nat) (redirection : Redirection) :
    Act Lead := do
  let descriptor := redirection.descriptor
  match redirection.kind with
  | .document number =>
      let word := ((← get).documents.lookup number).getD []
      return .given descriptor (textOf (← expandParts outputOf fuel {} false word))
  | .copy =>
      let text := textOf (← expandWord outputOf fuel {} redirection.target)
      match text.toList with
      | ['-'] => return .closed descriptor
      | [c] =>
          if c.isDigit then return .copied descriptor (c.toNat - '0'.toNat)
          else fail "Syntax error: Bad fd number"
      | _ => fail "Syntax error: Bad fd number"
  | kind =>
      return .named descriptor kind (textOf (← expandWord outputOf fuel {} redirection.target))

/-- Leads a descriptor as an expanded redirection says. -/
def follow : Lead → Act Unit
  | .named descriptor kind name => do Course.lead descriptor (← openNamed kind name)
  | .closed descriptor => Course.close descriptor
  | .given descriptor octets => do
      let (input, _) ← Course.makePipe (octetsContent octets)
      Course.lead descriptor input
  | .copied descriptor source => do
      if descriptor ≠ source then
        match ← Course.ask fun machine => machine.own.descriptor? source with
        | some found => Course.lead descriptor found.channel
        | none => fail (toString source ++ ": Bad file descriptor")

/-- The least number of the descriptors that only the script itself uses. -/
def firstOwnDescriptor : Nat := 10

/-- Keeps what a descriptor leads to under another number, returned if it leads anywhere. -/
def keepDescriptor (descriptor : Nat) : Act (Nat × Option Nat) := do
  match ← Course.ask fun machine => machine.own.descriptor? descriptor with
  | none => return (descriptor, none)
  | some found =>
      let number ← Course.ask fun machine => machine.own.freeNumber firstOwnDescriptor
      Course.onMachine fun machine =>
        machine.modifyOwn fun process =>
          process.lead { number, channel := found.channel, isOwn := true }
      return (descriptor, some number)

/-- Leads a descriptor back to what is kept under another number. -/
def restoreDescriptor (kept : Nat × Option Nat) : Act Unit :=
  Course.onMachine fun machine =>
    machine.modifyOwn fun process =>
      match kept.2.bind process.descriptor? with
      | some found =>
          (process.lead { number := kept.1, channel := found.channel }).close found.number
      | none => process.close kept.1

/-- Takes a step that may lead descriptors elsewhere, and then leads them back. -/
def keepingDescriptors {α : Type} (descriptors : List Nat) (act : Act α) : Act α := do
  let kept ← descriptors.eraseDups.mapM keepDescriptor
  let outcome ← outcomeOf act
  kept.forM restoreDescriptor
  match outcome with
  | .ok value => return value
  | .error stop => throw stop

end HingeField.Shell
