import HingeField.Shell.Records.Store
import HingeField.Shell.Records.Token

/-!
Records from files and commands, and output to them. A file or command stays in
use under its name until it is closed.
-/

namespace HingeField.Shell.Records

/-! ### Records -/

/-- What ends a record. -/
inductive RecordEnd where
  | byte (c : Char)
  /-- Empty lines. -/
  | paragraph
  | regex (regex : Utility.Regex)

/-- What a text means as the end of records. -/
def recordEndOf (octets : String) : Running RecordEnd := do
  match octets.toList with
  | [] => return .paragraph
  | [c] => return .byte c
  | _ => return .regex (← regexOf octets)

/-- The lines up to an empty one, and the rest; `none` if there is none. -/
def paragraph? : List Char → Option (List Char × List Char)
  | [] => none
  | '\n' :: '\n' :: rest => some ([], rest.dropWhile (· == '\n'))
  | c :: rest => (paragraph? rest).map fun (lines, rest) => (c :: lines, rest)

/-- The first match that is not empty, from a place on. -/
def firstMatch? (regex : Utility.Regex) (matching : Utility.Matching) :
    Nat → Nat → Option (Nat × Nat)
  | 0, _ => none
  | fuel + 1, place =>
      match matching.find? regex place with
      | none => none
      | some (start, way) =>
          if start < way.place then some (start, way.place)
          else firstMatch? regex matching fuel (start + 1)

/-- The record at the start of some bytes, and the rest; `none` if more has to be read, or there is
no further record. -/
def RecordEnd.cut? (isAtEnd : Bool) (held : List Char) :
    RecordEnd → Option (List Char × List Char)
  | .byte c =>
      let record := held.takeWhile (· != c)
      match held.drop record.length with
      | _ :: rest => some (record, rest)
      | [] => if isAtEnd && !held.isEmpty then some (held, []) else none
  | .paragraph =>
      let held := held.dropWhile (· == '\n')
      match paragraph? held with
      | some (record, rest) => some (record, rest)
      | none =>
          if isAtEnd && !held.isEmpty then
            some (if held.getLast? == some '\n' then held.dropLast else held, [])
          else none
  | .regex between =>
      let matching : Utility.Matching := { text := held.toArray, isNarrow := true }
      match firstMatch? between matching (held.length + 2) 0 with
      | some (start, stop) =>
          if stop < held.length || isAtEnd then some (held.take start, held.drop stop) else none
      | none => if isAtEnd && !held.isEmpty then some (held, []) else none

/-- How many bytes are read at once. -/
def feedSize : Nat := 4096

/-- The next record, and what is left then. -/
def takeRecord (recordEnd : RecordEnd) : Nat → Feed → Running (Option String × Feed)
  | 0, feed => return (none, feed)
  | fuel + 1, feed => do
      match recordEnd.cut? feed.isAtEnd feed.held with
      | some (record, held) => return (some (String.ofList record), { feed with held })
      | none =>
          if feed.isAtEnd then return (none, { feed with held := [] })
          match ← onDesk (Utility.readUpTo feed.descriptor endlessSteps feedSize .empty) with
          | .error fault => abandon ("read error (" ++ faultText fault ++ ")")
          | .ok content =>
              let held := feed.held ++ (contentOctets content).toList
              takeRecord recordEnd fuel { feed with held, isAtEnd := content.size < feedSize }

/-- The next record of a feed, under the end of records that is set. -/
def nextRecord (feed : Feed) : Running (Option String × Feed) := do
  let recordEnd ← recordEndOf (← sharedText "RS")
  takeRecord recordEnd endlessSteps feed

/-! ### The input -/

/-- A setting of a variable: its name and value. -/
def setting? (text : String) : Option (String × String) :=
  let name := text.toList.takeWhile fun c => c.isAlphanum || c == '_'
  match text.toList.drop name.length with
  | '=' :: value =>
      if name.head?.any fun c => c.isAlpha || c == '_' then
        some (String.ofList name, String.ofList value)
      else none
  | _ => none

/-- Takes a setting that is given with the command. -/
def takeSetting (name value : String) : Running Unit := do
  let isFunction := (← get).functions.any fun function => function.name == name
  let isReserved := keywords.contains name || (builtins.lookup name).isSome || isFunction
  let isSet ← (do
    if isReserved then return false
    assignNamed name (unescape value))
  unless isSet do
    failRunning ("cannot command line assign to " ++ name ++ "\n\ttype clash or keyword")

/-- Opens a file of the input. -/
def openInput (name : String) : Running Unit := do
  let descriptor ← (do
    if name == "-" || name == "/dev/stdin" then return 0
    match ← (Course.openFrom 3 .forReading name : Running _) with
    | .ok descriptor => return descriptor
    | .error fault => abandon ("cannot open \x22" ++ name ++ "\x22 (" ++ faultText fault ++ ")"))
  modify fun store => { store with main? := some { descriptor }, isFed := true }
  setShared (numberOf "FILENAME") (.text name)
  setShared (numberOf "FNR") (.number 0.0)

/-- Goes on to the next file of the input. Settings among the arguments are taken on the way;
returns whether there is a file. -/
def openNext : Nat → Running Bool
  | 0 => return false
  | fuel + 1 => do
      let count := boundedWhole (← sharedDatum (numberOf "ARGC")).toFloat
      let number ← modifyGet fun store =>
        (store.nextArgument, { store with nextArgument := store.nextArgument + 1 })
      if (number : Int) < count then
        let table ← tableNumber (.shared (numberOf "ARGV"))
        let key : Key := { text := toString number, isWhole := true }
        match ← fromTable table (·.find? key) with
        | none => openNext fuel
        | some datum =>
            let operand ← textOf datum
            if operand.isEmpty then openNext fuel
            else
              match setting? operand with
              | some (name, value) =>
                  takeSetting name value
                  openNext fuel
              | none =>
                  openInput operand
                  return true
      else if (← get).isFed then return false
      else
        openInput "-"
        return true

/-- Closes the file of the input that is read. -/
def closeInput : Running Unit := do
  match (← get).main? with
  | none => pure ()
  | some feed =>
      if feed.descriptor ≠ 0 then Course.close feed.descriptor
      modify fun store => { store with main? := none }

/-- The next record of the input. -/
def nextOfInput : Nat → Running (Option String)
  | 0 => return none
  | fuel + 1 => do
      match ← modifyGet fun store => (store.main?, { store with main? := none }) with
      | none =>
          if ← openNext endlessSteps then nextOfInput fuel else return none
      | some feed =>
          let (record?, feed) ← nextRecord feed
          modify fun store => { store with main? := some feed }
          match record? with
          | some record =>
              countIn "NR"
              countIn "FNR"
              return some record
          | none =>
              closeInput
              nextOfInput fuel

/-! ### Streams -/

section

variable (launch : Utility.Launcher)

/-- The name by which the system calls its shell. -/
def shellName : String := "/bin/sh"

/-- Opens a file or command; `none` for a file that cannot be read. -/
def openStream (name : String) (use : StreamUse) (appends : Bool) :
    Running (Option Stream) := do
  let fileStream := fun descriptor : Nat => some ({ name, use, feed := { descriptor } } : Stream)
  match use with
  | .readFile =>
      if name == "-" || name == "/dev/stdin" then return fileStream 0
      match ← (Course.openFrom 3 .forReading name : Running _) with
      | .ok descriptor => return fileStream descriptor
      | .error _ => return none
  | .writeFile =>
      if name == "/dev/stdout" then return fileStream 1
      if name == "/dev/stderr" then return fileStream 2
      match ← (Course.openFrom 3 (if appends then .forAdding else .forWriting) name :
          Running _) with
      | .ok descriptor => return fileStream descriptor
      | .error fault =>
          abandon ("cannot open \x22" ++ name ++ "\x22 for output (" ++ faultText fault ++ ")")
  | .readCommand | .writeCommand =>
      onDesk Utility.flushAll
      let (child, descriptor) ← onDesk
        (Utility.startPiped launch shellName (use == .readCommand) name)
      return some { name, use, feed := { descriptor }, child? := some child }

/-- Puts a stream in front of the others. -/
def keepStream (stream : Stream) : Running Unit :=
  modify fun store =>
    let others := store.streams.filter fun other =>
      other.name != stream.name || other.use != stream.use
    { store with streams := stream :: others }

/-- The file or command of a name, which is opened if it is not in use. -/
def streamOf (name : String) (use : StreamUse) (appends : Bool) : Running (Option Stream) := do
  match (← get).streams.find? fun stream => stream.name == name && stream.use == use with
  | some stream =>
      keepStream stream
      return some stream
  | none =>
      match ← openStream launch name use appends with
      | some stream =>
          keepStream stream
          return some stream
      | none => return none

/-- The next record of a file or command; `none` if the file cannot be read. -/
def nextOfStream (name : String) (use : StreamUse) : Running (Option (Option String)) := do
  match ← streamOf launch name use false with
  | none => return none
  | some stream =>
      let (record?, feed) ← nextRecord stream.feed
      keepStream { stream with feed }
      return some record?

/-- Writes to a descriptor, some time; errors are written at once. -/
def putOn (descriptor : Nat) (octets : String) : Running Unit := do
  onDesk (Utility.putTo descriptor octets)
  if descriptor = 2 then onDesk (Utility.flushOutlet descriptor)

/-- Writes to a file or command. -/
def putToStream (destination : Destination) (name octets : String) : Running Unit := do
  let use : StreamUse := if destination = .command then .writeCommand else .writeFile
  match ← streamOf launch name use (destination == .fileEnd) with
  | none => pure ()
  | some stream => putOn stream.feed.descriptor octets

end

/-- How a process has ended, as a number. -/
def endingNumber (ending : Ending) : Nat :=
  match ending.signal? with
  | some signal => 256 + signal
  | none => ending.status

/-- Closes a stream; returns how its command has ended, or zero. -/
def closeStream (stream : Stream) : Running Nat := do
  let descriptor := stream.feed.descriptor
  onDesk (Utility.flushOutlet descriptor)
  if 2 < descriptor then Course.close descriptor
  match stream.child? with
  | none => return 0
  | some child => return endingNumber (← onDesk (Utility.awaitEnding child))

/-- Closes all that is in use under a name; returns what the last of it gives. -/
def closeNamed (name : String) : Running (Option Nat) := do
  let (closing, others) := (← get).streams.partition fun stream => stream.name == name
  modify fun store => { store with streams := others }
  let mut result := none
  for stream in closing do
    result := some (← closeStream stream)
  return result

/-- Closes all files and commands that are written to, and writes what is held. -/
def closeAll : Running Unit := do
  for stream in (← get).streams do
    if stream.use == .writeFile || stream.use == .writeCommand then
      let _ ← closeStream stream
  onDesk Utility.flushAll

end HingeField.Shell.Records
