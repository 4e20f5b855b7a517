import HingeField.Shell.Records.Datum
import HingeField.Shell.Records.Expression
import HingeField.Shell.Records.Format
import HingeField.Shell.Records.Tree
import HingeField.Shell.Utility.Launch
import Std.Data.HashMap

/-!
What a running program for records has in hand: its variables and tables, the
record and its fields, and the files and commands it reads from and writes to.

The keys of a table are taken in an order that is settled by hash values: each
key belongs to one of some places, and of the keys of a place those that were
looked for last come first. Keys that were only used as numbers get their place
when all keys are asked for, or the first one is used as a text.

Fields are taken from the record when one is asked for, and the record is made up
from the fields when they have changed.
-/

namespace HingeField.Shell.Records

/-- A key, and whether it is given as a whole number. -/
structure Key where
  text : String
  isWhole : Bool := false

structure Entry where
  datum : Datum := .unset
  /-- The number of the key and when it was last looked for as one. -/
  asNumber? : Option (Int × Nat) := none
  /-- When the key was last looked for as a text. -/
  asText? : Option Nat := none

structure Table where
  entries : Std.HashMap String Entry := {}
  /-- How often keys have been looked for. -/
  clock : Nat := 0
  /-- Whether all keys have places as texts. -/
  isByText : Bool := false
  places : Nat := 64

/-- A hash value of a text: each byte in turn is put in by an exclusive or, and then a prime
multiplied. -/
def hashOf (octets : String) : Nat :=
  octets.foldl (fun hash c => ((hash ^^^ c.toNat) * 16777619) % 0x100000000) 2166136261

/-- The most keys a place may have, taken over all places. -/
def crowd : Nat := 12

namespace Table

def size (table : Table) : Nat :=
  table.entries.size

/-- The datum under a key. -/
def find? (table : Table) (key : Key) : Option Datum :=
  table.entries[key.text]?.map Entry.datum

/-- Gives each key that was only used as a number its place as a text. -/
def byText (table : Table) : Table :=
  if table.isByText then table
  else
    let numbered := table.entries.toList.filterMap fun (key, entry) =>
      match entry.asText?, entry.asNumber? with
      | none, some (number, time) => some (key, number, time)
      | _, _ => none
    let place := fun number : Int => number % (table.places : Int)
    let ordered := numbered.mergeSort fun (_, first, firstTime) (_, second, secondTime) =>
      place first < place second || (place first == place second && secondTime ≤ firstTime)
    match table with
    | { entries, clock, places, .. } =>
        let (entries, clock) :=
          ordered.foldl
            (fun ((entries, clock) : Std.HashMap String Entry × Nat) (key, _) =>
              (entries.modify key fun entry => { entry with asText? := some clock }, clock + 1))
            (entries, clock)
        { entries, clock, places, isByText := true }

/-- Notes that a key has been looked for. Only a key that is there, or is to be made, gets a place
by that. -/
def lookFor (makes : Bool) (key : Key) (table : Table) : Table :=
  let number? := if key.isWhole then key.text.toInt? else none
  let table := if number?.isNone then table.byText else table
  match table with
  | { entries, clock, isByText, places } =>
      let isNew := !entries.contains key.text
      if isNew && !makes then { entries, clock, isByText, places }
      else
        let noted := fun entry : Entry =>
          match number?, entry.asNumber? with
          | none, _ => { entry with asText? := some clock }
          | some number, some _ => { entry with asNumber? := some (number, clock) }
          | some number, none =>
              { entry with
                asNumber? := some (number, clock)
                asText? := if isByText then some clock else entry.asText? }
        let entries :=
          entries.alter key.text fun entry => some (noted (entry.getD {}))
        let places := if crowd * places < entries.size then 2 * places else places
        { entries, clock := clock + 1, isByText, places }

/-- Puts a datum under a key. -/
def put (key : Key) (datum : Datum) (table : Table) : Table :=
  match table.lookFor true key with
  | { entries, clock, isByText, places } =>
      { entries := entries.modify key.text fun entry => { entry with datum }
        clock, isByText, places }

def erase (key : Key) (table : Table) : Table :=
  match table.lookFor false key with
  | { entries, clock, isByText, places } =>
      { entries := entries.erase key.text, clock, isByText, places }

/-- All keys in their order. -/
def keys (table : Table) : List String :=
  let placed := table.entries.toList.map fun (key, entry) =>
    (key, hashOf key % table.places, entry.asText?.getD 0)
  let ordered := placed.mergeSort fun (_, first, firstTime) (_, second, secondTime) =>
    first < second || (first == second && secondTime ≤ firstTime)
  ordered.map (·.1)

/-- A table of data under the numbers from one on. -/
def ofList (data : List Datum) : Table :=
  (data.zipIdx 1).foldl
    (fun table (datum, number) => table.put { text := toString number, isWhole := true } datum) {}

end Table

/-- A place for a variable: one that all functions share, or one of a call. -/
inductive Owner where
  | shared (number : Nat)
  | own (call number : Nat)

/-- What a variable holds. -/
inductive Slot where
  | unset
  | datum (datum : Datum)
  | table (number : Nat)
  /-- It was given as an argument when it was neither a variable nor a table yet. -/
  | given (owner : Owner)

/-- What is read from a descriptor. -/
structure Feed where
  descriptor : Nat
  /-- The bytes that have been read and not been used. -/
  held : List Char := []
  isAtEnd : Bool := false

/-- What a file or command is used for. -/
inductive StreamUse where
  | readFile
  | readCommand
  | writeFile
  | writeCommand
deriving DecidableEq

/-- A file or command in use. -/
structure Stream where
  name : String
  use : StreamUse
  feed : Feed
  child? : Option Nat := none

structure Store where
  desk : Utility.Desk
  /-- The name of the command, for messages. -/
  command : String
  functions : Array Function
  names : Array String
  shared : Array Slot
  calls : Array (Array Slot) := #[]
  tables : Array Table := #[]
  /-- The record, and whether it is up to date. -/
  record : String := ""
  isJoined : Bool := true
  /-- The fields, and whether they are up to date. -/
  fields : Array Datum := #[]
  isSplit : Bool := true
  main? : Option Feed := none
  /-- The number of the argument that is looked at next. -/
  nextArgument : Nat := 1
  /-- Whether some input has been opened. -/
  isFed : Bool := false
  /-- The files and commands in use, the one used last first. -/
  streams : List Stream := []
  /-- The regular expressions of texts. -/
  expressions : Std.HashMap String Utility.Regex := {}
  /-- The ranges of records that have started. -/
  started : List Nat := []
  seed : Float := 0.0
  random : Nat := 1
  status : Nat := 0

/-- Where a program goes on in place of the next statement. -/
inductive Halt where
  | nextRecord
  | nextFile
  | leave
  | failed

abbrev Running := Course Halt Store

/-! ### Faults -/

/-- Says something on the error output, and ends with a failure. -/
def abandon {α : Type} (text : String) : Running α := do
  let command ← modifyGet fun store => (store.command, { store with status := 2 })
  let _ ← (Course.write 2 (octetsContent (command ++ ": " ++ text ++ "\n")) : Running _)
  throw .failed

/-- Does something with what is to be written. -/
def onDesk {α : Type} (work : Utility.Work α) : Running α := do
  let desk := (← get).desk
  let (outcome, desk) ← Course.within desk work
  modify fun store => { store with desk }
  match outcome with
  | .ok value => return value
  | .error () =>
      let fault := desk.fault?.getD .noSpace
      modify fun store => { store with desk := { store.desk with fault? := none } }
      abandon ("close failed on file \x22/dev/stdout\x22 (" ++ faultText fault ++ ")")

/-! ### Variables -/

def slotOf (name : Name) : Running Slot := do
  let store ← get
  match name with
  | .shared number => return store.shared[number]?.getD .unset
  | .own number => return (store.calls.back?.bind fun call => call[number]?).getD .unset

def ownerOf (name : Name) : Running Owner := do
  match name with
  | .shared number => return .shared number
  | .own number => return .own ((← get).calls.size - 1) number

def Store.slot (store : Store) : Owner → Slot
  | .shared number => store.shared[number]?.getD .unset
  | .own call number => (store.calls[call]?.bind fun call => call[number]?).getD .unset

def Store.setSlot (store : Store) (owner : Owner) (slot : Slot) : Store :=
  match owner with
  | .shared number => { store with shared := store.shared.setIfInBounds number slot }
  | .own call number =>
      { store with calls := store.calls.modify call fun call => call.setIfInBounds number slot }

def Slot.datum? : Slot → Option Datum
  | .datum held => some held
  | _ => none

def variableOf (name : Name) : Running Datum := do
  return ((← slotOf name).datum?).getD .unset

def sharedDatum (number : Nat) : Running Datum :=
  variableOf (.shared number)

def setShared (number : Nat) (datum : Datum) : Running Unit :=
  modify fun store => store.setSlot (.shared number) (.datum datum)

/-- The table of a variable, which is made one if it is neither a variable nor a table yet. -/
def tableOf : Nat → Owner → Running Nat
  | 0, _ => return 0
  | fuel + 1, owner => do
      match (← get).slot owner with
      | .table number => return number
      | .given giver =>
          let number ← tableOf fuel giver
          modify fun store => store.setSlot owner (.table number)
          return number
      | _ =>
          modifyGet fun store =>
            let number := store.tables.size
            let store := { store with tables := store.tables.push {} }
            (number, store.setSlot owner (.table number))

def tableNumber (name : Name) : Running Nat := do
  let owner ← ownerOf name
  tableOf ((← get).calls.size + 2) owner

def onTable (number : Nat) (change : Table → Table) : Running Unit :=
  modify fun store => { store with tables := store.tables.modify number change }

def fromTable {α : Type} (number : Nat) (question : Table → α) : Running α := do
  return question ((← get).tables[number]?.getD {})

def fieldSeparator : Nat := numberOf "FS"

def convertFormat : Running String := do
  match ← sharedDatum (numberOf "CONVFMT") with
  | .text octets | .input octets => return octets
  | _ => return "%.6g"

def textOf (datum : Datum) : Running String := do
  match datum with
  | .number value => return numberText (← convertFormat) value
  | datum => return datum.toText ""

def sharedText (name : String) : Running String := do
  textOf (← sharedDatum (numberOf name))

/-- Ends with a failure that comes up while the program runs. -/
def failRunning {α : Type} (text : String) : Running α := do
  let file ← sharedText "FILENAME"
  let inFile ← sharedText "FNR"
  let inAll ← sharedText "NR"
  abandon ("run time error: " ++ text ++ "\n\tFILENAME=\x22" ++ file ++ "\x22 FNR=" ++ inFile ++
    " NR=" ++ inAll)

/-- A datum as a key. -/
def keyOf (datum : Datum) : Running Key := do
  match datum with
  | .number value =>
      return { text := ← textOf datum, isWhole := (wholeText? value).isSome }
  | datum => return { text := datum.toText "" }

/-! ### Regular expressions -/

/-- The regular expression of a text. -/
def regexOf (source : String) : Running Utility.Regex := do
  match (← get).expressions[source]? with
  | some regex => return regex
  | none =>
      match readExpression source with
      | .ok regex =>
          modify fun store =>
            { store with expressions := store.expressions.insert source regex }
          return regex
      | .error defect =>
          failRunning ("regular expression compile failed (" ++ defect.message ++ ")\n" ++ source)

/-! ### Fields -/

/-- What stands between fields. -/
inductive Separator where
  | blanks
  | nothing
  | byte (c : Char)
  | regex (regex : Utility.Regex)

/-- What a text means as a separator. -/
def separatorOf (octets : String) : Running Separator := do
  match octets.toList with
  | [] => return .nothing
  | [' '] => return .blanks
  | [c] => return .byte c
  | _ => return .regex (← regexOf octets)

/-- The words of a text. -/
def wordsOf (text : List Char) : List (List Char) :=
  text.splitBy (fun first second => isGap first == isGap second)
    |>.filter fun piece => !piece.any isGap
where
  isGap (c : Char) : Bool := c == ' ' || c == '\t' || c == '\n'

/-- The pieces of a text between matches that are not empty. -/
def piecesBy (regex : Utility.Regex) (matching : Utility.Matching) :
    Nat → Nat → Nat → List (List Char)
  | 0, _, _ => []
  | fuel + 1, start, place =>
      let piece := fun stop : Nat => (matching.text.extract start stop).toList
      match matching.find? regex place with
      | none => [piece matching.text.size]
      | some (found, way) =>
          if found = way.place then
            if matching.text.size ≤ found then [piece matching.text.size]
            else piecesBy regex matching fuel start (found + 1)
          else piece found :: piecesBy regex matching fuel way.place way.place

def Separator.split (separator : Separator) (octets : String) : List String :=
  if octets.isEmpty then []
  else
    match separator with
    | .blanks => (wordsOf octets.toList).map String.ofList
    | .nothing => octets.toList.map String.singleton
    | .byte c => octets.splitOn (String.singleton c)
    | .regex between =>
        let matching := matchingOf octets
        (piecesBy between matching (octets.length + 2) 0 0).map String.ofList

/-- Takes the fields from the record if that is still to be done. -/
def splitRecord : Running Unit := do
  let store ← get
  unless store.isSplit do
    let separator ← separatorOf (← sharedText "FS")
    let fields := ((separator.split (← get).record).map Datum.input).toArray
    modify fun store => { store with fields, isSplit := true }

/-- The record, made up from the fields if they have changed. -/
def recordText : Running String := do
  let store ← get
  if store.isJoined then return store.record
  let between ← sharedText "OFS"
  let pieces ← store.fields.toList.mapM textOf
  let record := String.intercalate between pieces
  modify fun store => { store with record, isJoined := true }
  return record

def setRecord (octets : String) : Running Unit :=
  modify fun store => { store with record := octets, isJoined := true, isSplit := false }

def fieldCount : Running Nat := do
  splitRecord
  return (← get).fields.size

/-- The most fields a record may have. -/
def mostFields : Nat := 0x1000000

/-- Changes the number of fields; new ones are empty. -/
def setFieldCount (value : Float) : Running Unit := do
  splitRecord
  let count := (truncated? value).getD 0
  if count < 0 then failRunning "negative value assigned to NF"
  let count := min count.toNat mostFields
  modify fun store =>
    let size := store.fields.size
    { store with
      fields := store.fields.extract 0 count ++ Array.replicate (count - size) (Datum.text "")
      isJoined := false }

/-- The number of a field. -/
def fieldNumber (datum : Datum) : Running Nat := do
  let number := (truncated? datum.toFloat).getD 0
  if number < 0 then failRunning ("negative field index $" ++ toString number)
  if mostFields < number.toNat then
    failRunning ("maximum field index exceeded by $" ++ toString number)
  return number.toNat

/-- A field, or the record for zero. -/
def fieldOf (number : Nat) : Running Datum := do
  if number = 0 then return .input (← recordText)
  splitRecord
  return (← get).fields[number - 1]?.getD .unset

def setField (number : Nat) (datum : Datum) : Running Unit := do
  if number = 0 then setRecord (← textOf datum)
  else
    splitRecord
    modify fun store =>
      let missing := number - store.fields.size
      let fields := store.fields ++ Array.replicate missing (Datum.text "")
      { store with fields := fields.setIfInBounds (number - 1) datum, isJoined := false }

/-- Sets a variable. The fields of the record are those that it had under the separator before. -/
def setVariable (name : Name) (datum : Datum) : Running Unit := do
  if name = .shared fieldSeparator then splitRecord
  let owner ← ownerOf name
  modify fun store => store.setSlot owner (.datum datum)

/-- Counts one more in a variable. -/
def countIn (name : String) : Running Unit := do
  let number := numberOf name
  setShared number (.number ((← sharedDatum number).toFloat + 1.0))

/-- Sets a variable as an argument or option asks for it; a name that the program does not have
has no effect. Returns whether the name can be set. -/
def assignNamed (name octets : String) : Running Bool := do
  let datum := Datum.input octets
  if name = "NF" then return true
  match (← get).names.findIdx? (· == name) with
  | none => return true
  | some number =>
      match ← slotOf (.shared number) with
      | .table _ => return false
      | _ =>
          setVariable (.shared number) datum
          return true

end HingeField.Shell.Records
