import HingeField.Shell.Records.Reader
import HingeField.Shell.Records.Stream
import HingeField.Shell.Records.Substitution
import HingeField.Shell.Utility.Calendar

/-!
Carrying out programs for records: expressions give data, statements tell where
the program goes on.
-/

namespace HingeField.Shell.Records

/-- Where a program goes on behind a statement. -/
inductive Flow where
  | on
  | leaveLoop
  | repeatLoop
  /-- The function at hand has a result. -/
  | result (datum : Datum)

/-- What a datum can be put into. -/
inductive Spot where
  | variable (name : Name)
  | element (table : Nat) (key : Key)
  | field (number : Nat)
  | count

def Spot.read : Spot → Running Datum
  | .variable name => variableOf name
  | .element table key => do
      let found? ← fromTable table (·.find? key)
      onTable table (·.lookFor true key)
      return found?.getD .unset
  | .field number => fieldOf number
  | .count => return Datum.ofNat (← fieldCount)

def Spot.write (datum : Datum) : Spot → Running Unit
  | .variable name => setVariable name datum
  | .element table key => onTable table (·.put key datum)
  | .field number => setField number datum
  | .count => setFieldCount datum.toFloat

def Operator.apply (first second : Float) : Operator → Float
  | .add => first + second
  | .subtract => first - second
  | .multiply => first * second
  | .divide => first / second
  | .remainder => remainderOf first second
  | .power => first.pow second

/-- The order of two data: of numbers if both can be numbers, and of texts otherwise. -/
def order (first second : Datum) : Running Ordering := do
  match first.figure?, second.figure? with
  | some first, some second =>
      return if first < second then .lt else if second < first then .gt else .eq
  | _, _ => return Ord.compare (← textOf first) (← textOf second)

def Comparison.holds (ordering : Ordering) : Comparison → Bool
  | .less => ordering == .lt
  | .atMost => ordering != .gt
  | .equal => ordering == .eq
  | .different => ordering != .eq
  | .atLeast => ordering != .lt
  | .greater => ordering == .gt

/-- The most calls of functions in each other. -/
def mostCalls : Nat := 1000

/-- What is left of a status. -/
def statusOf (datum : Datum) : Nat :=
  (boundedWhole datum.toFloat % 256).toNat

/-- The next of numbers that look as if they came by chance. -/
def scattered (state : Nat) : Nat :=
  (state * 6364136223846793005 + 1442695040888963407) % 0x10000000000000000

/-- Seconds since the start of the calendar. -/
def secondsNow : Running Int := do
  return (← (Course.ask Machine.time : Running Int)) / CalendarTime.perSecond

/-- The time that six numbers name. -/
def secondsOf? (text : String) : Option Int :=
  match (wordsOf text.toList).map fun word => (String.ofList word).toInt? with
  | some year :: some month :: some day :: some hour :: some minute :: some second :: _ =>
      some (CalendarTime.daysOf year month day * 86400 + hour * 3600 + minute * 60 + second)
  | _ => none

/-- A record to print. -/
def printedItem (datum : Datum) : Running String := do
  match datum with
  | .number value => return numberText (← sharedText "OFMT") value
  | datum => textOf datum

/-- A function of a number. -/
def numeric? : Builtin → Option (Float → Float)
  | .integral => some integralPart
  | .sine => some Float.sin
  | .cosine => some Float.cos
  | .exponential => some Float.exp
  | .logarithm => some Float.log
  | .root => some Float.sqrt
  | _ => none

section

variable (launch : Utility.Launcher)

/-- A line has been taken for the record or another target, or not. -/
def settle (record? : Option (Option String)) (put : String → Running Unit) : Running Datum := do
  match record? with
  | none => return .number (-1.0)
  | some none => return .number 0.0
  | some (some record) =>
      put record
      return .number 1.0

mutual

def evaluate : Nat → Expr → Running Datum
  | 0, _ => throw .failed
  | fuel + 1, expr => do
      match expr with
      | .number value => return .number value
      | .text octets => return .text octets
      | .regex regex => return Datum.ofBool (isFoundIn (← recordText) regex)
      | .name _ | .element .. | .field _ | .fieldCount => (← spotOf fuel expr).read
      | .assign operator? target value =>
          let spot ← spotOf fuel target
          match operator? with
          | none =>
              let datum ← evaluate fuel value
              spot.write datum
              return datum
          | some operator =>
              let second := (← evaluate fuel value).toFloat
              let first := (← spot.read).toFloat
              let datum := Datum.number (operator.apply first second)
              spot.write datum
              return datum
      | .step isBefore isUp target =>
          let spot ← spotOf fuel target
          let before := (← spot.read).toFloat
          let after := if isUp then before + 1.0 else before - 1.0
          spot.write (.number after)
          return .number (if isBefore then after else before)
      | .choice condition yes no =>
          if (← evaluate fuel condition).isTrue then evaluate fuel yes else evaluate fuel no
      | .both first second =>
          if (← evaluate fuel first).isTrue then
            return Datum.ofBool (← evaluate fuel second).isTrue
          else return Datum.ofBool false
      | .either first second =>
          if (← evaluate fuel first).isTrue then return Datum.ofBool true
          else return Datum.ofBool (← evaluate fuel second).isTrue
      | .not operand => return Datum.ofBool !(← evaluate fuel operand).isTrue
      | .minus operand => return .number (-(← evaluate fuel operand).toFloat)
      | .plus operand => return .number (← evaluate fuel operand).toFloat
      | .arithmetic operator first second =>
          let first := (← evaluate fuel first).toFloat
          let second := (← evaluate fuel second).toFloat
          return .number (operator.apply first second)
      | .compare comparison first second =>
          let first ← evaluate fuel first
          let second ← evaluate fuel second
          return Datum.ofBool (comparison.holds (← order first second))
      | .join first second =>
          let first ← textOf (← evaluate fuel first)
          let second ← textOf (← evaluate fuel second)
          return .text (first ++ second)
      | .fits isNegated subject pattern =>
          let subject ← textOf (← evaluate fuel subject)
          let regex ← patternOf fuel pattern
          return Datum.ofBool (isFoundIn subject regex != isNegated)
      | .isKey key table =>
          let key ← keyFor fuel key
          let number ← tableNumber table
          let found? ← fromTable number (·.find? key)
          onTable number (·.lookFor false key)
          return Datum.ofBool found?.isSome
      | .call function arguments => call fuel function arguments
      | .builtin function arguments => callBuiltin fuel function arguments
      | .take target? =>
          let put ← putterOf fuel target?
          settle (some (← nextOfInput endlessSteps)) put
      | .takeOf file target? =>
          let put ← putterOf fuel target?
          let name ← textOf (← evaluate fuel file)
          settle (← nextOfStream launch name .readFile) put
      | .takeFrom command target? =>
          let name ← textOf (← evaluate fuel command)
          let put ← putterOf fuel target?
          settle (← nextOfStream launch name .readCommand) put

/-- Where a place of an expression is. -/
def spotOf : Nat → Expr → Running Spot
  | 0, _ => throw .failed
  | fuel + 1, expr => do
      match expr with
      | .name name => return .variable name
      | .element table key =>
          let key ← keyFor fuel key
          return .element (← tableNumber table) key
      | .field number => return .field (← fieldNumber (← evaluate fuel number))
      | _ => return .count

/-- How a line is put into the record or another target. -/
def putterOf : Nat → Option Expr → Running (String → Running Unit)
  | 0, _ => throw .failed
  | fuel + 1, target? => do
      match target? with
      | none => return setRecord
      | some target =>
          let spot ← spotOf fuel target
          return fun record => spot.write (.input record)

/-- The key that expressions give together. -/
def keyFor : Nat → List Expr → Running Key
  | 0, _ => throw .failed
  | fuel + 1, exprs => do
      match exprs with
      | [expr] => keyOf (← evaluate fuel expr)
      | exprs =>
          let texts ← textsOf fuel exprs
          return { text := String.intercalate (← sharedText "SUBSEP") texts }

def dataOf : Nat → List Expr → Running (List Datum)
  | 0, _ => throw .failed
  | _ + 1, [] => return []
  | fuel + 1, expr :: rest => do
      let first ← evaluate fuel expr
      return first :: (← dataOf fuel rest)

def textsOf : Nat → List Expr → Running (List String)
  | 0, _ => throw .failed
  | _ + 1, [] => return []
  | fuel + 1, expr :: rest => do
      let first ← textOf (← evaluate fuel expr)
      return first :: (← textsOf fuel rest)

/-- The regular expression that an expression gives. -/
def patternOf : Nat → Expr → Running Utility.Regex
  | 0, _ => throw .failed
  | fuel + 1, expr => do
      match expr with
      | .regex regex => return regex
      | expr => regexOf (← textOf (← evaluate fuel expr))

/-- What the arguments of a call give: a name that is no variable yet is handed on. -/
def argumentsOf : Nat → List Expr → Running (List Slot)
  | 0, _ => throw .failed
  | _ + 1, [] => return []
  | fuel + 1, expr :: rest => do
      let slot ← (do
        match expr with
        | .name name =>
            match ← slotOf name with
            | .unset => return Slot.given (← ownerOf name)
            | slot => return slot
        | expr => return Slot.datum (← evaluate fuel expr))
      return slot :: (← argumentsOf fuel rest)

def call : Nat → Nat → List Expr → Running Datum
  | 0, _, _ => throw .failed
  | fuel + 1, number, arguments => do
      let given ← argumentsOf fuel arguments
      if mostCalls < (← get).calls.size then
        abandon "program limit exceeded: eval stack size=1024"
      match (← get).functions[number]? with
      | none => return .unset
      | some function =>
          let missing := function.arity - given.length
          let slots := (given ++ List.replicate missing Slot.unset).toArray
          modify fun store => { store with calls := store.calls.push slots }
          let flow ← runAll fuel function.body
          modify fun store => { store with calls := store.calls.pop }
          match flow with
          | .result datum => return datum
          | _ => return .unset

def callBuiltin : Nat → Builtin → List Expr → Running Datum
  | 0, _, _ => throw .failed
  | fuel + 1, function, arguments => do
      match function, arguments with
      | .length, [] => return Datum.ofNat (← recordText).length
      | .length, .name name :: _ =>
          match ← slotOf name with
          | .table number => return Datum.ofNat (← fromTable number Table.size)
          | .given owner =>
              match (← get).slot owner with
              | .table number => return Datum.ofNat (← fromTable number Table.size)
              | _ => return .number 0.0
          | _ => return Datum.ofNat (← textOf (← variableOf name)).length
      | .split, subject :: .name name :: rest =>
          let octets ← textOf (← evaluate fuel subject)
          let separator ← (do
            match rest with
            | [] => separatorOf (← sharedText "FS")
            | .regex regex :: _ => return Separator.regex regex
            | expr :: _ => separatorOf (← textOf (← evaluate fuel expr)))
          let pieces := separator.split octets
          let number ← tableNumber name
          onTable number fun _ => Table.ofList (pieces.map Datum.input)
          return Datum.ofNat pieces.length
      | .substitute isGlobal, pattern :: replacement :: target =>
          let regex ← patternOf fuel pattern
          let replacement ← textOf (← evaluate fuel replacement)
          let spot ← (do
            match target with
            | [] => return Spot.field 0
            | target :: _ => spotOf fuel target)
          let (octets, count) :=
            replaced regex isGlobal replacement (← textOf (← spot.read))
          if count ≠ 0 then spot.write (.text octets)
          return Datum.ofNat count
      | .findMatch, subject :: pattern :: _ =>
          let octets ← textOf (← evaluate fuel subject)
          let regex ← patternOf fuel pattern
          let (start, length) : Nat × Float :=
            match (matchingOf octets).find? regex 0 with
            | some (start, way) => (start + 1, Float.ofNat (way.place - start))
            | none => (0, -1.0)
          setShared (numberOf "RSTART") (Datum.ofNat start)
          setShared (numberOf "RLENGTH") (.number length)
          return Datum.ofNat start
      | function, arguments => callSimple function (← dataOf fuel arguments)

/-- A function that only needs the data it is given. -/
def callSimple (function : Builtin) (data : List Datum) : Running Datum := do
  let first := data.headD .unset
  match numeric? function with
  | some value => return .number (value first.toFloat)
  | none =>
      match function with
      | .length => return Datum.ofNat (← textOf first).length
      | .index => return Datum.ofNat (indexIn (← textOf first) (← textOf (data.getD 1 .unset)))
      | .substring =>
          let start := boundedWhole (data.getD 1 .unset).toFloat
          let length? := data[2]?.map fun length => boundedWhole length.toFloat
          return .text (substring (← textOf first) start length?)
      | .format =>
          let format ← textOf first
          let converting ← convertFormat
          let (text, defect?) := formatted (Datum.toText converting) format (data.drop 1)
          match defect? with
          | none => return .text text
          | some defect => failRunning (defect.message "sprintf" format)
      | .upper => return .text ((← textOf first).map Char.toUpper)
      | .lower => return .text ((← textOf first).map Char.toLower)
      | .arctangent => return .number (Float.atan2 first.toFloat (data.getD 1 .unset).toFloat)
      | .random =>
          let state ← modifyGet fun store =>
            let state := scattered store.random
            (state, { store with random := state })
          return .number (Float.ofNat (state / 0x100000000) / 4294967296.0)
      | .seed =>
          let seed ← (do
            if data.isEmpty then return floatOfInt (← secondsNow)
            return first.toFloat)
          let before ← modifyGet fun store =>
            let random := (boundedWhole seed % 0x10000000000000000).toNat
            (store.seed, { store with seed, random })
          return .number before
      | .system =>
          let command ← textOf first
          let refusal := fun fault : FileFault => shellName ++ ": " ++ faultText fault
          let ending ← onDesk (Utility.runProgram launch refusal id [shellName, "-c", command])
          return Datum.ofNat (endingNumber ending)
      | .close =>
          match ← closeNamed (← textOf first) with
          | some status => return Datum.ofNat status
          | none => return .number (-1.0)
      | .flush =>
          if data.isEmpty then
            onDesk Utility.flushAll
            return .number 0.0
          let name ← textOf first
          match (← get).streams.find? fun stream => stream.name == name with
          | some stream =>
              onDesk (Utility.flushOutlet stream.feed.descriptor)
              return .number 0.0
          | none =>
              if name == "/dev/stdout" then
                onDesk Utility.flush
                return .number 0.0
              return .number (-1.0)
      | .time => return .number (floatOfInt (← secondsNow))
      | .showTime =>
          let format ← (do
            if data.isEmpty then return "%c"
            textOf first)
          let seconds ← (do
            match data[1]? with
            | some time => return boundedWhole time.toFloat
            | none => secondsNow)
          let time := CalendarTime.ofNanoseconds (seconds * CalendarTime.perSecond)
          return .text (time.format (format.length + 1) format.toList)
      | .makeTime =>
          return .number (floatOfInt ((secondsOf? (← textOf first)).getD (-1)))
      | _ => return .unset

/-- Puts out what is printed. -/
def putOut : Nat → Option (Destination × Expr) → String → Running Unit
  | 0, _, _ => throw .failed
  | fuel + 1, target?, octets => do
      match target? with
      | none => onDesk (Utility.put octets)
      | some (destination, target) =>
          let name ← textOf (← evaluate fuel target)
          putToStream launch destination name octets

def run : Nat → Statement → Running Flow
  | 0, _ => throw .failed
  | fuel + 1, statement => do
      Course.spend 1
      match statement with
      | .compute expr =>
          let _ ← evaluate fuel expr
          return .on
      | .print items target? =>
          let octets ← (do
            if items.isEmpty then recordText
            else
              let shown ← (← dataOf fuel items).mapM printedItem
              return String.intercalate (← sharedText "OFS") shown)
          putOut fuel target? (octets ++ (← sharedText "ORS"))
          return .on
      | .printFormatted items target? =>
          let data ← dataOf fuel items
          let format ← textOf (data.headD .unset)
          let converting ← convertFormat
          let (text, defect?) := formatted (Datum.toText converting) format (data.drop 1)
          putOut fuel target? text
          match defect? with
          | none => return .on
          | some defect => failRunning (defect.message "printf" format)
      | .block body => runAll fuel body
      | .select condition yes no =>
          if (← evaluate fuel condition).isTrue then run fuel yes else run fuel no
      | .loop condition? step? body => loop fuel condition? step? body
      | .loopAfter body condition => loopAfter fuel body condition
      | .forEach target table body =>
          let number ← tableNumber table
          onTable number Table.byText
          forKeys fuel target body (← fromTable number Table.keys)
      | .leaveLoop => return .leaveLoop
      | .repeatLoop => return .repeatLoop
      | .nextRecord => throw .nextRecord
      | .nextFile => throw .nextFile
      | .leave status? =>
          match status? with
          | none => pure ()
          | some status =>
              let status := statusOf (← evaluate fuel status)
              modify fun store => { store with status }
          throw .leave
      | .give value? =>
          match value? with
          | none => return .result .unset
          | some value => return .result (← evaluate fuel value)
      | .erase table key =>
          let key ← keyFor fuel key
          onTable (← tableNumber table) (·.erase key)
          return .on
      | .eraseAll table =>
          onTable (← tableNumber table) fun _ => {}
          return .on

def runAll : Nat → List Statement → Running Flow
  | 0, _ => throw .failed
  | _ + 1, [] => return .on
  | fuel + 1, statement :: rest => do
      match ← run fuel statement with
      | .on => runAll fuel rest
      | flow => return flow

def loop : Nat → Option Expr → Option Expr → Statement → Running Flow
  | 0, _, _, _ => throw .failed
  | fuel + 1, condition?, step?, body => do
      let goesOn ← (do
        match condition? with
        | none => return true
        | some condition => return (← evaluate fuel condition).isTrue)
      if goesOn then
        match ← run fuel body with
        | .leaveLoop => return .on
        | .result datum => return .result datum
        | _ =>
            match step? with
            | none => pure ()
            | some step =>
                let _ ← evaluate fuel step
            loop fuel condition? step? body
      else return .on

def loopAfter : Nat → Statement → Expr → Running Flow
  | 0, _, _ => throw .failed
  | fuel + 1, body, condition => do
      match ← run fuel body with
      | .leaveLoop => return .on
      | .result datum => return .result datum
      | _ =>
          if (← evaluate fuel condition).isTrue then loopAfter fuel body condition
          else return .on

/-- Runs a body for each of some keys. -/
def forKeys : Nat → Expr → Statement → List String → Running Flow
  | 0, _, _, _ => throw .failed
  | _ + 1, _, _, [] => return .on
  | fuel + 1, target, body, key :: rest => do
      (← spotOf fuel target).write (.text key)
      match ← run fuel body with
      | .leaveLoop => return .on
      | .result datum => return .result datum
      | _ => forKeys fuel target body rest

end

/-! ### Rules -/

/-- Whether a rule is for the record at hand. -/
def selects (guard : Guard) : Running Bool := do
  match guard with
  | .always => return true
  | .when condition => return (← evaluate launch endlessSteps condition).isTrue
  | .between number first last =>
      let hasStarted := (← get).started.contains number
      if !hasStarted then
        unless (← evaluate launch endlessSteps first).isTrue do return false
      let isOver := (← evaluate launch endlessSteps last).isTrue
      modify fun store =>
        let others := store.started.filter (· != number)
        { store with started := if isOver then others else number :: others }
      return true

def runRules : List Rule → Running Unit
  | [] => return
  | rule :: rest => do
      if ← selects launch rule.guard then
        let _ ← runAll launch endlessSteps rule.action
      runRules rest

/-- Takes a record through the rules. -/
def processRecord (rules : List Rule) : Running Unit := do
  match ← Course.outcome (runRules launch rules) with
  | .ok () | .error .nextRecord => modify fun store => { store with calls := #[] }
  | .error .nextFile => closeInput
  | .error stop => throw stop

/-- Takes all records through the rules. -/
def processAll (rules : List Rule) : Nat → Running Unit
  | 0 => return
  | fuel + 1 => do
      Course.spend 1
      match ← nextOfInput endlessSteps with
      | none => return
      | some record =>
          setRecord record
          processRecord launch rules
          processAll rules fuel

def runEach (bodies : List (List Statement)) : Running Unit :=
  bodies.forM fun body => do
    let _ ← runAll launch endlessSteps body

/-- Runs a program: what comes first, the rules for all records, and what comes last. Leaving the
program before that goes on with what comes last. -/
def runProgram (program : Program) : Running Unit := do
  let first := do
    runEach launch program.beginnings
    unless program.rules.isEmpty && program.endings.isEmpty do
      processAll launch program.rules endlessSteps
  match ← Course.outcome first with
  | .ok () | .error .leave =>
      modify fun store => { store with calls := #[] }
      let _ ← Course.outcome (runEach launch program.endings)
  | .error _ => pure ()

end

end HingeField.Shell.Records
