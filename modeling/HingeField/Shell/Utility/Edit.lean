import HingeField.Shell.Utility.EditScript
import HingeField.Shell.Utility.Launch

/-!
Editing lines by a script: each line is taken into a space, the instructions
for it are carried out there, and what is left in the space is put out.
-/

namespace HingeField.Shell.Utility

/-- When a range of lines that has started ends. -/
inductive RangeState where
  | untilLine (number : Nat)
  | untilFound (address : Address)
  /-- It has ended, and its first line will not come again. -/
  | over

/-- What is put out behind a line. -/
inductive Queued where
  | octets (octets : String)
  | named (name : String)

/-- Where edited lines go. -/
structure EditOutput where
  name : String
  descriptor : Nat
  /-- Whether the last line still lacks its end. -/
  lacksEnd : Bool := false

/-- A text that is edited, and whether its line had an end. -/
structure EditSpace where
  chars : List Char := []
  isEnded : Bool := true

/-- How lines are edited. -/
structure EditManner where
  instructions : Array Instruction
  isQuiet : Bool := false
  /-- Whether each file is edited on its own. -/
  isSeparate : Bool := false
  /-- Whether files are replaced by what comes out, and what the names of the old ones get. -/
  replaces? : Option String := none
  lineEnd : Char := '\n'
  width : Nat := 70

structure Editing where
  space : EditSpace := {}
  hold : EditSpace := {}
  /-- The files that are still to be edited. -/
  names : List String
  /-- The file that is read: its descriptor and name. -/
  current? : Option (Nat × String) := none
  /-- The name of the file that the line is from. -/
  name : String := "-"
  number : Nat := 0
  ranges : List (Nat × RangeState) := []
  lastWanted : Option Wanted := none
  isSubstituted : Bool := false
  queue : List Queued := []
  outputs : List EditOutput := []
  /-- Whether the output still lacks the end of its last line. -/
  lacksEnd : Bool := false
  /-- What has come out for the file that is to be replaced. -/
  replacement : String := ""
  /-- The files that lines are taken from one by one. -/
  suppliers : List (String × Nat) := []

/-- Replaces a file. The old one is kept by a name with a suffix, unless that is empty; a star in it
stands for the name. -/
def replaceFile (suffix name octets : String) : Work Unit := do
  let mode? ← Course.ask fun machine => (machine.status? name).map fun status => status.node.mode
  let parts := name.splitOn "/"
  let last := parts.getLastD name
  let kept :=
    if suffix.contains '*' then String.intercalate last (suffix.splitOn "*") else last ++ suffix
  let kept :=
    if kept.contains '/' then kept else String.intercalate "/" (parts.dropLast ++ [kept])
  let _ ← Course.onDisk fun disk here time =>
    if suffix.isEmpty then disk.unlink here name time else disk.rename here name kept time
  let _ ← writeNamed false name octets
  match mode? with
  | none => pure ()
  | some mode =>
      Course.onMachine fun machine =>
        match machine.disk.find? machine.own.here name with
        | some number =>
            { machine with disk := machine.disk.modify number fun node => { node with mode } }
        | none => machine

abbrev EditWork := StateT Editing Work

namespace EditWork

variable (launch : Launcher) (manner : EditManner)

/-- Puts octets out, as they are. -/
def emit (octets : String) : EditWork Unit := do
  if manner.replaces?.isSome then
    modify fun editing => { editing with replacement := editing.replacement ++ octets }
  else put octets

/-- Puts octets out, behind the end of the line before. -/
def out (octets : String) : EditWork Unit := do
  if (← get).lacksEnd then emit manner (String.singleton manner.lineEnd)
  modify fun editing => { editing with lacksEnd := false }
  emit manner octets

/-- Puts a line out; one without an end lacks it until more comes. -/
def outLine (octets : String) (isEnded : Bool) : EditWork Unit := do
  out manner octets
  if isEnded then emit manner (String.singleton manner.lineEnd)
  else modify fun editing => { editing with lacksEnd := true }

/-- Writes a line to a file that has been opened. -/
def writeLine (name : String) (octets : String) (isEnded : Bool) : EditWork Unit := do
  let editing ← get
  match editing.outputs.find? fun output => output.name == name with
  | none => pure ()
  | some output =>
      let lineEnd := String.singleton manner.lineEnd
      let text :=
        (if output.lacksEnd then lineEnd else "") ++ octets ++ (if isEnded then lineEnd else "")
      let others := editing.outputs.filter fun other => other.name != name
      set { editing with outputs := { output with lacksEnd := !isEnded } :: others }
      putTo output.descriptor text
      if output.descriptor ≠ 1 then flushOutlet output.descriptor

def spaceOctets : EditWork String := do
  return signOctets (← get).space.chars

/-! ### Lines -/

/-- Stops reading the file at hand. -/
def leaveFile : EditWork Unit := do
  match (← get).current? with
  | none => pure ()
  | some (descriptor, name) =>
      (closeOperand descriptor : Work Unit)
      modify fun editing => { editing with current? := none }
      match manner.replaces? with
      | some suffix =>
          let octets ← modifyGet fun editing =>
            (editing.replacement, { editing with replacement := "", lacksEnd := false })
          (replaceFile suffix name octets : Work Unit)
      | none => pure ()

/-- Starts with the next file that can be read. -/
def enterFile : Nat → EditWork Bool
  | 0 => return false
  | fuel + 1 => do
      match (← get).names with
      | [] => return false
      | name :: names =>
          modify fun editing => { editing with names }
          match ← (if manner.replaces?.isSome then Course.openFrom 3 .forReading name
              else openOperand name : Work (Except FileFault Nat)) with
          | .error fault =>
              (warn 2 ("can't read " ++ name ++ ": " ++ faultText fault) : Work Unit)
              enterFile fuel
          | .ok descriptor =>
              if manner.replaces?.isSome then
                let isRegular ← (Course.ask fun machine =>
                  (machine.status? name).any fun status => status.kind == .regular : Work Bool)
                unless isRegular do
                  (refuse 4 ("couldn't edit " ++ name ++ ": not a regular file") : Work Unit)
              (setLineEnd descriptor manner.lineEnd.toNat.toUInt8 : Work Unit)
              modify fun editing => { editing with current? := some (descriptor, name) }
              if manner.isSeparate then
                modify fun editing =>
                  { editing with number := 0, ranges := [], suppliers := [] }
              return true

/-- The next line of the file at hand, with its end if it has one. -/
def nextOf (descriptor : Nat) (name : String) : EditWork (Option String) := do
  match ← (nextLine descriptor endlessSteps : Work (Except FileFault (Option String))) with
  | .ok line? => return line?
  | .error fault =>
      (refuse 4 ("read error on " ++ name ++ ": " ++ faultText fault) : Work (Option String))

/-- Whether there is no further line, in this file or, unless each is edited on its own, in those
behind it. -/
def isLast : Nat → EditWork Bool
  | 0 => return true
  | fuel + 1 => do
      match (← get).current? with
      | some (descriptor, name) => do
          match ← nextOf descriptor name with
          | some line => do
              let input ← (inputOf descriptor : Work Input)
              (putInput { input with lines := line :: input.lines } : Work Unit)
              return false
          | none =>
              if manner.isSeparate then return true
              leaveFile manner
              isLast fuel
      | none => if ← enterFile manner endlessSteps then isLast fuel else return true

/-- Takes the next line; the space so far is given up or kept in front of it. -/
def takeLine (isAdded : Bool) : Nat → EditWork Bool
  | 0 => return false
  | fuel + 1 => do
      match (← get).current? with
      | none =>
          if ← enterFile manner endlessSteps then takeLine isAdded fuel else return false
      | some (descriptor, name) =>
          match ← nextOf descriptor name with
          | none =>
              leaveFile manner
              takeLine isAdded fuel
          | some line =>
              let isEnded := line.toList.getLast? == some manner.lineEnd
              let chars := signsOf (if isEnded then (line.dropEnd 1).toString else line)
              modify fun editing =>
                { editing with
                  name
                  number := editing.number + 1
                  isSubstituted := false
                  space :=
                    { isEnded
                      chars :=
                        if isAdded then editing.space.chars ++ manner.lineEnd :: chars
                        else chars } }
              return true

/-! ### Addresses -/

/-- The match of an expression in the space from a place on. -/
def find? (wanted : Wanted) (place : Nat) : EditWork (Option (Nat × Reached)) := do
  let editing ← get
  let used ← (
    match wanted.regex, editing.lastWanted with
    | some _, _ => pure wanted
    | none, some last => pure last
    | none, none =>
        (refuse 1 "-e expression #1, char 0: no previous regular expression" : Work Wanted))
  set { editing with lastWanted := some used }
  let matching : Matching :=
    { text := editing.space.chars.toArray, ignoresCase := used.ignoresCase
      isManyLined := used.isManyLined }
  return used.regex.bind fun regex => matching.find? regex place

def fitsAddress (address : Address) : EditWork Bool := do
  let editing ← get
  match address with
  | .line number => return editing.number == number
  | .last => isLast manner endlessSteps
  | .pattern wanted => return (← find? wanted 0).isSome
  | .every first step =>
      return first ≤ editing.number && (editing.number - first) % step == 0

def setRange (index : Nat) (state? : Option RangeState) : EditWork Unit :=
  modify fun editing =>
    let others := editing.ranges.filter fun entry => entry.1 != index
    { editing with
      ranges :=
        match state? with
        | some state => (index, state) :: others
        | none => others }

/-- Ends a range; one that starts at a line of a given number does not start again. -/
def endRange (index : Nat) (first : Address) : EditWork Unit :=
  match first with
  | .line _ => setRange index (some .over)
  | _ => setRange index none

/-- Whether the line is in a range that has started before it. -/
def fitsStarted (index : Nat) (first : Address) (state : RangeState) : EditWork Bool := do
  let number := (← get).number
  match state with
  | .over => return false
  | .untilLine final =>
      if final ≤ number then endRange index first
      return number ≤ final
  | .untilFound address =>
      if ← fitsAddress manner address then endRange index first
      return true

/-- Starts a range at the line. -/
def startRange (index : Nat) (first : Address) (final : RangeEnd) : EditWork Unit := do
  let number := (← get).number
  let untilLine := fun target : Nat =>
    if number < target then setRange index (some (.untilLine target)) else endRange index first
  match final with
  | .at (.line target) => untilLine target
  | .at address => setRange index (some (.untilFound address))
  | .count lines => untilLine (number + lines)
  | .multiple step =>
      if step ≠ 0 && number % step ≠ 0 then untilLine (number + (step - number % step))
      else endRange index first

def fitsSelector (index : Nat) (selector : Selector) : EditWork Bool := do
  match selector with
  | .all => return true
  | .one address => fitsAddress manner address
  | .range first final =>
      match (← get).ranges.lookup index, first, final with
      | some state, first, _ => fitsStarted manner index first state
      | none, .line 0, .at address => fitsStarted manner index (.line 0) (.untilFound address)
      | none, first, final =>
          if ← fitsAddress manner first then
            startRange index first final
            return true
          else return false

/-! ### Substitution -/

/-- A text under the change of case that is in force, and the one that stays in force. -/
def recased (sign? : Option Char) (once? : Option Char) (chars : List Char) : List Char :=
  let whole :=
    match sign? with
    | some 'U' => chars.map Text.upperChar
    | some 'L' => chars.map Text.lowerChar
    | _ => chars
  match once?, whole with
  | some 'u', c :: rest => Text.upperChar c :: rest
  | some 'l', c :: rest => Text.lowerChar c :: rest
  | _, whole => whole

/-- The text that replaces a match. -/
def replacementText (space : List Char) (start : Nat) (way : Reached) :
    Option Char → Option Char → List ReplacementPart → List Char
  | _, _, [] => []
  | sign?, once?, part :: rest =>
      match part with
      | .caseFrom c =>
          if c == 'u' || c == 'l' then replacementText space start way sign? (some c) rest
          else replacementText space start way (if c == 'E' then none else some c) none rest
      | .text c =>
          recased sign? once? [c] ++ replacementText space start way sign? none rest
      | .group number =>
          let bounds :=
            if number = 0 then some (start, way.place) else way.groups.lookup number
          let chars :=
            match bounds with
            | some (low, high) => (space.drop low).take (high - low)
            | none => []
          let later? := if chars.isEmpty then once? else none
          recased sign? once? chars ++ replacementText space start way sign? later? rest

/-- The space with matches replaced, from a place on, and whether there was one. An empty match
right behind another one does not count. -/
def replaceFrom (substitution : Substitution) :
    Nat → Nat → Nat → Option Nat → EditWork (List Char × Bool)
  | 0, _, _, _ => return ([], false)
  | fuel + 1, count, place, behind? => do
      let space := (← get).space.chars
      match ← find? substitution.wanted place with
      | none => return (space.drop place, false)
      | some (start, way) =>
          let before := (space.drop place).take (start - place)
          let next := (space.drop start).take 1
          if start = way.place && behind? == some start then
            if next.isEmpty then return (before, false)
            let (rest, isFound) ← replaceFrom substitution fuel count (start + 1) none
            return (before ++ next ++ rest, isFound)
          let count := count + 1
          let isReplaced := substitution.number?.getD 1 ≤ count
          let matched := (space.drop start).take (way.place - start)
          let text :=
            if isReplaced then
              replacementText space start way none none substitution.replacement
            else matched
          if isReplaced && !substitution.isGlobal then
            return (before ++ text ++ space.drop way.place, true)
          if start = way.place then
            if next.isEmpty then return (before ++ text, isReplaced)
            let (rest, isFound) ← replaceFrom substitution fuel count (start + 1) none
            return (before ++ text ++ next ++ rest, isReplaced || isFound)
          let (rest, isFound) ← replaceFrom substitution fuel count way.place (some way.place)
          return (before ++ text ++ rest, isReplaced || isFound)

def setChars (chars : List Char) : EditWork Unit :=
  modify fun editing => { editing with space := { editing.space with chars } }

/-- Has the space carried out as a command, whose output it becomes. -/
def executeSpace : EditWork Unit := do
  let octets ← (outputOf launch (← spaceOctets) : Work String)
  let isEnded := octets.toList.getLast? == some manner.lineEnd
  setChars (signsOf (if isEnded then (octets.dropEnd 1).toString else octets))

def outSpace : EditWork Unit := do
  outLine manner (← spaceOctets) (← get).space.isEnded

def substitute (substitution : Substitution) : EditWork Unit := do
  let length := (← get).space.chars.length
  let (chars, isFound) ← replaceFrom substitution (2 * length + 4) 0 0 none
  if isFound then
    setChars chars
    modify fun editing => { editing with isSubstituted := true }
    if substitution.isPrintedFirst then outSpace manner
    if substitution.isExecuted then executeSpace launch manner
    if substitution.isPrinted then outSpace manner
    match substitution.file? with
    | some name => writeLine manner name (← spaceOctets) (← get).space.isEnded
    | none => pure ()

/-! ### Commands -/

/-- A space shown with its unusual characters as escapes, in lines of limited length. -/
def shownSpace (width : Nat) (chars : List Char) : String :=
  let octal := fun byte : Nat =>
    let digits := Nat.toDigits 8 byte
    '\\' :: (List.replicate (3 - digits.length) '0' ++ digits)
  let pieceOf := fun c : Char =>
    match c with
    | '\\' => ['\\', '\\']
    | '\x07' => ['\\', 'a']
    | '\x08' => ['\\', 'b']
    | '\x0c' => ['\\', 'f']
    | '\n' => ['\\', 'n']
    | '\r' => ['\\', 'r']
    | '\t' => ['\\', 't']
    | '\x0b' => ['\\', 'v']
    | c => if ' ' ≤ c && c < '\x7f' then [c] else octal c.toNat
  let step := fun (entry : List Char × Nat) (piece : List Char) =>
    let (text, column) := entry
    if width ≠ 0 && width - 1 < column + piece.length then
      (text ++ ['\\', '\n'] ++ piece, piece.length)
    else (text ++ piece, column + piece.length)
  let pieces := (signOctets chars).toList.map pieceOf
  String.ofList ((pieces.foldl step (([] : List Char), 0)).1 ++ ['$', '\n'])

/-- Puts out what was to follow the line. -/
def flushQueue : EditWork Unit := do
  let queue := (← get).queue
  modify fun editing => { editing with queue := [] }
  for entry in queue do
    match entry with
    | .octets octets => out manner octets
    | .named name =>
        let read ← (readNamed (if name = "/dev/stdin" then "-" else name) :
          Work (Except FileFault String))
        match read with
        | .ok octets => unless octets.isEmpty do out manner octets
        | .error _ => pure ()

/-- Ends the work on a line: puts the space out unless that is not wanted. -/
def endLine : EditWork Unit := do
  unless manner.isQuiet do outSpace manner
  flushQueue manner

/-- The next line of a file that lines are taken from one by one. -/
def supplied (name : String) : EditWork (Option String) := do
  let editing ← get
  let descriptor? ← (
    match editing.suppliers.lookup name with
    | some descriptor => return some descriptor
    | none => do
        let opened ← (
          if name = "/dev/stdin" then return .ok 0 else Course.openFrom 3 .forReading name :
          Work (Except FileFault Nat))
        match opened with
        | .error _ => return none
        | .ok descriptor =>
            set { editing with suppliers := (name, descriptor) :: editing.suppliers }
            return some descriptor)
  match descriptor? with
  | none => return none
  | some descriptor =>
      match ← (nextLine descriptor endlessSteps : Work (Except FileFault (Option String))) with
      | .ok line? => return line?
      | .error _ => return none

/-- How the instructions for a line end. -/
inductive LineEnding where
  | usual
  | deleted
  | restarted
  | quit (isSilent : Bool) (status : Nat)

/-- What an instruction leads to: the next one, another one, or the end of the line. -/
inductive Following where
  | onward
  | jump (index : Nat)
  | ending (ending : LineEnding)

def enqueue (entry : Queued) : EditWork Unit :=
  modify fun editing => { editing with queue := editing.queue ++ [entry] }

/-- The part of the space in front of its first line end. -/
def firstLine (chars : List Char) : List Char :=
  chars.takeWhile (· != manner.lineEnd)

def carrySimple (letter : Char) : EditWork Following := do
  let editing ← get
  let joined := fun first second : EditSpace =>
    ({ chars := first.chars ++ manner.lineEnd :: second.chars
       isEnded := first.isEnded || second.isEnded } : EditSpace)
  match letter with
  | 'd' => return .ending .deleted
  | 'D' =>
      let chars := editing.space.chars
      if chars.contains manner.lineEnd then
        setChars (chars.drop ((firstLine manner chars).length + 1))
        return .ending .restarted
      else return .ending .deleted
  | 'p' => outSpace manner; return .onward
  | 'P' =>
      let first := firstLine manner editing.space.chars
      let isEnded := first.length < editing.space.chars.length || editing.space.isEnded
      outLine manner (signOctets first) isEnded
      return .onward
  | 'n' =>
      if ← isLast manner endlessSteps then return .ending .usual
      unless manner.isQuiet do outSpace manner
      flushQueue manner
      let _ ← takeLine manner false endlessSteps
      return .onward
  | 'N' =>
      if ← isLast manner endlessSteps then return .ending .usual
      flushQueue manner
      let _ ← takeLine manner true endlessSteps
      return .onward
  | 'g' => set { editing with space := editing.hold }; return .onward
  | 'G' => set { editing with space := joined editing.space editing.hold }; return .onward
  | 'h' => set { editing with hold := editing.space }; return .onward
  | 'H' => set { editing with hold := joined editing.hold editing.space }; return .onward
  | 'x' =>
      set { editing with space := editing.hold, hold := editing.space }
      return .onward
  | '=' => out manner (toString editing.number ++ "\n"); return .onward
  | 'F' => out manner (editing.name ++ "\n"); return .onward
  | 'z' => setChars []; return .onward
  | _ => return .onward

/-- Carries an instruction out on a line it is for. -/
def carryOut (index : Nat) (instruction : Instruction) : EditWork Following := do
  match instruction.edit with
  | .opening _ => return .onward
  | .closing => return .onward
  | .label => return .onward
  | .substitute substitution => substitute launch manner substitution; return .onward
  | .transliterate pairs =>
      setChars ((← get).space.chars.map fun c => (pairs.lookup c).getD c)
      return .onward
  | .appendText octets => enqueue (.octets octets); return .onward
  | .readNamed name => enqueue (.named name); return .onward
  | .readLineOf name =>
      match ← supplied name with
      | some octets => enqueue (.octets octets)
      | none => pure ()
      return .onward
  | .insertText octets => out manner octets; return .onward
  | .changeText octets =>
      let isInside :=
        match (← get).ranges.lookup index with
        | none | some .over => false
        | some _ => true
      unless isInside do out manner octets
      return .ending .deleted
  | .writeNamed name =>
      writeLine manner name (← spaceOctets) (← get).space.isEnded
      return .onward
  | .writeFirstTo name =>
      let space := (← get).space
      let first := firstLine manner space.chars
      let isEnded := first.length < space.chars.length || space.isEnded
      writeLine manner name (signOctets first) isEnded
      return .onward
  | .execute none => executeSpace launch manner; return .onward
  | .execute (some command) =>
      out manner (← (outputOf launch command : Work String))
      return .onward
  | .jump sign target =>
      let editing ← get
      let isTaken :=
        match sign with
        | 't' => editing.isSubstituted
        | 'T' => !editing.isSubstituted
        | _ => true
      if sign != 'b' then set { editing with isSubstituted := false }
      if !isTaken then return .onward
      match target with
      | some place => return .jump place
      | none => return .ending .usual
  | .quit isSilent status => return .ending (.quit isSilent status)
  | .display width? =>
      out manner (shownSpace (width?.getD manner.width) (← get).space.chars)
      return .onward
  | .simple letter => carrySimple manner letter

/-- Carries out the instructions from a place on. -/
def carryFrom : Nat → Nat → EditWork LineEnding
  | 0, _ => return .usual
  | fuel + 1, index => do
      match manner.instructions[index]? with
      | none => return .usual
      | some instruction =>
          (Course.spend 1 : Work Unit)
          let isFor :=
            (← fitsSelector manner index instruction.selector) != instruction.isNegated
          if !isFor then
            match instruction.edit with
            | .opening closing => carryFrom fuel (closing + 1)
            | _ => carryFrom fuel (index + 1)
          else
            match ← carryOut launch manner index instruction with
            | .onward => carryFrom fuel (index + 1)
            | .jump place => carryFrom fuel place
            | .ending ending => return ending

/-- Edits line after line; returns the status to quit with. -/
def editLines : Nat → Bool → EditWork (Option Nat)
  | 0, _ => return none
  | fuel + 1, isRestarted => do
      let isThere ← if isRestarted then pure true else takeLine manner false endlessSteps
      if !isThere then return none
      match ← carryFrom launch manner endlessSteps 0 with
      | .usual =>
          endLine manner
          editLines fuel false
      | .deleted =>
          flushQueue manner
          editLines fuel false
      | .restarted =>
          flushQueue manner
          editLines fuel true
      | .quit isSilent status =>
          unless isSilent do
            endLine manner
            if (← get).lacksEnd then out manner ""
          leaveFile manner
          return some status

end EditWork

/-! ### The command -/

def editNames : LongNames :=
  [("quiet", 'n'), ("silent", 'n'), ("expression", 'e'), ("file", 'f'), ("regexp-extended", 'E'),
    ("in-place", 'i'), ("separate", 's'), ("unbuffered", 'u'), ("null-data", 'z'),
    ("zero-terminated", 'z'), ("line-length", 'l'), ("posix", 'p'), ("follow-symlinks", 'y'),
    ("binary", 'b')]

/-- An operand without the suffix that stands behind the option for replacing files, and the
suffix. -/
def withoutSuffix (operand : String) : String × Option String :=
  match operand.toList with
  | '-' :: '-' :: _ =>
      if operand.startsWith "--in-place=" then
        ("--in-place", some (operand.drop "--in-place=".length).toString)
      else (operand, if operand = "--in-place" then some "" else none)
  | '-' :: letters =>
      let front := letters.takeWhile fun c => "bsnrzuE".toList.contains c
      match letters.drop front.length with
      | 'i' :: suffix => (String.ofList ('-' :: front ++ ['i']), some (String.ofList suffix))
      | _ => (operand, none)
  | _ => (operand, none)

/-- The files that a script writes to. -/
def writtenNames (instructions : Array Instruction) : List String :=
  (instructions.toList.filterMap fun instruction =>
    match instruction.edit with
    | .writeNamed name => some name
    | .writeFirstTo name => some name
    | .substitute substitution => substitution.file?
    | _ => none).eraseDups

/-- Opens the files that a script writes to. -/
def openOutputs (names : List String) : Work (List EditOutput) :=
  names.mapM fun name => do
    if name = "/dev/stdout" then return { name, descriptor := 1 }
    else if name = "/dev/stderr" then return { name, descriptor := 2 }
    else
      match ← Course.openFrom 3 .forWriting name with
      | .ok descriptor => return { name, descriptor }
      | .error fault => refuse 4 ("couldn't open file " ++ name ++ ": " ++ faultText fault)

/-- The parts of a script given by the options, or else the first operand; without one there is
none. -/
def scriptOf (options : Options) : Work (Option (List ScriptPart × List String)) := do
  let given := options.letters.filter fun option => option.1 == 'e' || option.1 == 'f'
  if given.isEmpty then
    match options.operands with
    | script :: rest => return some ([{ octets := script }], rest)
    | [] => return none
  let mut parts : List ScriptPart := []
  for (letter, argument) in given do
    if letter == 'e' then parts := parts ++ [{ octets := argument }]
    else match ← readOperand argument with
      | .ok octets => parts := parts ++ [{ octets, file? := some argument }]
      | .error fault => refuse 4 ("couldn't open file " ++ argument ++ ": " ++ faultText fault)
  return some (parts, options.operands)

/-- Edits files, or the input, by a script. -/
def edit (launch : Launcher) (operands : List String) : Work Unit := do
  let own := operands.takeWhile (· != "--")
  let suffix? := (own.filterMap fun operand => (withoutSuffix operand).2).getLast?
  let operands :=
    own.map (fun operand => (withoutSuffix operand).1) ++ operands.drop own.length
  match findOptions "ne:f:l:Erisuzbpy".toList editNames false operands with
  | .error defect => warn 1 defect.message
  | .ok options =>
      match ← scriptOf options with
      | none =>
          putError "Usage: sed [OPTION]... \x7bscript-only-if-no-other-script\x7d [input-file]...\n"
          setStatus 1
      | some (parts, operands) =>
          match readEdits (options.has 'E' || options.has 'r') parts with
          | .error defect => warn defect.status defect.message
          | .ok instructions =>
              let outputs ← openOutputs (writtenNames instructions)
              let manner : EditManner :=
                { instructions
                  isQuiet := options.has 'n' || asksForQuiet parts
                  isSeparate := options.has 's' || options.has 'i'
                  replaces? := suffix?
                  lineEnd := if options.has 'z' then '\x00' else '\n'
                  width := ((options.argument? 'l').bind String.toNat?).getD 70 }
              let names := if operands.isEmpty then ["-"] else operands
              let (status?, _) ←
                (EditWork.editLines launch manner endlessSteps false).run { names, outputs }
              match status? with
              | some status => if status ≠ 0 then setStatus status
              | none => pure ()

end HingeField.Shell.Utility
