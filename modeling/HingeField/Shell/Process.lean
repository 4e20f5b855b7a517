import HingeField.Shell.Delivery
import HingeField.Shell.Reader
import HingeField.Shell.Redirect

/-!
Scripts as processes. A part of a script that runs apart from the rest works on
a copy of its state, of which nothing remains but what it has done to the
machine. Everything here takes what carries out a single command as a parameter.
-/

namespace HingeField.Shell

/-- How a command is carried out: whether its status is tested, so that a failure does not end the
script, and whether it is the last one of its process. -/
structure Manner where
  isTested : Bool := false
  isLast : Bool := false

/-- The same manner for a command that others follow. -/
def Manner.followed (manner : Manner) : Manner :=
  { manner with isLast := false }

/-- The manner for a command whose status is tested. -/
def Manner.tested : Manner :=
  { isTested := true }

/-- Carries out a command. -/
abbrev Evaluator := Manner → Command → Act Unit

/-- More commands than any text holds, and more rounds than any loop takes. -/
def endlessRounds : Nat := 1000000000

/-- More than the depth of any word. -/
def wordFuel : Nat := 1000000

section

variable (evaluate : Evaluator)

/-- Shows the lines of a script that have just been read, if that is set. -/
def showLines (before after : List Char) : Act Unit := do
  if (← get).hasSetting 'v' then
    let _ ← emit 2 (String.ofList (before.take (before.length - after.length)))

/-- A text behind so many ends of lines. -/
def dropLines : Nat → List Char → List Char
  | 0, text => text
  | count + 1, text => dropLines count ((text.dropWhile (· != '\n')).drop 1)

/-- Carries out commands from a text that is left to read, with the status of the last of them. The
lines of a file can be shown as they are read. -/
def runSource (isFile isLast : Bool) : Nat → Source → Nat → Act Unit
  | 0, _, _ => throw .exhausted
  | fuel + 1, source, status => do
      let session ← get
      let source :=
        { source with
          documents := [], nextDocument := session.nextDocument, aliases := session.aliases }
      match readLine.run source with
      | .error fault =>
          if isFile then
            showLines source.text (dropLines (fault.line + 1 - source.line) source.text)
          atLine fault.line
          fail fault.text
      | .ok (command?, rest) =>
          if isFile then showLines source.text rest.text
          match command? with
          | none => setStatus status
          | some command =>
              modify fun session =>
                { session with
                  documents := rest.documents ++ session.documents
                  nextDocument := rest.nextDocument }
              evaluate { isLast := isLast && rest.text.isEmpty } command
              runSource isFile isLast fuel rest (← get).status

/-- Carries out the commands of a text. -/
def runText (text : String) : Act Unit :=
  runSource evaluate false false endlessRounds { text := text.toList } 0

/-- Carries out the commands of a text, behind which the process ends. -/
def runLastText (text : String) : Act Unit :=
  runSource evaluate false true endlessRounds { text := text.toList } 0

/-- Carries out the commands of a file. -/
def runFileText (text : String) : Act Unit :=
  runSource evaluate true false endlessRounds { text := text.toList } 0

/-- The signals that have come and are caught; they are pending no longer. -/
def takePending : Act (List Nat) := do
  match ← Course.ask fun machine => machine.own.pending with
  | [] => return []
  | signals => do
      Course.onMachine fun machine =>
        machine.modifyOwn fun process => { process with pending := [] }
      return signals

/-- Carries out the commands for the signals that have come. The status is kept. -/
def runTraps : Act Unit := do
  let pending ← takePending
  unless pending.isEmpty do
    let session ← get
    set { session with savedStatus := some (session.savedStatus.getD session.status) }
    for signal in pending do
      match (← get).traps.lookup signal with
      | some action =>
          runText evaluate action
          setStatus session.status
      | none => pure ()
    modify fun after => { after with savedStatus := session.savedStatus }

/-- Carries out the command for the end of the script, which keeps its status unless that command
fails. -/
def runLastTrap : Act Unit := do
  let session ← get
  match session.traps.lookup 0 with
  | none => pure ()
  | some action =>
      set { session with
        traps := session.traps.filter fun entry => entry.1 != 0
        savedStatus := some session.status }
      match ← outcomeOf (runText evaluate action) with
      | .error .failure => pure ()
      | .error .finish => pure ()
      | .error .exhausted => throw .exhausted
      | _ => setStatus session.status

/-- Takes a step as a process of its own, up to its end. -/
def toItsEnd (act : Act Unit) : Act Ending := do
  match ← outcomeOf act with
  | .error .exhausted => throw .exhausted
  | _ => runLastTrap evaluate
  return { status := (← get).status % 256 }

/-- The state of a copy of the script, which is a process of its own. -/
def Session.copy (session : Session) : Session :=
  { session with
    traps := session.traps.filter fun entry => entry.2.isEmpty
    savedStatus := none
    background := [] }

/-- How a process ends that stops for no reason of its own. -/
def stoppedEnding (_ : Stop) : Ending :=
  { status := 2 }

/-- Starts a copy of the script that takes a step up to its end; returns its number. -/
def startCopy (act : Act Unit) : Act Nat := do
  Course.fork (← get).copy (toItsEnd evaluate act) stoppedEnding

/-- Takes a step in a copy of the script and waits for its end, which gives the status. -/
def waitForCopy (act : Act Unit) : Act Unit := do
  let _ ← takeJobNumber
  let number ← startCopy evaluate act
  setStatus (← awaitJob [number]).status

/-- Keeps a channel open under a number of the script's own. -/
def keepChannel (channel : Nat) : Act Nat := do
  let number ← Course.ask fun machine => machine.own.freeNumber firstOwnDescriptor
  Course.onMachine fun machine =>
    machine.modifyOwn fun process => process.lead { number, channel, isOwn := true }
  return number

/-- All bytes up to the end of what a descriptor leads to. -/
def readToEnd (descriptor : Nat) : Nat → ByteArray → Act ByteArray
  | 0, read => return read
  | fuel + 1, read => do
      match ← Course.read descriptor pipeChunk with
      | .error _ => return read
      | .ok content =>
          if content.isEmpty then return read
          else readToEnd descriptor fuel (read ++ content)
where
  /-- How many bytes are read at once. -/
  pipeChunk : Nat := 65536

/-- What commands write to the output in a copy of the script. -/
def outputOf (body : Command) : Act String := do
  let (input, output) ← Course.makePipe .empty
  let inputNumber ← keepChannel input
  let outputNumber ← keepChannel output
  let _ ← takeJobNumber
  let number ← startCopy evaluate do
    Course.lead 1 output
    Course.close inputNumber
    Course.close outputNumber
    evaluate { isLast := true } body
  Course.close outputNumber
  let content ← readToEnd inputNumber endlessSteps .empty
  Course.close inputNumber
  let ending ← awaitJob [number]
  modify fun session => { session with outputStatus := ending.status }
  return contentOctets content

/-- The fields that a word is divided into. -/
def fieldsOf (word : Word) : Act (List String) := do
  let items ← expandWord (outputOf evaluate) wordFuel { isDivided := true } word
  let session ← get
  let fields := divide session.separators items
  if session.hasSetting 'f' then return fields.map textOf
  else Course.ask fun machine => fields.flatMap (textsOf machine)

/-- The one text that a word stands for. -/
def textOfWord (word : Word) : Act String := do
  return textOf (← expandWord (outputOf evaluate) wordFuel {} word)

/-- The text that a word stands for where it sets a variable. -/
def settingText (word : Word) : Act String := do
  return textOf (← expandWord (outputOf evaluate) wordFuel { isSetting := true } word)

/-- Takes a step with descriptors led as expanded redirections say. If one cannot be followed, the
step is left out. -/
def withLeads (leads : List Lead) (isLasting : Bool) (refused step : Act Unit) : Act Unit :=
  let whole : Act Unit := do
    match ← outcomeOf (leads.forM follow) with
    | .ok () => step
    | .error .failure =>
        setStatus 2
        refused
    | .error stop => throw stop
  if isLasting || leads.isEmpty then whole
  else keepingDescriptors (leads.map Lead.descriptor) whole

/-- The redirections of a command with their targets expanded. -/
def leadsOf (redirections : List Redirection) : Act (List Lead) :=
  redirections.mapM (expandRedirection (outputOf evaluate) wordFuel)

/-- Follows redirections, and restores the descriptors after a step. If one cannot be followed, the
step is left out. -/
def withRedirections (redirections : List Redirection) (isLasting : Bool) (refused : Act Unit)
    (step : Act Unit) : Act Unit := do
  withLeads (← leadsOf evaluate redirections) isLasting refused step

end

end HingeField.Shell
