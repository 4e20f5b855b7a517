import HingeField.Network
import HingeField.Solution
import HingeField.Solver.Config
import HingeField.Solver.FileSystem
import HingeField.Store

/-!
One run of an external solver on a model: the network text and an evidence
file go out, the solver is called, and its results file comes back.

The evidence file is removed after every call, and with cleanup the model and
the results file are removed at the end, whatever happened before. A results
file left from an earlier run is removed before the call, so that it cannot
pass for this one's. A removal that may not replace an earlier fault, or a
result, only counts as a warning when it fails.
-/

namespace HingeField.Solver

/-- What a runner is given: a command, the directory to run it in, and the files it finds. -/
structure Call where
  command : List String
  directory : Path
  files : FileSystem

/-- How a call ended. A status that the runner does not report is unknown. -/
inductive Completion where
  | exited (status : Option Int) (stderr : String)
  | failed (fault : Fault)

/-- Something that can run a command. It sees files only, never the model. -/
abbrev Runner := Call → Completion × FileSystem

/-- What a run can change: the model and the files, the calls made and the warnings given. -/
structure World where
  model : Model Float
  files : FileSystem
  calls : List Call := []
  warnings : Nat := 0

/-- The world a run on a store starts in; only a model can be run on. -/
def World.ofStore (store : Store) (files : FileSystem) : Except Fault World := do
  let model ← store.check
  return { model, files }

/-- A step of a run. -/
abbrev Step (β : Type) := Effect World β

namespace Step

def onModel {β : Type} (action : Action Float β) : Step β :=
  Effect.onPart World.model (fun world model => { world with model }) action

/-- Changes the files unless the operation is refused. -/
def onFiles (operation : FileSystem → Except FileFault FileSystem) : Step Unit := do
  match operation (← get).files with
  | .ok files => modify fun world => { world with files }
  | .error fault => throw (.file fault)

/-- Makes a directory and those above it; the ones made before a refusal stay. -/
def ensureDirectories (path : Path) : Step Unit := do
  let (files, fault) := (← get).files.ensureDirectories path
  modify fun world => { world with files }
  match fault with
  | some fault => throw (.file fault)
  | none => pure ()

/-- Removes a file if it is there; a refusal is only a warning, unless the path is none at all. -/
def removeQuietly (path : Path) : Step Unit := do
  match (← get).files.removeIfPresent path with
  | .ok files => modify fun world => { world with files }
  | .error .embeddedNull => throw (.file .embeddedNull)
  | .error _ => modify fun world => { world with warnings := world.warnings + 1 }

end Step

/-- The content of an evidence file without evidence. -/
def noEvidence : String := "0"

/-- Writes the network text to the model file. What was written before a failure stays there. -/
def writeModelFile (path : Path) : Step Unit := do
  Step.onFiles fun files => files.write path ByteArray.empty
  let (text, fault) ← Step.onModel Network.writing
  Step.onFiles fun files => files.write path text.toUTF8
  match fault with
  | some fault => throw fault
  | none => pure ()

/-- Calls the runner and demands that the command succeeded. -/
def runCommand (config : Config) (runner : Runner) : Step Unit := do
  let command ← Effect.ofExcept config.command
  let directory ← Effect.ofExcept config.workPath
  let call : Call := { command, directory, files := (← get).files }
  let (completion, files) := runner call
  modify fun world => { world with files, calls := world.calls ++ [call] }
  match completion with
  | .failed fault => throw fault
  | .exited status stderr =>
      unless status = some 0 do
        throw <| .solver { summary := config.executable.shown ++ " failed", status, stderr }

/-- Calls the solver with an evidence file that is removed after the call. -/
def callSolver (config : Config) (runner : Runner) : Step Unit := do
  let evidence ← Effect.ofExcept config.evidencePath
  Step.onFiles fun files => files.write evidence noEvidence.toUTF8
  match (← Effect.outcome (runCommand config runner)) with
  | .error fault =>
      Step.removeQuietly evidence
      throw fault
  | .ok () => Step.onFiles fun files => files.removeIfPresent evidence

/-- Reads the results of a successful call into the model. -/
def readResults (config : Config) : Step (List Int) := do
  let output ← Effect.ofExcept config.outputPath
  let files := (← get).files
  match files.contains output with
  | .error fault => throw (.file fault)
  | .ok false => throw <| .solver { summary := "solver produced no output file " ++ output.text }
  | .ok true =>
      match files.read output with
      | .error fault => throw (.file fault)
      | .ok bytes => Step.onModel (Solution.readBytes bytes.toList config.task.name)

/-- Writes the model, calls the solver and reads its results. -/
def exchange (config : Config) (runner : Runner) : Step (List Int) := do
  writeModelFile (← Effect.ofExcept config.modelPath)
  let output ← Effect.ofExcept config.outputPath
  Step.onFiles fun files => files.removeIfPresent output
  callSolver config runner
  readResults config

/-- Removes the model and the results file; without their paths nothing is removed. -/
def cleanUp (config : Config) : Step Unit := do
  let model ← Effect.ofExcept config.modelPath
  let output ← Effect.ofExcept config.outputPath
  Step.removeQuietly model
  Step.removeQuietly output

/-- One cycle of writing, solving and reading; returns the category codes of the solution. -/
def infer (config : Config) (runner : Runner) : Step (List Int) := do
  Step.ensureDirectories (← Effect.ofExcept config.workPath)
  let outcome ← Effect.outcome (exchange config runner)
  if config.cleanup then cleanUp config
  Effect.ofExcept outcome

end HingeField.Solver
