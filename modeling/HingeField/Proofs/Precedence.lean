import HingeField.Proofs.Lifecycle
import HingeField.Proofs.Naming

/-!
Which fault a run ends with. A run on a model is a list of stages, and it stops
at the first one that fails. Main statement: the fault of this stage is the
fault of the run, none of the later stages is performed, and what is removed
afterwards neither replaces the fault nor hides it; a removal that is refused
only counts as a warning. Where the model has no path that could be removed,
cleaning up fails itself, with the very fault that had stopped the run.
-/

namespace HingeField

namespace Solver

open FileSystem

variable {config : Config} {runner : Runner}

/-- The stages of a run on a model. -/
inductive Stage where
  | directory
  | model
  | oldResults
  | evidence
  | command
  | evidenceRemoval
  | presence
  | results
deriving DecidableEq

namespace Stage

/-- The stages of an exchange, in their order. -/
def ofExchange : List Stage :=
  [model, oldResults, evidence, command, evidenceRemoval, presence, results]

def all : List Stage :=
  directory :: ofExchange

/-- What is done at a stage. Only the last one gives the codes of a solution. -/
def perform (config : Config) (runner : Runner) : Stage → Step (List Int)
  | directory => do
      Step.ensureDirectories (← Effect.ofExcept config.workPath)
      return []
  | model => do
      writeModelFile (← Effect.ofExcept config.modelPath)
      return []
  | oldResults => do
      let output ← Effect.ofExcept config.outputPath
      Step.onFiles fun files => files.removeIfPresent output
      return []
  | evidence => do
      let evidence ← Effect.ofExcept config.evidencePath
      Step.onFiles fun files => files.write evidence noEvidence.toUTF8
      return []
  | command => do
      runCommand config runner
      return []
  | evidenceRemoval => do
      let evidence ← Effect.ofExcept config.evidencePath
      Step.onFiles fun files => files.removeIfPresent evidence
      return []
  | presence => do
      let output ← Effect.ofExcept config.outputPath
      match (← get).files.contains output with
      | .error fault => throw (.file fault)
      | .ok false =>
          throw <| .solver { summary := "solver produced no output file " ++ output.text }
      | .ok true => return []
  | results => do
      let output ← Effect.ofExcept config.outputPath
      match (← get).files.read output with
      | .error fault => throw (.file fault)
      | .ok bytes => Step.onModel (Solution.readBytes bytes.toList config.task.name)

end Stage

/-- How far a run came, before anything is cleaned up. -/
inductive Reach where
  | stopped (stage : Stage) (fault : Fault) (world : World)
  | completed (codes : List Int) (world : World)

/-- Performs stages up to the first one that fails. The codes are those of the last stage. -/
def proceed (config : Config) (runner : Runner) : List Stage → List Int → World → Reach
  | [], codes, world => .completed codes world
  | stage :: later, _, world =>
      match stage.perform config runner world with
      | .ok codes next => proceed config runner later codes next
      | .error fault failed => .stopped stage fault failed

theorem proceed_cons_of_ok {stage : Stage} {world next : World} {codes found : List Int}
    (performed : stage.perform config runner world = .ok found next) (later : List Stage) :
    proceed config runner (stage :: later) codes world =
      proceed config runner later found next := by
  rw [proceed, performed]

theorem proceed_cons_of_error {stage : Stage} {world failed : World} {codes : List Int}
    {fault : Fault} (performed : stage.perform config runner world = .error fault failed)
    (later : List Stage) :
    proceed config runner (stage :: later) codes world = .stopped stage fault failed := by
  rw [proceed, performed]

/-- A run stops at a stage that fails after all those before it have succeeded. -/
theorem proceed_eq_stopped_iff {stages : List Stage} {stage : Stage} {codes : List Int}
    {world failed : World} {fault : Fault} :
    proceed config runner stages codes world = .stopped stage fault failed ↔
      ∃ before after found ready, stages = before ++ stage :: after ∧
        proceed config runner before codes world = .completed found ready ∧
        stage.perform config runner ready = .error fault failed := by
  induction stages generalizing codes world with
  | nil =>
      constructor
      · intro impossible
        cases impossible
      · rintro ⟨before, _, _, _, split, _⟩
        cases before with
        | nil => cases split
        | cons head before => cases split
  | cons first later ih =>
      constructor
      · intro stopped
        cases performed : first.perform config runner world with
        | ok found next =>
            rw [proceed_cons_of_ok performed] at stopped
            obtain ⟨before, after, last, ready, rfl, passed, failure⟩ := ih.mp stopped
            exact ⟨first :: before, after, last, ready, rfl,
              (proceed_cons_of_ok performed before).trans passed, failure⟩
        | error early finish =>
            rw [proceed_cons_of_error performed] at stopped
            cases stopped
            exact ⟨[], later, codes, world, rfl, rfl, performed⟩
      · rintro ⟨before, after, found, ready, split, passed, failure⟩
        cases before with
        | nil =>
            cases split
            cases passed
            exact proceed_cons_of_error failure later
        | cons head before =>
            cases split
            cases performed : first.perform config runner world with
            | ok next middle =>
                rw [proceed_cons_of_ok performed] at passed ⊢
                exact ih.mpr ⟨before, after, found, ready, rfl, passed, failure⟩
            | error early finish =>
                rw [proceed_cons_of_error performed] at passed
                cases passed

/-- The paths that are cleaned up: those of the model and the results, or none if no model can have
been written. -/
def leftovers (config : Config) : List Path :=
  match config.modelPath, config.outputPath with
  | .ok modelPath, .ok outputPath => if HasNull modelPath then [] else [modelPath, outputPath]
  | _, _ => []

/-- The evidence, if it was there for a command that failed. -/
def remainder (config : Config) (stage : Stage) : List Path :=
  if stage = .command then config.evidencePath.toOption.toList else []

/-- The paths that are removed at the end of a run, if there is a cleanup. -/
def cleaned (config : Config) : List Path :=
  if config.cleanup then leftovers config else []

/-- The paths that are removed when a run has been stopped at a stage. Before there is a directory
nothing is. -/
def removals (config : Config) (stage : Stage) : List Path :=
  remainder config stage ++ if stage = .directory then [] else cleaned config

section Removals

/-- A model cannot be written to a path that is none. -/
theorem perform_model_of_null {modelPath : Path} (named : config.modelPath = .ok modelPath)
    (null : HasNull modelPath) (world : World) :
    Stage.model.perform config runner world = .error (.file .embeddedNull) world := by
  have refused : world.files.write modelPath ByteArray.empty = .error .embeddedNull := by
    unfold write goal
    rw [(locate_eq_embeddedNull_iff world.files modelPath).mpr null]
    rfl
  unfold Stage.perform writeModelFile Step.onFiles
  rw [named]
  simp only [Effect.run_bind, Effect.run_ofExcept_ok, Effect.run_get, refused, Effect.run_throw]

theorem outputPath_of_modelPath {modelPath : Path} (named : config.modelPath = .ok modelPath) :
    ∃ outputPath, config.outputPath = .ok outputPath := by
  unfold Config.modelPath at named
  unfold Config.outputPath
  cases worked : config.workPath with
  | error fault =>
      rw [worked] at named
      cases named
  | ok work => exact ⟨_, rfl⟩

theorem leftovers_of_null {modelPath : Path} (named : config.modelPath = .ok modelPath)
    (null : HasNull modelPath) : leftovers config = [] := by
  obtain ⟨outputPath, outputNamed⟩ := outputPath_of_modelPath named
  unfold leftovers
  rw [named, outputNamed]
  exact if_pos null

theorem cleanUp_of_null {modelPath : Path} (named : config.modelPath = .ok modelPath)
    (null : HasNull modelPath) (world : World) :
    cleanUp config world = .error (.file .embeddedNull) world := by
  obtain ⟨outputPath, outputNamed⟩ := outputPath_of_modelPath named
  unfold cleanUp
  rw [named, outputNamed]
  simp only [Effect.run_bind, Effect.run_ofExcept_ok, removeQuietly_of_null null]

theorem cleanUp_eq_discard {modelPath : Path} (named : config.modelPath = .ok modelPath)
    (valid : ¬HasNull modelPath) (world : World) :
    cleanUp config world = .ok () (world.discard (leftovers config)) := by
  obtain ⟨outputPath, outputNamed⟩ := outputPath_of_modelPath named
  have validOutput := mt (Config.hasNull_outputPath_iff named outputNamed).mp valid
  have both : leftovers config = [modelPath] ++ [outputPath] := by
    unfold leftovers
    rw [named, outputNamed]
    exact if_neg valid
  rw [both, World.discard_append]
  unfold cleanUp
  rw [named, outputNamed]
  simp only [Effect.run_bind, Effect.run_ofExcept_ok, removeQuietly_eq_discard valid,
    removeQuietly_eq_discard validOutput]

/-- Cleaning up removes what it can, unless no model could be written; then it fails with the fault
of writing the model. -/
theorem cleanUp_cases (config : Config) :
    (∀ world, cleanUp config world = .ok () (world.discard (leftovers config))) ∨
      leftovers config = [] ∧ ∃ fault, ∀ world, cleanUp config world = .error fault world ∧
        ∀ runner, Stage.model.perform config runner world = .error fault world := by
  cases named : config.modelPath with
  | error fault =>
      have nothing : leftovers config = [] := by
        unfold leftovers
        rw [named]
      refine Or.inr ⟨nothing, fault, fun world => ⟨?_, fun runner => ?_⟩⟩
      · rw [cleanUp, named]
        rfl
      · rw [Stage.perform, named]
        rfl
  | ok modelPath =>
      by_cases null : HasNull modelPath
      · exact Or.inr ⟨leftovers_of_null named null, .file .embeddedNull, fun world =>
          ⟨cleanUp_of_null named null world,
            fun runner => perform_model_of_null named null world⟩⟩
      · exact Or.inl (cleanUp_eq_discard named null)

end Removals

section Exchange

/-- How an exchange ends that came as far as this: the evidence of a failed command is removed. -/
def Reach.settled (config : Config) : Reach → EStateM.Result Fault World (List Int)
  | .stopped stage fault failed => .error fault (failed.discard (remainder config stage))
  | .completed codes done => .ok codes done

/-- The step that performs stages of an exchange. -/
def stagewise (config : Config) (runner : Runner) (stages : List Stage) (codes : List Int) :
    Step (List Int) := fun world =>
  (proceed config runner stages codes world).settled config

/-- After any stage but the command come the later stages, and nothing else. -/
theorem stagewise_cons {stage : Stage} (other : stage ≠ .command) (later : List Stage)
    (codes : List Int) :
    stagewise config runner (stage :: later) codes =
      stage.perform config runner >>= stagewise config runner later := by
  funext world
  rw [Effect.run_bind]
  unfold stagewise
  cases performed : stage.perform config runner world with
  | ok found next =>
      rw [proceed_cons_of_ok performed]
  | error fault failed =>
      have nothing : remainder config stage = [] := if_neg other
      rw [proceed_cons_of_error performed, Reach.settled, nothing]
      rfl

theorem readResults_eq_stagewise (config : Config) (runner : Runner) (codes : List Int) :
    readResults config = stagewise config runner [.presence, .results] codes := by
  rw [stagewise_cons (by decide)]
  funext world
  rw [Effect.run_bind]
  have ended : ∀ found, stagewise config runner [.results] found =
      Stage.results.perform config runner := by
    intro found
    rw [stagewise_cons (by decide)]
    exact bind_pure _
  simp only [ended]
  unfold readResults Stage.perform
  cases named : config.outputPath with
  | error fault => rfl
  | ok output =>
      simp only [Effect.run_bind, Effect.run_ofExcept_ok, Effect.run_get]
      cases world.files.contains output with
      | error fault => rfl
      | ok present =>
          cases present with
          | false => rfl
          | true => rfl

/-- Where a command fails, its evidence is removed as far as that is possible. -/
theorem callWith_eq_stagewise {evidence : Path} (named : config.evidencePath = .ok evidence)
    (valid : ¬HasNull evidence) (codes : List Int) :
    (callWith config runner evidence >>= fun _ => readResults config) =
      stagewise config runner [.command, .evidenceRemoval, .presence, .results] codes := by
  funext world
  unfold callWith
  rw [Effect.run_bind, Effect.run_bind, Effect.run_outcome]
  cases called : runCommand config runner world with
  | error fault failed =>
      have performed : Stage.command.perform config runner world = .error fault failed := by
        rw [Stage.perform, Effect.run_bind, called]
      have removed : remainder config .command = [evidence] := by
        unfold remainder
        rw [if_pos rfl, named]
        rfl
      unfold stagewise
      rw [proceed_cons_of_error performed, Reach.settled, removed]
      simp only [Effect.run_bind, removeQuietly_eq_discard valid, Effect.run_throw]
  | ok value after =>
      have performed : Stage.command.perform config runner world = .ok [] after := by
        rw [Stage.perform, Effect.run_bind, called]
        rfl
      have removal : Stage.evidenceRemoval.perform config runner =
          (Step.onFiles (fun files => files.removeIfPresent evidence) >>= fun _ => pure []) := by
        rw [Stage.perform, named]
        rfl
      have later : stagewise config runner [.evidenceRemoval, .presence, .results] [] =
          (Step.onFiles (fun files => files.removeIfPresent evidence) >>= fun _ =>
            readResults config) := by
        rw [stagewise_cons (by decide), removal, bind_assoc]
        exact bind_congr fun _ => (readResults_eq_stagewise config runner []).symm
      unfold stagewise
      rw [proceed_cons_of_ok performed]
      exact (Effect.run_bind _ _ _).symm.trans (congrFun later after).symm

/-- The call is the stages from the evidence on. -/
theorem callSolver_eq_stagewise (config : Config) (runner : Runner) (codes : List Int) :
    (callSolver config runner >>= fun _ => readResults config) =
      stagewise config runner [.evidence, .command, .evidenceRemoval, .presence, .results]
        codes := by
  have parts : callSolver config runner =
      (Effect.ofExcept config.evidencePath >>= fun evidence =>
        Step.onFiles (fun files => files.write evidence noEvidence.toUTF8) >>= fun _ =>
          callWith config runner evidence) := rfl
  rw [stagewise_cons (by decide), parts]
  unfold Stage.perform
  cases named : config.evidencePath with
  | error fault => rfl
  | ok evidence =>
      simp only [Effect.ofExcept, pure_bind, bind_assoc]
      funext world
      rw [Effect.run_bind, Effect.run_bind]
      cases written : Step.onFiles (fun files => files.write evidence noEvidence.toUTF8) world with
      | error fault failed => rfl
      | ok value supplied =>
          obtain ⟨_, writtenFiles, _⟩ := onFiles_eq_ok_iff.mp written
          have valid := not_hasNull_of_write writtenFiles
          exact congrFun (callWith_eq_stagewise named valid []) supplied

theorem exchange_eq_stagewise (config : Config) (runner : Runner) (codes : List Int) :
    exchange config runner = stagewise config runner Stage.ofExchange codes := by
  have parts : exchange config runner =
      (Stage.model.perform config runner >>= fun _ =>
        Stage.oldResults.perform config runner >>= fun _ =>
          callSolver config runner >>= fun _ => readResults config) := by
    unfold exchange Stage.perform
    simp only [bind_assoc, pure_bind]
  rw [parts, Stage.ofExchange, stagewise_cons (by decide)]
  refine bind_congr fun found => ?_
  rw [stagewise_cons (by decide)]
  exact bind_congr fun found => callSolver_eq_stagewise config runner found

end Exchange

section Warnings

/-- No warning has been given. -/
def Silent (world : World) : Prop :=
  world.warnings = 0

theorem silent_onFiles (operation : FileSystem → Except FileFault FileSystem) :
    Effect.Keeps Silent (Step.onFiles operation) :=
  keeps_onFiles_of_blind (fun _ _ silent => silent) operation

theorem silent_onModel {β : Type} (action : Action Float β) :
    Effect.Keeps Silent (Step.onModel action) := by
  intro start silent
  unfold Step.onModel Effect.onPart
  cases action start.model with
  | ok value model => exact silent
  | error fault model => exact silent

theorem silent_writeModelFile (path : Path) : Effect.Keeps Silent (writeModelFile path) := by
  refine Effect.keeps_bind (silent_onFiles _) fun _ => ?_
  refine Effect.keeps_bind (silent_onModel _) fun written => ?_
  refine Effect.keeps_bind (silent_onFiles _) fun _ => ?_
  split
  · exact Effect.keeps_throw _
  · exact Effect.keeps_pure _

theorem silent_runCommand (config : Config) (runner : Runner) :
    Effect.Keeps Silent (runCommand config runner) := by
  intro start silent
  rcases runCommand_cases config runner start with same | ⟨call, _, same⟩
  · rw [same]
    exact silent
  · rw [same]
    exact silent

/-- What a run does on its way, other than removing what it leaves, gives no warnings. -/
theorem silent_perform (config : Config) (runner : Runner) (stage : Stage) :
    Effect.Keeps Silent (stage.perform config runner) := by
  cases stage with
  | directory =>
      exact Effect.keeps_bind (Effect.keeps_ofExcept _) fun path =>
        Effect.keeps_bind (keeps_ensureDirectories_of_blind (fun _ _ silent => silent) path)
          fun _ => Effect.keeps_pure _
  | model =>
      exact Effect.keeps_bind (Effect.keeps_ofExcept _) fun path =>
        Effect.keeps_bind (silent_writeModelFile path) fun _ => Effect.keeps_pure _
  | oldResults =>
      exact Effect.keeps_bind (Effect.keeps_ofExcept _) fun _ =>
        Effect.keeps_bind (silent_onFiles _) fun _ => Effect.keeps_pure _
  | evidence =>
      exact Effect.keeps_bind (Effect.keeps_ofExcept _) fun _ =>
        Effect.keeps_bind (silent_onFiles _) fun _ => Effect.keeps_pure _
  | command =>
      exact Effect.keeps_bind (silent_runCommand config runner) fun _ => Effect.keeps_pure _
  | evidenceRemoval =>
      exact Effect.keeps_bind (Effect.keeps_ofExcept _) fun _ =>
        Effect.keeps_bind (silent_onFiles _) fun _ => Effect.keeps_pure _
  | presence =>
      refine Effect.keeps_bind (Effect.keeps_ofExcept _) fun _ =>
        Effect.keeps_bind Effect.keeps_get fun world => ?_
      split
      · exact Effect.keeps_throw _
      · exact Effect.keeps_throw _
      · exact Effect.keeps_pure _
  | results =>
      refine Effect.keeps_bind (Effect.keeps_ofExcept _) fun _ =>
        Effect.keeps_bind Effect.keeps_get fun world => ?_
      split
      · exact Effect.keeps_throw _
      · exact silent_onModel _

def Reach.world : Reach → World
  | .stopped _ _ failed => failed
  | .completed _ done => done

theorem silent_proceed (config : Config) (runner : Runner) (stages : List Stage)
    (codes : List Int) {world : World} (silent : Silent world) :
    Silent (proceed config runner stages codes world).world := by
  induction stages generalizing codes world with
  | nil => exact silent
  | cons stage later ih =>
      have keeps := silent_perform config runner stage
      cases performed : stage.perform config runner world with
      | ok found next =>
          rw [proceed_cons_of_ok performed]
          exact ih found (keeps.of_ok silent performed)
      | error fault failed =>
          rw [proceed_cons_of_error performed]
          exact keeps.of_error silent performed

end Warnings

section Ends

/-- How a run ends that came as far as this. -/
def Reach.ended (config : Config) : Reach → EStateM.Result Fault World (List Int)
  | .stopped stage fault failed => .error fault (failed.discard (removals config stage))
  | .completed codes done => .ok codes (done.discard (cleaned config))

/-- The part of a run that comes after the making of its directory. -/
def exchangeAndClean (config : Config) (runner : Runner) : Step (List Int) := do
  let outcome ← Effect.outcome (exchange config runner)
  if config.cleanup then cleanUp config
  Effect.ofExcept outcome

theorem exchangeAndClean_eq (config : Config) (runner : Runner) (codes : List Int)
    (world : World) :
    exchangeAndClean config runner world =
      (proceed config runner Stage.ofExchange codes world).ended config := by
  have settles : exchange config runner world =
      (proceed config runner Stage.ofExchange codes world).settled config :=
    congrFun (exchange_eq_stagewise config runner codes) world
  unfold exchangeAndClean
  rw [Effect.run_bind, Effect.run_outcome, settles]
  cases reached : proceed config runner Stage.ofExchange codes world with
  | completed found done =>
      rw [Reach.settled, Reach.ended, cleaned]
      cases cleans : config.cleanup with
      | false => rfl
      | true =>
          simp only [if_true, Effect.run_bind]
          rcases cleanUp_cases config with succeeds | ⟨_, fault, fails⟩
          · rw [succeeds]
            rfl
          · have stopped : proceed config runner Stage.ofExchange codes world =
                .stopped .model fault world := proceed_cons_of_error ((fails world).2 runner) _
            cases reached.symm.trans stopped
  | stopped stage fault failed =>
      have inside : stage ≠ .directory := by
        rintro rfl
        obtain ⟨before, after, _, _, split, _⟩ := proceed_eq_stopped_iff.mp reached
        have member : Stage.directory ∈ Stage.ofExchange := by
          rw [split]
          exact List.mem_append_right before List.mem_cons_self
        exact absurd member (by decide)
      have listed : removals config stage = remainder config stage ++ cleaned config := by
        rw [removals, if_neg inside]
      rw [Reach.settled, Reach.ended, listed, World.discard_append, cleaned]
      cases cleans : config.cleanup with
      | false => rfl
      | true =>
          simp only [if_true, Effect.run_bind]
          rcases cleanUp_cases config with succeeds | ⟨nothing, early, fails⟩
          · rw [succeeds]
            rfl
          · -- writing the model has failed then, with the fault that comes back here
            have stopped : proceed config runner Stage.ofExchange codes world =
                .stopped .model early world := proceed_cons_of_error ((fails world).2 runner) _
            cases reached.symm.trans stopped
            rw [nothing, (fails _).1]
            rfl

/-- A run ends as the stages it performs, and what is removed after them, let it end. -/
theorem infer_eq_ended (config : Config) (runner : Runner) (start : World) :
    infer config runner start = (proceed config runner Stage.all [] start).ended config := by
  have parts : infer config runner =
      (Stage.directory.perform config runner >>= fun _ => exchangeAndClean config runner) := by
    rw [Stage.perform]
    simp only [bind_assoc, pure_bind]
    rfl
  rw [parts, Effect.run_bind, Stage.all]
  cases performed : Stage.directory.perform config runner start with
  | ok codes next =>
      rw [proceed_cons_of_ok performed]
      exact exchangeAndClean_eq config runner codes next
  | error fault failed =>
      rw [proceed_cons_of_error performed]
      rfl

/-- How a run on a store ends, and in which world, if the store is one to run on. -/
def inferOn (config : Config) (runner : Runner) (store : Store) (files : FileSystem) :
    Except Fault (List Int) × Option World :=
  match World.ofStore store files with
  | .error fault => (.error fault, none)
  | .ok start =>
      match infer config runner start with
      | .ok codes finish => (.ok codes, some finish)
      | .error fault finish => (.error fault, some finish)

/-- A model file whose name holds a null. -/
def nullConfig : Config :=
  { evidenceConfig "no.evid" with modelFile := .text "a\x00b" }

end Ends

end Solver

end HingeField
