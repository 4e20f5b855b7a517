import HingeField.Proofs.Rejection

/-!
The stages of a solver run, and what each of them does with the calls and the
files. Main statements: an exchange prepares the files, calls, and reads; a step
that only changes files keeps whatever its operation keeps; and a command runs
at most once, on the files as it finds them.
-/

namespace HingeField.Solver

variable {model : Model Float} {config : Config} {runner : Runner} {files : FileSystem}
  {modelPath evidencePath outputPath path work : Path}

/-- The steps of an exchange up to the call. -/
def prepare (config : Config) : Step Path := do
  writeModelFile (← Effect.ofExcept config.modelPath)
  let output ← Effect.ofExcept config.outputPath
  Step.onFiles fun files => files.removeIfPresent output
  let evidence ← Effect.ofExcept config.evidencePath
  Step.onFiles fun files => files.write evidence noEvidence.toUTF8
  return evidence

/-- The call, after which the evidence is removed. -/
def callWith (config : Config) (runner : Runner) (evidence : Path) : Step Unit := do
  match (← Effect.outcome (runCommand config runner)) with
  | .error fault =>
      Step.removeQuietly evidence
      throw fault
  | .ok () => Step.onFiles fun files => files.removeIfPresent evidence

theorem exchange_eq (config : Config) (runner : Runner) :
    exchange config runner =
      (prepare config >>= fun evidence =>
        callWith config runner evidence >>= fun _ => readResults config) := by
  unfold exchange prepare callSolver callWith
  simp only [bind_assoc]
  rfl

/-- The world in which a run comes to its cleaning up, if its directory can be made. -/
def exchanged (config : Config) (runner : Runner) (work : Path) (start : World) : World :=
  Effect.final (exchange config runner
    { start with files := (start.files.ensureDirectories work).1 })

section Steps

/-- The part of a world that is outside of the model: the calls and the files. -/
def trace (world : World) : List Call × FileSystem :=
  (world.calls, world.files)

/-- The calls and the files of a world have a property. -/
def Shows (kept : List Call → FileSystem → Prop) (world : World) : Prop :=
  kept (trace world).1 (trace world).2

variable {kept : List Call → FileSystem → Prop}

theorem onFiles_eq_ok_iff {operation : FileSystem → Except FileFault FileSystem}
    {world finish : World} :
    Step.onFiles operation world = .ok () finish ↔
      ∃ changed, operation world.files = .ok changed ∧
        finish = { world with files := changed } := by
  unfold Step.onFiles
  simp only [Effect.run_bind, Effect.run_get]
  cases operation world.files with
  | ok changed =>
      constructor
      · intro success
        cases success
        exact ⟨changed, rfl, rfl⟩
      · rintro ⟨_, same, rfl⟩
        cases same
        rfl
  | error fault =>
      constructor
      · intro impossible
        cases impossible
      · rintro ⟨_, impossible, _⟩
        cases impossible

/-- An operation that is refused leaves the files alone. -/
theorem trace_onFiles (operation : FileSystem → Except FileFault FileSystem) (start : World) :
    trace (Effect.final (Step.onFiles operation start)) =
      (start.calls, (start.files.settle (operation start.files)).1) := by
  unfold Step.onFiles
  simp only [Effect.run_bind, Effect.run_get]
  cases operation start.files with
  | ok changed => rfl
  | error fault => rfl

theorem removeQuietly_of_null (null : FileSystem.HasNull path) (start : World) :
    Step.removeQuietly path start = .error (.file .embeddedNull) start := by
  unfold Step.removeQuietly
  simp only [Effect.run_bind, Effect.run_get,
    (FileSystem.removeIfPresent_eq_embeddedNull_iff start.files path).mpr null, Effect.run_throw]

theorem removeQuietly_of_valid (valid : ¬FileSystem.HasNull path) (start : World) :
    ∃ warnings, Step.removeQuietly path start = .ok () { start with
      files := (start.files.settle (start.files.removeIfPresent path)).1, warnings } := by
  refine ⟨(start.discard [path]).warnings, ?_⟩
  rw [← FileSystem.discard_single]
  exact removeQuietly_eq_discard valid start

theorem trace_removeQuietly (path : Path) (start : World) :
    trace (Effect.final (Step.removeQuietly path start)) =
      (start.calls, (start.files.settle (start.files.removeIfPresent path)).1) := by
  unfold Step.removeQuietly
  simp only [Effect.run_bind, Effect.run_get]
  cases start.files.removeIfPresent path with
  | ok changed => rfl
  | error refused =>
      cases refused with
      | _ => rfl

theorem trace_onModel {β : Type} (action : Action Float β) (start : World) :
    trace (Effect.final (Step.onModel action start)) = trace start := by
  unfold Step.onModel Effect.onPart
  cases action start.model with
  | ok value model => rfl
  | error fault model => rfl

theorem trace_readResults (config : Config) (start : World) :
    trace (Effect.final (readResults config start)) = trace start := by
  unfold readResults
  cases config.outputPath with
  | error fault => rfl
  | ok output =>
      simp only [Effect.run_bind, Effect.run_ofExcept_ok, Effect.run_get]
      cases start.files.contains output with
      | error overlong => rfl
      | ok present =>
          cases present with
          | false => rfl
          | true =>
              cases start.files.read output with
              | error refused => rfl
              | ok bytes => exact trace_onModel _ start

/-- However a call ends, the evidence is removed after it. -/
theorem trace_callWith (evidence : Path) {ready called : World}
    (ran : Effect.final (runCommand config runner ready) = called) :
    trace (Effect.final (callWith config runner evidence ready)) =
      (called.calls, (called.files.settle (called.files.removeIfPresent evidence)).1) := by
  unfold callWith
  rw [Effect.run_bind, Effect.run_outcome]
  subst ran
  cases runCommand config runner ready with
  | ok value called => exact trace_onFiles _ called
  | error fault called =>
      dsimp only
      rw [Effect.final_bind_eq fun _ _ => rfl]
      exact trace_removeQuietly evidence called

theorem trace_exchange {evidence : Path} {start ready : World}
    (prepared : prepare config start = .ok evidence ready) :
    trace (Effect.final (exchange config runner start)) =
      trace (Effect.final (callWith config runner evidence ready)) := by
  rw [exchange_eq, Effect.run_bind, prepared]
  dsimp only
  rw [Effect.run_bind]
  cases callWith config runner evidence ready with
  | ok value called => exact trace_readResults config called
  | error fault called => rfl

theorem kept_settle {calls : List Call} {result : Except FileFault FileSystem}
    (holds : kept calls files) (keeps : ∀ changed, result = .ok changed → kept calls changed) :
    kept calls (files.settle result).1 := by
  cases result with
  | ok changed => exact keeps changed rfl
  | error fault => exact holds

/-- A step that changes the files keeps whatever its operation keeps. -/
theorem keeps_operation {operation : FileSystem → Except FileFault FileSystem}
    (keeps : ∀ calls before after, kept calls before → operation before = .ok after →
      kept calls after) :
    Effect.Keeps (Shows kept) (Step.onFiles operation) := by
  intro start holds
  unfold Shows
  rw [trace_onFiles]
  exact kept_settle holds fun changed => keeps start.calls start.files changed holds

theorem keeps_quietly
    (keeps : ∀ calls before after, kept calls before → before.removeIfPresent path = .ok after →
      kept calls after) :
    Effect.Keeps (Shows kept) (Step.removeQuietly path) := by
  intro start holds
  unfold Shows
  rw [trace_removeQuietly]
  exact kept_settle holds fun changed => keeps start.calls start.files changed holds

theorem keeps_cleaning
    (keeps : ∀ path, config.modelPath = .ok path ∨ config.outputPath = .ok path →
      ∀ calls before after, kept calls before → before.removeIfPresent path = .ok after →
        kept calls after) :
    Effect.Keeps (Shows kept) (cleanUp config) := by
  unfold cleanUp
  cases modelNamed : config.modelPath with
  | error fault => exact Effect.keeps_throw fault
  | ok modelPath =>
      cases outputNamed : config.outputPath with
      | error fault => exact Effect.keeps_throw fault
      | ok outputPath =>
          simp only [Effect.ofExcept, pure_bind]
          exact Effect.keeps_bind (keeps_quietly (keeps modelPath (Or.inl modelNamed))) fun _ =>
            keeps_quietly (keeps outputPath (Or.inr outputNamed))

theorem keeps_action {β : Type} (action : Action Float β) :
    Effect.Keeps (Shows kept) (Step.onModel action) := by
  intro start holds
  unfold Shows
  rw [trace_onModel]
  exact holds

theorem keeps_writeModel
    (keeps : ∀ content calls before after, kept calls before →
      before.write path content = .ok after → kept calls after) :
    Effect.Keeps (Shows kept) (writeModelFile path) := by
  refine Effect.keeps_bind (keeps_operation (keeps _)) fun _ => ?_
  refine Effect.keeps_bind (keeps_action _) fun written => ?_
  refine Effect.keeps_bind (keeps_operation (keeps _)) fun _ => ?_
  split
  · exact Effect.keeps_throw _
  · exact Effect.keeps_pure _

/-- A model file that was written holds the whole network text, and writing it left the model as
it was. -/
theorem writeModelFile_eq_ok {start finish : World} (laidOut : start.model.LaidOut)
    (success : writeModelFile path start = .ok () finish) :
    ∃ text opened written, Network.render start.model = .ok text start.model ∧
      start.files.write path ByteArray.empty = .ok opened ∧
      opened.write path text.toUTF8 = .ok written ∧
      finish = { start with files := written } := by
  obtain ⟨_, first, opening, success⟩ := Effect.bind_eq_ok_iff.mp success
  obtain ⟨opened, openedFiles, rfl⟩ := onFiles_eq_ok_iff.mp opening
  obtain ⟨⟨text, fault⟩, second, drafting, success⟩ := Effect.bind_eq_ok_iff.mp success
  obtain ⟨_, third, storing, ending⟩ := Effect.bind_eq_ok_iff.mp success
  obtain ⟨written, writtenFiles, rfl⟩ := onFiles_eq_ok_iff.mp storing
  have whole : fault = none ∧ finish = { second with files := written } := by
    cases fault with
    | none =>
        cases ending
        exact ⟨rfl, rfl⟩
    | some fault => cases ending
  obtain ⟨rfl, rfl⟩ := whole
  have kept := Network.keeps_writing laidOut start.model rfl
  change Effect.onPart World.model _ Network.writing _ = _ at drafting
  unfold Effect.onPart at drafting
  cases drafted : Network.writing start.model with
  | error fault draft =>
      simp only [drafted] at drafting
      cases drafting
  | ok result draft =>
      rw [drafted] at kept
      cases kept
      simp only [drafted] at drafting
      cases drafting
      refine ⟨text, opened, written, ?_, openedFiles, writtenFiles, rfl⟩
      unfold Network.render
      rw [Effect.run_bind, drafted]
      rfl

/-- A command that is one is run once, on the files as they are. -/
theorem final_runCommand {command : List String} (runner : Runner) (start : World)
    (commanded : config.command = .ok command) (located : config.workPath = .ok work) :
    Effect.final (runCommand config runner start) =
      { start with
        files := (runner { command, directory := work, files := start.files }).2
        calls := start.calls ++ [{ command, directory := work, files := start.files }] } := by
  unfold runCommand
  rw [commanded, located]
  simp only [Effect.run_bind, Effect.run_ofExcept_ok, Effect.run_get, Effect.run_modify]
  cases (runner { command, directory := work, files := start.files }).1 with
  | failed fault => rfl
  | exited status stderr =>
      by_cases succeeded : status = some 0
      · simp only [succeeded, if_true]
        rfl
      · simp only [succeeded, if_false]
        rfl

theorem runCommand_cases (config : Config) (runner : Runner) (start : World) :
    Effect.final (runCommand config runner start) = start ∨
      ∃ call, call.files = start.files ∧
        Effect.final (runCommand config runner start) =
          { start with files := (runner call).2, calls := start.calls ++ [call] } := by
  cases commanded : config.command with
  | error fault =>
      unfold runCommand
      rw [commanded]
      exact Or.inl rfl
  | ok command =>
      cases located : config.workPath with
      | error fault =>
          unfold runCommand
          rw [commanded, located]
          exact Or.inl rfl
      | ok directory =>
          exact Or.inr ⟨{ command, directory, files := start.files }, rfl,
            final_runCommand runner start commanded located⟩

/-- The files are prepared if each of them can be written, and the results removed. -/
theorem prepare_of_supply {text : String} {opened written removed supplied : FileSystem}
    (modelNamed : config.modelPath = .ok modelPath)
    (evidenceNamed : config.evidencePath = .ok evidencePath)
    (outputNamed : config.outputPath = .ok outputPath)
    (opening : files.write modelPath ByteArray.empty = .ok opened)
    (drafting : Network.writing model = .ok (text, none) model)
    (storing : opened.write modelPath text.toUTF8 = .ok written)
    (removal : written.removeIfPresent outputPath = .ok removed)
    (supply : removed.write evidencePath noEvidence.toUTF8 = .ok supplied) :
    prepare config { model, files } = .ok evidencePath { model, files := supplied } := by
  have opens : Step.onFiles (fun files => files.write modelPath ByteArray.empty)
      { model, files } = .ok () { model, files := opened } :=
    onFiles_eq_ok_iff.mpr ⟨opened, opening, rfl⟩
  have drafts : Step.onModel Network.writing { model, files := opened } =
      .ok (text, none) { model, files := opened } := by
    unfold Step.onModel Effect.onPart
    simp only [drafting]
  have stores : Step.onFiles (fun files => files.write modelPath text.toUTF8)
      { model, files := opened } = .ok () { model, files := written } :=
    onFiles_eq_ok_iff.mpr ⟨written, storing, rfl⟩
  have removes : Step.onFiles (fun files => files.removeIfPresent outputPath)
      { model, files := written } = .ok () { model, files := removed } :=
    onFiles_eq_ok_iff.mpr ⟨removed, removal, rfl⟩
  have supplies : Step.onFiles (fun files => files.write evidencePath noEvidence.toUTF8)
      { model, files := removed } = .ok () { model, files := supplied } :=
    onFiles_eq_ok_iff.mpr ⟨supplied, supply, rfl⟩
  unfold prepare writeModelFile
  rw [modelNamed, evidenceNamed, outputNamed]
  simp only [Effect.run_bind, Effect.run_ofExcept_ok, opens, drafts, stores, removes, supplies,
    Effect.run_pure]

end Steps

section Ends

theorem final_infer_of_refused {fault : FileFault} {start : World}
    (located : config.workPath = .ok work)
    (refused : (start.files.ensureDirectories work).2 = some fault) :
    Effect.final (infer config runner start) =
      { start with files := (start.files.ensureDirectories work).1 } := by
  unfold infer Step.ensureDirectories
  rw [located]
  simp only [Effect.run_bind, Effect.run_ofExcept_ok, Effect.run_get, Effect.run_modify, refused,
    Effect.run_throw]
  rfl

theorem final_infer_of_made {start : World} (located : config.workPath = .ok work)
    (made : (start.files.ensureDirectories work).2 = none) :
    Effect.final (infer config runner start) =
      if config.cleanup then Effect.final (cleanUp config (exchanged config runner work start))
      else exchanged config runner work start := by
  have alone : ∀ (outcome : Except Fault (List Int)) (world : World),
      Effect.final (Effect.ofExcept outcome world) = world := by
    intro outcome world
    cases outcome with
    | ok codes => rfl
    | error fault => rfl
  unfold infer exchanged Step.ensureDirectories
  rw [located]
  simp only [Effect.run_bind, Effect.run_ofExcept_ok, Effect.run_get, Effect.run_modify, made,
    Effect.run_pure, Effect.run_outcome]
  cases exchange config runner
      { start with files := (start.files.ensureDirectories work).1 } with
  | ok codes world =>
      cases config.cleanup with
      | false => exact alone (.ok codes) world
      | true => exact Effect.final_bind_eq (fun _ => alone (.ok codes)) world
  | error fault world =>
      cases config.cleanup with
      | false => exact alone (.error fault) world
      | true => exact Effect.final_bind_eq (fun _ => alone (.error fault)) world

theorem final_cleanUp {world : World} {after last : FileSystem}
    (modelNamed : config.modelPath = .ok modelPath)
    (outputNamed : config.outputPath = .ok outputPath)
    (first : world.files.removeIfPresent modelPath = .ok after)
    (second : after.removeIfPresent outputPath = .ok last) :
    Effect.final (cleanUp config world) = { world with files := last } := by
  unfold cleanUp Step.removeQuietly
  rw [modelNamed, outputNamed]
  simp only [Effect.run_bind, Effect.run_ofExcept_ok, Effect.run_get, first, second,
    Effect.run_modify]
  rfl

section Calling

variable {command : List String} {evidence : Path} {start ready : World}
  (commanded : config.command = .ok command) (located : config.workPath = .ok work)
  (prepared : prepare config { start with files := (start.files.ensureDirectories work).1 } =
    .ok evidence ready)
include commanded located prepared

theorem trace_exchanged (runner : Runner) :
    let call : Call := { command, directory := work, files := ready.files }
    trace (exchanged config runner work start) =
      (ready.calls ++ [call],
        ((runner call).2.settle ((runner call).2.removeIfPresent evidence)).1) := by
  intro call
  unfold exchanged
  rw [trace_exchange prepared,
    trace_callWith evidence (final_runCommand runner ready commanded located)]

/-- There is a call once the files are prepared, if the command is one. -/
theorem calls_infer (runner : Runner) (made : (start.files.ensureDirectories work).2 = none) :
    (Effect.final (infer config runner start)).calls =
      ready.calls ++ [{ command, directory := work, files := ready.files }] := by
  have once : Shows (fun calls _ => calls = ready.calls ++
      [{ command, directory := work, files := ready.files }])
      (exchanged config runner work start) := by
    unfold Shows
    rw [trace_exchanged commanded located prepared runner]
  rw [final_infer_of_made located made]
  cases config.cleanup with
  | false => exact once
  | true => exact keeps_cleaning (fun _ _ _ _ _ holds _ => holds) _ once

end Calling

section Failing

variable {fault : Fault} {evidence : Path} {start ready called : World}

theorem cleanUp_of_valid (modelNamed : config.modelPath = .ok modelPath)
    (outputNamed : config.outputPath = .ok outputPath) (valid : ¬FileSystem.HasNull modelPath)
    (validOutput : ¬FileSystem.HasNull outputPath) (start : World) :
    ∃ finish, cleanUp config start = .ok () finish := by
  obtain ⟨middle, first⟩ := removeQuietly_succeeds valid start
  obtain ⟨finish, second⟩ := removeQuietly_succeeds validOutput middle
  refine ⟨finish, ?_⟩
  unfold cleanUp
  rw [modelNamed, outputNamed]
  simp only [Effect.run_bind, Effect.run_ofExcept_ok, first, second]

theorem exchange_of_refused_write {refusal : FileFault}
    (modelNamed : config.modelPath = .ok modelPath)
    (refused : start.files.write modelPath ByteArray.empty = .error refusal) :
    ∃ finish, exchange config runner start = .error (.file refusal) finish := by
  have opens : Step.onFiles (fun files => files.write modelPath ByteArray.empty) start =
      .error (.file refusal) start := by
    unfold Step.onFiles
    simp only [Effect.run_bind, Effect.run_get, refused, Effect.run_throw]
  refine ⟨start, ?_⟩
  unfold exchange writeModelFile
  rw [modelNamed]
  simp only [Effect.run_bind, Effect.run_ofExcept_ok, opens]

theorem runCommand_of_status {command : List String} {status : Option Int} {stderr : String}
    (commanded : config.command = .ok command) (located : config.workPath = .ok work)
    (exited : (runner { command, directory := work, files := start.files }).1 =
      .exited status stderr)
    (failed : status ≠ some 0) :
    ∃ finish, runCommand config runner start =
      .error (.solver { summary := config.executable.shown ++ " failed", status, stderr })
        finish := by
  unfold runCommand
  rw [commanded, located]
  simp only [Effect.run_bind, Effect.run_ofExcept_ok, Effect.run_get, Effect.run_modify, exited,
    failed, if_false]
  exact ⟨_, rfl⟩

theorem exchange_of_failed_command (prepared : prepare config start = .ok evidence ready)
    (valid : ¬FileSystem.HasNull evidence)
    (failed : runCommand config runner ready = .error fault called) :
    ∃ finish, exchange config runner start = .error fault finish := by
  obtain ⟨finish, removed⟩ := removeQuietly_succeeds valid called
  refine ⟨finish, ?_⟩
  rw [exchange_eq, Effect.run_bind, prepared]
  dsimp only
  rw [Effect.run_bind]
  unfold callWith
  rw [Effect.run_bind, Effect.run_outcome, failed]
  simp only [Effect.run_bind, removed, Effect.run_throw]

/-- A run ends with the fault of its exchange, where cleaning up does not fail. -/
theorem infer_of_failed_exchange {made : FileSystem} (located : config.workPath = .ok work)
    (ensured : start.files.ensureDirectories work = (made, none))
    (failed : ∃ called, exchange config runner { start with files := made } = .error fault called)
    (cleans : ∀ world, ∃ finish, cleanUp config world = .ok () finish) :
    ∃ finish, infer config runner start = .error fault finish := by
  obtain ⟨called, failed⟩ := failed
  obtain ⟨cleaned, cleaning⟩ := cleans called
  unfold infer Step.ensureDirectories
  rw [located]
  simp only [Effect.run_bind, Effect.run_ofExcept_ok, Effect.run_get, Effect.run_modify, ensured,
    Effect.run_pure, Effect.run_outcome, failed]
  cases config.cleanup with
  | false => exact ⟨called, rfl⟩
  | true => exact ⟨cleaned, by simp only [if_true, Effect.run_bind, cleaning]; rfl⟩

theorem infer_of_refused {made : FileSystem} {refusal : FileFault}
    (located : config.workPath = .ok work)
    (refused : start.files.ensureDirectories work = (made, some refusal)) :
    ∃ finish, infer config runner start = .error (.file refusal) finish := by
  unfold infer Step.ensureDirectories
  rw [located]
  simp only [Effect.run_bind, Effect.run_ofExcept_ok, Effect.run_get, Effect.run_modify, refused,
    Effect.run_throw]
  exact ⟨_, rfl⟩

end Failing

end Ends

end HingeField.Solver
