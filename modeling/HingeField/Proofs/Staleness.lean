import HingeField.Proofs.Leftovers
import HingeField.Proofs.Lifecycle
import HingeField.Proofs.TwoRuns

/-!
Runs on leftovers. Every step of a run either ends the difference between two
file systems that differ in leftovers, or keeps it, and no step that keeps it
can tell them apart. Main statement: a run ends alike on both, with the same
model, and with the same files where it cleans up. This needs that the leftover
of the model has the mode of the file it stands for, that no link stands there,
and that the directory is made alike: each of the three can tell runs apart.
-/

namespace HingeField.Solver

open FileSystem Effect

variable {config : Config} {runner : Runner} {modelPath outputPath work : Path}
  {before between failed : FileSystem → FileSystem → Prop}

section Course

/-- From files that writing the model and removing the results make the same, an exchange ends
alike. -/
theorem relates_exchange (sees : SeesFiles runner) (modelNamed : config.modelPath = .ok modelPath)
    (outputNamed : config.outputPath = .ok outputPath)
    (writes : ∀ content files other, before files other →
      Agree between (files.write modelPath content) (other.write modelPath content))
    (again : ∀ files other, between files other → before files other)
    (removes : ∀ files other, between files other →
      Agree Same (files.removeIfPresent outputPath) (other.removeIfPresent outputPath)) :
    Relates (Alike before) (Alike Same) (Alike fun files other => before files other ∨
      Same files other) (exchange config runner) := by
  have early : ∀ first second, Alike before first second →
      Alike (fun files other => before files other ∨ Same files other) first second :=
    fun _ _ alike => ⟨alike.1, Or.inl alike.2⟩
  have late : ∀ first second, Alike Same first second →
      Alike (fun files other => before files other ∨ Same files other) first second :=
    fun _ _ alike => ⟨alike.1, Or.inr alike.2⟩
  unfold exchange
  simp only [modelNamed, outputNamed, Effect.ofExcept, pure_bind]
  refine relates_bind ((relates_writeModelFile writes again).weaken (fun _ _ alike => alike)
    (fun _ _ alike => alike) early) fun _ => ?_
  refine relates_bind ((relates_onFiles removes).weaken (fun _ _ alike => alike)
    (fun _ _ alike => alike) fun _ _ alike => early _ _ ⟨alike.1, again _ _ alike.2⟩) fun _ => ?_
  refine relates_bind ((relates_callSolver sees).weaken (fun _ _ alike => alike)
    (fun _ _ alike => alike) late) fun _ => ?_
  exact relates_readResults.weaken (fun _ _ alike => alike) (fun _ _ alike => alike) late

/-- What is left after the directory is made. -/
def conclude (config : Config) (runner : Runner) : Step (List Int) := do
  let outcome ← Effect.outcome (exchange config runner)
  if config.cleanup then cleanUp config
  Effect.ofExcept outcome

/-- How alike two runs end: the models are the same, and with cleanup so are the files. -/
def EndsAlike (config : Config) (first second : World) : Prop :=
  second.model = first.model ∧ (config.cleanup = true → Same first.files second.files)

theorem relates_conclude
    (exchanges : Relates (Alike before) (Alike failed) (Alike failed) (exchange config runner))
    (cleans : Relates (Alike failed) (Alike Same) (Alike Same) (cleanUp config)) :
    Relates (Alike before) (EndsAlike config) (EndsAlike config) (conclude config runner) := by
  refine relates_bind (relates_outcome exchanges) fun outcome => ?_
  cases cleanup : config.cleanup with
  | false =>
      have ends : ∀ first second, Alike failed first second → EndsAlike config first second :=
        fun _ _ alike => ⟨alike.1, fun impossible => by rw [cleanup] at impossible; cases impossible⟩
      exact (relates_ofExcept outcome).weaken (fun _ _ alike => alike) ends ends
  | true =>
      have ends : ∀ first second, Alike Same first second → EndsAlike config first second :=
        fun _ _ alike => ⟨alike.1, fun _ => alike.2⟩
      exact (relates_bind cleans fun _ => relates_ofExcept outcome).weaken
        (fun _ _ alike => alike) ends ends

/-- The leftovers, as long as the model file has one mode in both file systems. -/
structure Leftover (base : FileSystem) (outputPath : Path) (place : Location)
    (files other : FileSystem) : Prop extends Strays base outputPath place files other where
  mode : isExecutable (other.entryAt place) = isExecutable (files.entryAt place)

section Ground

variable {base : FileSystem} {place : Location} (ground : base.IsGround modelPath place)
include ground

theorem relates_exchange_of_leftover (sees : SeesFiles runner)
    (modelNamed : config.modelPath = .ok modelPath)
    (outputNamed : config.outputPath = .ok outputPath) :
    Relates (Alike (Leftover base outputPath place))
      (Alike fun files other => Leftover base outputPath place files other ∨ Same files other)
      (Alike fun files other => Leftover base outputPath place files other ∨ Same files other)
      (exchange config runner) := by
  have exchanges : Relates (Alike (Leftover base outputPath place)) (Alike Same)
      (Alike fun files other => Leftover base outputPath place files other ∨ Same files other)
      (exchange config runner) := by
    apply relates_exchange sees modelNamed outputNamed
    · intro content files other leftover
      exact ground.write leftover.toStrays leftover.mode content
    · intro files other settled
      exact ⟨settled.toStrays, by rw [settled.model]⟩
    · intro files other settled
      exact settled.removeResults.1
  exact exchanges.weaken (fun _ _ alike => alike) (fun _ _ alike => ⟨alike.1, Or.inr alike.2⟩)
    fun _ _ alike => alike

/-- Cleaning up takes all that is left over away, whatever has happened before. -/
theorem relates_cleanUp_of_leftover (modelNamed : config.modelPath = .ok modelPath)
    (outputNamed : config.outputPath = .ok outputPath) :
    Relates (Alike (Leftover base outputPath place)) (Alike Same) (Alike Same)
      (cleanUp config) := by
  have valid : ¬HasNull modelPath := by
    intro null
    have refused := (locate_eq_embeddedNull_iff base modelPath).mpr null
    rw [ground.located] at refused
    cases refused
  have first : Relates (Alike (Leftover base outputPath place))
      (Alike (Settled base outputPath place)) (Alike Same) (Step.removeQuietly modelPath) := by
    rintro start other ⟨sameModel, leftover⟩
    obtain ⟨_, startEnd⟩ := removeQuietly_of_valid valid start
    obtain ⟨_, otherEnd⟩ := removeQuietly_of_valid valid other
    rw [startEnd, otherEnd]
    exact ⟨rfl, sameModel, ground.removeModel leftover.toStrays⟩
  unfold cleanUp
  simp only [modelNamed, outputNamed, Effect.ofExcept, pure_bind]
  refine relates_bind first fun _ => relates_removeQuietly fun files other settled => ?_
  exact settled.removeResults.2

end Ground

end Course

section Runs

theorem infer_eq (config : Config) (runner : Runner) :
    infer config runner =
      ((Effect.ofExcept config.workPath >>= Step.ensureDirectories) >>= fun _ =>
        conclude config runner) := by
  unfold infer conclude
  rw [bind_assoc]

variable {first second : FileSystem}

/-- The worlds of two runs after the directory could be made. -/
theorem relates_conclude_of_leftovers (model : Model Float) (sees : SeesFiles runner)
    (modelNamed : config.modelPath = .ok modelPath)
    (outputNamed : config.outputPath = .ok outputPath) (tree : first.IsTree)
    (leftovers : Leftovers modelPath outputPath first second)
    (made : (first.ensureDirectories work).2 = none)
    (otherMade : (second.ensureDirectories work).2 = none) :
    Matches (EndsAlike config) (EndsAlike config)
      (conclude config runner { model, files := (first.ensureDirectories work).1 })
      (conclude config runner { model, files := (second.ensureDirectories work).1 }) := by
  have beside := Config.modelPath_beside_outputPath modelNamed outputNamed
  rcases leftovers.same_or_located beside with same | ⟨place, located⟩
  · have exchanges : Relates (Alike Same) (Alike Same) (Alike Same) (exchange config runner) := by
      refine (relates_exchange sees modelNamed outputNamed
        (fun content files other same => same.write modelPath content)
        (fun files other same => same)
        (fun files other same => same.removeIfPresent outputPath)).weaken
        (fun _ _ alike => alike) (fun _ _ alike => alike) ?_
      rintro start other ⟨sameModel, same | same⟩
      · exact ⟨sameModel, same⟩
      · exact ⟨sameModel, same⟩
    have start : Alike Same { model, files := (first.ensureDirectories work).1 }
        { model, files := (second.ensureDirectories work).1 } :=
      ⟨rfl, (same.ensureDirectories work).1⟩
    exact relates_conclude exchanges relates_cleanUp _ _ start
  · obtain ⟨ground, strays, mode⟩ := leftovers.strays tree located made otherMade
    have exchanges := relates_exchange_of_leftover ground sees modelNamed outputNamed
    have start : Alike (Leftover (first.ensureDirectories work).1 outputPath place)
        { model, files := (first.ensureDirectories work).1 }
        { model, files := (second.ensureDirectories work).1 } :=
      ⟨rfl, strays, mode⟩
    refine relates_conclude exchanges ?_ _ _ start
    rintro start other ⟨sameModel, leftover | same⟩
    · exact relates_cleanUp_of_leftover ground modelNamed outputNamed start other
        ⟨sameModel, leftover⟩
    · exact relates_cleanUp start other ⟨sameModel, same⟩

end Runs

section Traces

/-- A directory with nothing in it. -/
def bare : FileSystem :=
  { entries := [], here := [] }

theorem isTree_bare : bare.IsTree := by
  refine ⟨rfl, fun location present => ?_⟩
  cases location with
  | nil => rfl
  | cons name rest => exact absurd rfl present

/-- A solver that ends well and writes nothing. -/
def silent : Runner := fun call => (.exited (some 0) "", call.files)

theorem seesFiles_silent : SeesFiles silent :=
  fun _ _ _ _ same => ⟨rfl, same⟩

/-- The model and the results of an earlier run. -/
def stale : FileSystem :=
  (bare.store ["model.uai"] (.file "MARKOV".toUTF8 false)).store ["model.uai.MPE"]
    (.file "MPE\n1\n1 1\n".toUTF8 false)

theorem leftovers_stale :
    Leftovers ⟨"", ["model.uai"]⟩ ⟨"", ["model.uai.MPE"]⟩ bare stale := by
  have located : bare.locate ⟨"", ["model.uai"]⟩ = .ok ["model.uai"] := by cbv
  have outputLocated : bare.locate ⟨"", ["model.uai.MPE"]⟩ = .ok ["model.uai.MPE"] := by cbv
  have plain : IsPlain (bare.entryAt ["model.uai"]) := trivial
  have outputPlain : IsPlain (bare.entryAt ["model.uai.MPE"]) := trivial
  refine ⟨?_, ?_, ?_⟩
  · exact ((AlikeBut.refl bare).storeFile ⟨_, List.mem_cons_self, located⟩ plain false).storeFile
      ⟨_, List.mem_cons_of_mem _ List.mem_cons_self, outputLocated⟩ outputPlain false
  · intro place found
    rw [located] at found
    cases found
    intro goal linked
    cases linked
  · intro place found
    rw [located] at found
    cases found
    rfl

/-- A solver whose status tells whether the model file can be run. -/
def modeReader : Runner := fun call =>
  (.exited (some (if isExecutable (call.files.entryAt ["model.uai"]) then 3 else 1)) "",
    call.files)

theorem infer_of_refused_write {found made : FileSystem} {refusal : FileFault}
    (located : config.workPath = .ok work) (modelNamed : config.modelPath = .ok modelPath)
    (cleans : ∀ world, ∃ finish, cleanUp config world = .ok () finish)
    (ensured : found.ensureDirectories work = (made, none))
    (refused : made.write modelPath ByteArray.empty = .error refusal) :
    ∃ finish, infer config modeReader { model := twoPairs, files := found } =
      .error (.file refusal) finish := by
  have failed : ∃ called, exchange config modeReader { model := twoPairs, files := made } =
      .error (.file refusal) called := exchange_of_refused_write modelNamed refused
  exact infer_of_failed_exchange located ensured failed cleans

/-- Two file systems that differ in leftovers only, and runs from them that end differently. -/
structure TellsApart (config : Config) (runner : Runner) (modelPath outputPath : Path)
    (first second : FileSystem) : Prop where
  sees : SeesFiles runner
  model : config.modelPath = .ok modelPath
  output : config.outputPath = .ok outputPath
  tree : first.IsTree
  otherTree : second.IsTree
  alike : AlikeBut (first.Led [modelPath, outputPath]) first second
  ends : ∃ fault otherFault finish otherFinish,
    infer config runner { model := twoPairs, files := first } = .error fault finish ∧
      infer config runner { model := twoPairs, files := second } = .error otherFault otherFinish ∧
      fault ≠ otherFault

theorem seesFiles_modeReader : SeesFiles modeReader := by
  intro call other _ _ same
  unfold modeReader
  rw [same.entries]
  exact ⟨rfl, same⟩

/-- The model path is a link into the place of the results. -/
def linkedModel : FileSystem :=
  bare.store ["model.uai"] (.link ⟨"", ["model.uai.MPE", "x"]⟩)

/-- The directory to work in has the name of the model file. -/
def nestedConfig : Config :=
  { evidenceConfig "no.evid" with workDirectory := .text "w", modelFile := .text "/w" }

theorem nestedConfig_modelPath : nestedConfig.modelPath = .ok ⟨"/", ["w"]⟩ := by
  cbv

theorem nestedConfig_outputPath : nestedConfig.outputPath = .ok ⟨"/", ["w.MPE"]⟩ := by
  cbv

theorem cleanUp_evidenceConfig (name : String) (start : World) :
    ∃ finish, cleanUp (evidenceConfig name) start = .ok () finish := by
  apply cleanUp_of_valid (evidenceConfig_modelPath name) (evidenceConfig_outputPath name)
  · unfold HasNull
    cbv
    exact Bool.false_ne_true
  · unfold HasNull
    cbv
    exact Bool.false_ne_true

theorem cleanUp_nestedConfig (start : World) :
    ∃ finish, cleanUp nestedConfig start = .ok () finish := by
  apply cleanUp_of_valid nestedConfig_modelPath nestedConfig_outputPath
  · unfold HasNull
    cbv
    exact Bool.false_ne_true
  · unfold HasNull
    cbv
    exact Bool.false_ne_true

/-- The solver is asked for the mode of the model file as it is written. -/
theorem infer_modeReader {found : FileSystem} (executable : Bool)
    (ensured : found.ensureDirectories ⟨"", []⟩ = (found, none))
    (opening : found.write ⟨"", ["model.uai"]⟩ ByteArray.empty =
      .ok (bare.store ["model.uai"] (.file ByteArray.empty executable))) :
    ∃ finish, infer (evidenceConfig "no.evid") modeReader { model := twoPairs, files := found } =
      .error (.solver {
        summary := "solver failed"
        status := some (if executable then 3 else 1) }) finish := by
  have located : (evidenceConfig "no.evid").workPath = .ok ⟨"", []⟩ := rfl
  have commanded : (evidenceConfig "no.evid").command =
    .ok ["solver", "model.uai", "no.evid", "0", "MPE"] := rfl
  have evidenceNamed : (evidenceConfig "no.evid").evidencePath = .ok ⟨"", ["no.evid"]⟩ := rfl
  have storing : (bare.store ["model.uai"] (.file ByteArray.empty executable)).write
      ⟨"", ["model.uai"]⟩ twoPairsText.toUTF8 =
        .ok (bare.store ["model.uai"] (.file twoPairsText.toUTF8 executable)) := by cbv
  have removal : (bare.store ["model.uai"]
      (.file twoPairsText.toUTF8 executable)).removeIfPresent ⟨"", ["model.uai.MPE"]⟩ =
        .ok (bare.store ["model.uai"] (.file twoPairsText.toUTF8 executable)) := by cbv
  have supply : (bare.store ["model.uai"] (.file twoPairsText.toUTF8 executable)).write
      ⟨"", ["no.evid"]⟩ noEvidence.toUTF8 =
        .ok ((bare.store ["model.uai"] (.file twoPairsText.toUTF8 executable)).store
          ["no.evid"] (.file noEvidence.toUTF8 false)) := by cbv
  have prepared := prepare_of_supply (evidenceConfig_modelPath "no.evid") evidenceNamed
    (evidenceConfig_outputPath "no.evid") opening writing_twoPairs storing removal supply
  have failing : ∃ called, runCommand (evidenceConfig "no.evid") modeReader
      { model := twoPairs
        files := (bare.store ["model.uai"] (.file twoPairsText.toUTF8 executable)).store
          ["no.evid"] (.file noEvidence.toUTF8 false) } =
        .error (.solver {
          summary := "solver failed"
          status := some (if executable then 3 else 1) }) called := by
    apply runCommand_of_status commanded located
    · rfl
    · cases executable with
      | false => decide
      | true => decide
  obtain ⟨called, failed⟩ := failing
  have valid : ¬HasNull ⟨"", ["no.evid"]⟩ := by
    unfold HasNull
    cbv
    exact Bool.false_ne_true
  exact infer_of_failed_exchange located ensured (exchange_of_failed_command prepared valid failed)
    (cleanUp_evidenceConfig "no.evid")

/-- A leftover of the model that can be run gives the new one its mode, which the solver sees. -/
theorem mode_tells_runs_apart :
    TellsApart (evidenceConfig "no.evid") modeReader ⟨"", ["model.uai"]⟩ ⟨"", ["model.uai.MPE"]⟩
      bare (bare.store ["model.uai"] (.file ByteArray.empty true)) := by
  have located : bare.locate ⟨"", ["model.uai"]⟩ = .ok ["model.uai"] := by cbv
  have missing : IsPlain (bare.entryAt ["model.uai"]) := trivial
  have ensured : bare.ensureDirectories ⟨"", []⟩ = (bare, none) := by cbv
  have otherEnsured : (bare.store ["model.uai"] (.file ByteArray.empty true)).ensureDirectories
      ⟨"", []⟩ = (bare.store ["model.uai"] (.file ByteArray.empty true), none) := by cbv
  obtain ⟨finish, ended⟩ := infer_modeReader false ensured (by cbv)
  obtain ⟨otherFinish, otherEnded⟩ := infer_modeReader true otherEnsured (by cbv)
  exact ⟨seesFiles_modeReader, evidenceConfig_modelPath _, evidenceConfig_outputPath _,
    isTree_bare, isTree_bare.store missing rfl _,
    (AlikeBut.refl bare).storeFile ⟨_, List.mem_cons_self, located⟩ missing true,
    _, _, finish, otherFinish, ended, otherEnded, by simp⟩

/-- Through a link at its path the model is refused in another way once results are left over. -/
theorem link_tells_runs_apart :
    TellsApart (evidenceConfig "no.evid") modeReader ⟨"", ["model.uai"]⟩ ⟨"", ["model.uai.MPE"]⟩
      linkedModel (linkedModel.store ["model.uai.MPE"] (.file ByteArray.empty false)) := by
  have located : linkedModel.locate ⟨"", ["model.uai.MPE"]⟩ = .ok ["model.uai.MPE"] := by cbv
  have missing : IsPlain (linkedModel.entryAt ["model.uai.MPE"]) := trivial
  have modelMissing : IsPlain (bare.entryAt ["model.uai"]) := trivial
  have tree : linkedModel.IsTree := isTree_bare.store modelMissing rfl _
  have ensured : linkedModel.ensureDirectories ⟨"", []⟩ = (linkedModel, none) := by cbv
  have refused : linkedModel.write ⟨"", ["model.uai"]⟩ ByteArray.empty = .error .notFound := by
    cbv
  have otherEnsured : (linkedModel.store ["model.uai.MPE"]
      (.file ByteArray.empty false)).ensureDirectories ⟨"", []⟩ =
        (linkedModel.store ["model.uai.MPE"] (.file ByteArray.empty false), none) := by cbv
  have otherRefused : (linkedModel.store ["model.uai.MPE"]
      (.file ByteArray.empty false)).write ⟨"", ["model.uai"]⟩ ByteArray.empty =
        .error .notDirectory := by cbv
  have modelNamed := evidenceConfig_modelPath "no.evid"
  have workNamed : (evidenceConfig "no.evid").workPath = .ok ⟨"", []⟩ := rfl
  obtain ⟨finish, ended⟩ := infer_of_refused_write workNamed modelNamed
    (cleanUp_evidenceConfig "no.evid") ensured refused
  obtain ⟨otherFinish, otherEnded⟩ := infer_of_refused_write workNamed modelNamed
    (cleanUp_evidenceConfig "no.evid") otherEnsured otherRefused
  exact ⟨seesFiles_modeReader, modelNamed, evidenceConfig_outputPath _, tree,
    tree.store missing rfl _,
    (AlikeBut.refl linkedModel).storeFile ⟨_, List.mem_cons_of_mem _ List.mem_cons_self, located⟩
      missing false,
    _, _, finish, otherFinish, ended, otherEnded, by simp⟩

/-- A leftover of the model that has the name of the directory keeps it from being made. -/
theorem directory_tells_runs_apart :
    TellsApart nestedConfig modeReader ⟨"/", ["w"]⟩ ⟨"/", ["w.MPE"]⟩ bare
      (bare.store ["w"] (.file ByteArray.empty false)) := by
  have located : bare.locate ⟨"/", ["w"]⟩ = .ok ["w"] := by cbv
  have missing : IsPlain (bare.entryAt ["w"]) := trivial
  have workNamed : nestedConfig.workPath = .ok ⟨"", ["w"]⟩ := by cbv
  have ensured : bare.ensureDirectories ⟨"", ["w"]⟩ = (bare.store ["w"] .directory, none) := by
    cbv
  have refused : (bare.store ["w"] .directory).write ⟨"/", ["w"]⟩ ByteArray.empty =
      .error .isDirectory := by cbv
  have otherEnsured : (bare.store ["w"] (.file ByteArray.empty false)).ensureDirectories
      ⟨"", ["w"]⟩ = (bare.store ["w"] (.file ByteArray.empty false), some .alreadyExists) := by
    cbv
  obtain ⟨finish, ended⟩ := infer_of_refused_write workNamed nestedConfig_modelPath
    cleanUp_nestedConfig ensured refused
  have stopped : ∃ finish, infer nestedConfig modeReader
      { model := twoPairs, files := bare.store ["w"] (.file ByteArray.empty false) } =
        .error (.file .alreadyExists) finish := infer_of_refused workNamed otherEnsured
  obtain ⟨otherFinish, otherEnded⟩ := stopped
  exact ⟨seesFiles_modeReader, nestedConfig_modelPath, nestedConfig_outputPath, isTree_bare,
    isTree_bare.store missing rfl _,
    (AlikeBut.refl bare).storeFile ⟨_, List.mem_cons_self, located⟩ missing false,
    _, _, finish, otherFinish, ended, otherEnded, by simp⟩

end Traces

end HingeField.Solver
