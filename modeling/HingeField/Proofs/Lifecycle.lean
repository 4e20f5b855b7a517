import HingeField.Proofs.Footprint
import HingeField.Proofs.Stages

/-!
The files of a solver run, from the making of the directory to every end that
a run can come to. Main statement: if the paths of the model, the evidence and
the results lead to different places, and to no link, then the solver finds the
rendered model, no evidence and no results; the evidence is gone after the
call, and with cleanup so are the other two; and nothing but the places of the
three paths is changed. Paths that differ as texts only are not enough.
-/

namespace HingeField.Solver

open FileSystem

variable {model : Model Float} {config : Config} {runner : Runner} {files : FileSystem}
  {modelPath evidencePath outputPath path : Path} {paths : List Path}

/-- The files as a call meets them: the network text and no evidence are laid out, and no results
are there. -/
structure Supplied (model : Model Float) (modelPath evidencePath outputPath : Path)
    (files : FileSystem) : Prop where
  text : ∃ text, Network.render model = .ok text model ∧
    files.content? modelPath = some text.toUTF8
  evidence : files.content? evidencePath = some noEvidence.toUTF8
  output : files.Absent outputPath

section Course

/-- Before the call the files differ from the first ones at most at the places of the paths. -/
def Uncalled (files : FileSystem) (paths : List Path) (calls : List Call)
    (found : FileSystem) : Prop :=
  calls = [] ∧ AlikeBut (files.Led paths) files found

/-- What the calls and the files of a run are at any end of it. -/
inductive Course (runner : Runner) (made : Call → Prop) (evidence : Path) (paths : List Path)
    (files : FileSystem) : List Call → FileSystem → Prop where
  | uncalled {found : FileSystem} (alike : AlikeBut (files.Led paths) files found) :
      Course runner made evidence paths files [] found
  | called {call : Call} {found : FileSystem} (supplied : made call)
      (pruned : Pruned paths (runner call).2 found)
      (removed : (∃ after, (runner call).2.removeIfPresent evidence = .ok after) →
        found.Absent evidence) :
      Course runner made evidence paths files [call] found

theorem Uncalled.course {made : Call → Prop} {evidence : Path} {calls : List Call}
    {found : FileSystem} (uncalled : Uncalled files paths calls found) :
    Course runner made evidence paths files calls found := by
  obtain ⟨rfl, alike⟩ := uncalled
  exact .uncalled alike

theorem Course.length_calls_le {made : Call → Prop} {evidence : Path} {calls : List Call}
    {found : FileSystem} (course : Course runner made evidence paths files calls found) :
    calls.length ≤ 1 := by
  cases course with
  | uncalled => exact Nat.zero_le 1
  | called => exact Nat.le_refl 1

theorem Course.untouched {made : Call → Prop} {evidence : Path} {found : FileSystem}
    (course : Course runner made evidence paths files [] found) :
    Untouched (files.Led paths) files found := by
  cases course with
  | uncalled alike => exact alike.untouched

theorem Course.of_call {made : Call → Prop} {evidence : Path} {calls : List Call} {call : Call}
    {found : FileSystem} (course : Course runner made evidence paths files calls found)
    (member : call ∈ calls) :
    made call ∧ Untouched ((runner call).2.Led paths) (runner call).2 found ∧
      ((∃ after, (runner call).2.removeIfPresent evidence = .ok after) →
        found.Absent evidence) := by
  cases course with
  | uncalled => cases member
  | called supplied pruned removed =>
      cases List.mem_singleton.mp member
      exact ⟨supplied, pruned.untouched, removed⟩

theorem Course.remove {made : Call → Prop} {evidence : Path} {calls : List Call}
    {before after : FileSystem} (course : Course runner made evidence paths files calls before)
    (apart : files.Apart paths) (member : path ∈ paths)
    (success : before.removeIfPresent path = .ok after) :
    Course runner made evidence paths files calls after := by
  cases course with
  | uncalled alike => exact .uncalled (apart.remove alike member success).1
  | called supplied pruned removed =>
      exact .called supplied (pruned.remove member success) fun removal =>
        (removed removal).remove success

/-- After a call the evidence is removed if it can be. -/
theorem course_of_call {made : Call → Prop} {evidence : Path} {call : Call}
    (supplied : made call) (member : evidence ∈ paths) :
    Course runner made evidence paths files [call]
      ((runner call).2.settle ((runner call).2.removeIfPresent evidence)).1 := by
  have left := Pruned.refl paths (runner call).2
  cases removal : (runner call).2.removeIfPresent evidence with
  | ok changed =>
      exact .called supplied (left.remove member removal) fun _ =>
        (removeIfPresent_eq_ok removal).1
  | error fault =>
      refine .called supplied left ?_
      rintro ⟨after, impossible⟩
      rw [removal] at impossible
      cases impossible

theorem course_callWith {made : Call → Prop} {evidence : Path} {ready : World}
    (supplied : ∀ call, call.files = ready.files →
      (Effect.final (runCommand config runner ready)).calls = [call] → made call)
    (uncalled : Uncalled files paths ready.calls ready.files) (apart : files.Apart paths)
    (member : evidence ∈ paths) :
    Shows (Course runner made evidence paths files)
      (Effect.final (callWith config runner evidence ready)) := by
  obtain ⟨fresh, alike⟩ := uncalled
  unfold Shows
  rcases runCommand_cases config runner ready with same | ⟨call, met, ran⟩
  · rw [trace_callWith evidence same, fresh]
    refine kept_settle (.uncalled alike) fun changed success => ?_
    exact .uncalled (apart.remove alike member success).1
  · have once : (Effect.final (runCommand config runner ready)).calls = [call] := by
      rw [ran, fresh]
      rfl
    rw [trace_callWith evidence ran, fresh]
    exact course_of_call (supplied call met once) member

end Course

section Exchanging

/-- The configuration names these paths, which lead to places apart from each other. -/
structure Exchanges (config : Config) (files : FileSystem)
    (modelPath evidencePath outputPath : Path) : Prop where
  model : config.modelPath = .ok modelPath
  evidence : config.evidencePath = .ok evidencePath
  output : config.outputPath = .ok outputPath
  apart : files.Apart [modelPath, evidencePath, outputPath]

variable (exchanges : Exchanges config files modelPath evidencePath outputPath)
include exchanges

theorem keeps_prepare :
    Effect.Keeps (Shows (Uncalled files [modelPath, evidencePath, outputPath]))
      (prepare config) := by
  have writes : ∀ path ∈ [modelPath, evidencePath, outputPath], ∀ content calls before after,
      Uncalled files [modelPath, evidencePath, outputPath] calls before →
      before.write path content = .ok after →
      Uncalled files [modelPath, evidencePath, outputPath] calls after := by
    rintro path member content calls before after ⟨uncalled, alike⟩ success
    exact ⟨uncalled, (exchanges.apart.write alike member success).1⟩
  unfold prepare
  simp only [exchanges.model, exchanges.evidence, exchanges.output, Effect.ofExcept, pure_bind]
  refine Effect.keeps_bind (keeps_writeModel (writes modelPath (by simp))) fun _ => ?_
  refine Effect.keeps_bind (keeps_operation ?_) fun _ => ?_
  · rintro calls before after ⟨uncalled, alike⟩ success
    exact ⟨uncalled, (exchanges.apart.remove alike (by simp) success).1⟩
  refine Effect.keeps_bind (keeps_operation (writes evidencePath (by simp) _)) fun _ => ?_
  exact Effect.keeps_pure _

theorem prepare_eq_ok {evidence : Path} {ready : World} (laidOut : model.LaidOut)
    (success : prepare config { model, files } = .ok evidence ready) :
    evidence = evidencePath ∧ ready.model = model ∧ ready.calls = [] ∧
      AlikeBut (files.Led [modelPath, evidencePath, outputPath]) files ready.files ∧
      Supplied model modelPath evidencePath outputPath ready.files := by
  unfold prepare at success
  rw [exchanges.model, exchanges.evidence, exchanges.output] at success
  have pairs := exchanges.apart.distinct
  simp only [List.pairwise_cons, List.mem_cons, List.not_mem_nil, or_false, forall_eq_or_imp,
    forall_eq] at pairs
  obtain ⟨⟨modelEvidence, modelOutput⟩, evidenceOutput, _⟩ := pairs
  obtain ⟨_, _, named, success⟩ := Effect.bind_eq_ok_iff.mp success
  cases named
  obtain ⟨_, _, writing, success⟩ := Effect.bind_eq_ok_iff.mp success
  obtain ⟨text, opened, written, rendered, opening, storing, rfl⟩ :=
    writeModelFile_eq_ok laidOut writing
  obtain ⟨_, _, named, success⟩ := Effect.bind_eq_ok_iff.mp success
  cases named
  obtain ⟨_, _, removing, success⟩ := Effect.bind_eq_ok_iff.mp success
  obtain ⟨removed, removal, rfl⟩ := onFiles_eq_ok_iff.mp removing
  obtain ⟨_, _, named, success⟩ := Effect.bind_eq_ok_iff.mp success
  cases named
  obtain ⟨_, _, supplying, success⟩ := Effect.bind_eq_ok_iff.mp success
  obtain ⟨supplied, supply, rfl⟩ := onFiles_eq_ok_iff.mp supplying
  cases success
  -- the places of the three files, and what stands there after each step
  obtain ⟨alikeOpened, _⟩ := exchanges.apart.write (AlikeBut.refl files) (by simp) opening
  obtain ⟨alikeWritten, modelPlace, modelMode, modelLocated, modelBelow, rfl⟩ :=
    exchanges.apart.write alikeOpened (by simp) storing
  obtain ⟨alikeRemoved, absent, others⟩ :=
    exchanges.apart.remove alikeWritten (by simp) removal
  obtain ⟨alike, evidencePlace, evidenceMode, evidenceLocated, evidenceBelow, rfl⟩ :=
    exchanges.apart.write alikeRemoved (by simp) supply
  refine ⟨rfl, rfl, rfl, alike, ⟨text, rendered, ?_⟩, ?_, ?_⟩
  · have different : modelPlace ≠ evidencePlace := by
      rintro rfl
      exact modelEvidence modelPlace modelLocated evidenceLocated
    have standing : (removed.store evidencePlace (.file noEvidence.toUTF8 evidenceMode)).entryAt
        modelPlace = some (.file text.toUTF8 modelMode) := by
      rw [entryAt_store_of_ne removed different,
        others modelPlace (modelOutput modelPlace modelLocated)]
      exact entryAt_store_self opened modelBelow _
    exact content?_of_file (alike.locate_iff.mpr modelLocated) standing
  · exact content?_of_file (alike.locate_iff.mpr evidenceLocated)
      (entryAt_store_self removed evidenceBelow _)
  · intro location located
    have led := alike.locate_iff.mp located
    have different : location ≠ evidencePlace := by
      rintro rfl
      exact evidenceOutput location evidenceLocated led
    rw [entryAt_store_of_ne removed different]
    exact absent location (alikeRemoved.locate_iff.mpr led)

/-- How a call comes about: all files are supplied, nothing else has been touched, and the model is
still the one that is written. -/
structure Prepared (config : Config) (runner : Runner) (model : Model Float) (files : FileSystem)
    (modelPath evidencePath outputPath : Path) (call : Call) : Prop where
  supplied : Supplied model modelPath evidencePath outputPath call.files
  untouched : Untouched (files.Led [modelPath, evidencePath, outputPath]) files call.files
  ready : ∃ ready, prepare config { model, files } = .ok evidencePath ready ∧
    ready.model = model ∧ ready.files = call.files ∧
    (Effect.final (runCommand config runner ready)).calls = [call]

theorem course_exchange (laidOut : model.LaidOut) :
    Shows (Course runner
        (Prepared config runner model files modelPath evidencePath outputPath) evidencePath
        [modelPath, evidencePath, outputPath] files)
      (Effect.final (exchange config runner { model, files })) := by
  have start : Shows (Uncalled files [modelPath, evidencePath, outputPath]) { model, files } :=
    ⟨rfl, AlikeBut.refl files⟩
  cases prepared : prepare config { model, files } with
  | error fault refused =>
      rw [exchange_eq, Effect.run_bind, prepared]
      exact ((keeps_prepare exchanges).of_error start prepared).course
  | ok evidence ready =>
      obtain ⟨rfl, sameModel, fresh, alike, supplied⟩ :=
        prepare_eq_ok exchanges laidOut prepared
      have met : ∀ call, call.files = ready.files →
          (Effect.final (runCommand config runner ready)).calls = [call] →
          Prepared config runner model files modelPath evidence outputPath call :=
        fun call same once => ⟨same ▸ supplied, same ▸ alike.untouched, ready, prepared,
          sameModel, same.symm, once⟩
      have member : evidence ∈ [modelPath, evidence, outputPath] := by simp
      unfold Shows
      rw [trace_exchange prepared]
      exact course_callWith met ⟨fresh, alike⟩ exchanges.apart member

/-- The calls and the files at any end of a run. -/
theorem course_infer {work : Path} {initial : FileSystem} (laidOut : model.LaidOut)
    (located : config.workPath = .ok work)
    (first : files = (initial.ensureDirectories work).1) :
    Shows (Course runner
        (Prepared config runner model files modelPath evidencePath outputPath) evidencePath
        [modelPath, evidencePath, outputPath] files)
      (Effect.final (infer config runner { model, files := initial })) := by
  subst first
  cases making : (initial.ensureDirectories work).2 with
  | some fault =>
      rw [final_infer_of_refused located making]
      exact .uncalled (AlikeBut.refl _)
  | none =>
      rw [final_infer_of_made located making]
      have course : Shows _ (exchanged config runner work { model, files := initial }) :=
        course_exchange exchanges laidOut
      cases config.cleanup with
      | false => exact course
      | true =>
          refine keeps_cleaning ?_ _ course
          intro path named calls before after holds success
          refine holds.remove exchanges.apart ?_ success
          rw [exchanges.model, exchanges.output] at named
          rcases named with same | same
          · cases same
            simp
          · cases same
            simp

end Exchanging

section Folders

/-- A directory with another one in it. -/
def folder : FileSystem :=
  { entries := [(["sub"], .directory)], here := [] }

/-- A directory with a file and with a link to it, which has the name of a model file. -/
def linkedFolder : FileSystem :=
  { entries := [(["notes"], .file "kept".toUTF8 false), (["model.uai"], .link ⟨"", ["notes"]⟩)]
    here := [] }

/-- Defaults, but for the name of the evidence file. -/
def evidenceConfig (name : String) : Config :=
  { executable := .text "solver", task := .mpe, seed := 0, workDirectory := .text "."
    modelFile := .text "model.uai", evidenceFile := .text name, cleanup := true }

/-- A solver that is interrupted once it has begun to write results. -/
def interrupted : Runner := fun call =>
  (.failed (.raised "KeyboardInterrupt" ""),
    call.files.store ["model.uai.MPE"] (.file "MPE".toUTF8 false))

/-- The network text of two pairs. -/
def twoPairsText : String := "MARKOV\n2\n2 2\n0\n"

theorem writing_twoPairs : Network.writing twoPairs = .ok (twoPairsText, none) twoPairs := by
  have headed : Network.header twoPairs = twoPairsText := by decide
  rw [← headed]
  rfl

theorem render_twoPairs : Network.render twoPairs = .ok twoPairsText twoPairs := by
  unfold Network.render
  rw [Effect.run_bind, writing_twoPairs]
  rfl

theorem evidenceConfig_modelPath (name : String) :
    (evidenceConfig name).modelPath = .ok ⟨"", ["model.uai"]⟩ :=
  rfl

theorem evidenceConfig_outputPath (name : String) :
    (evidenceConfig name).outputPath = .ok ⟨"", ["model.uai.MPE"]⟩ := by
  cbv

/-- The folder with files by their names. -/
def folderWith (files : List (String × ByteArray)) : FileSystem :=
  { entries := (["sub"], .directory) :: files.map fun file => ([file.1], .file file.2 false)
    here := [] }

theorem prepare_folder {name : String} {evidencePath : Path} {supplied : FileSystem}
    (named : (evidenceConfig name).evidencePath = .ok evidencePath)
    (supply : (folderWith [("model.uai", twoPairsText.toUTF8)]).write evidencePath
      noEvidence.toUTF8 = .ok supplied) :
    prepare (evidenceConfig name) { model := twoPairs, files := folder } =
      .ok evidencePath { model := twoPairs, files := supplied } := by
  have opening : folder.write ⟨"", ["model.uai"]⟩ ByteArray.empty =
      .ok (folderWith [("model.uai", ByteArray.empty)]) := by cbv
  have storing : ∀ content, (folderWith [("model.uai", ByteArray.empty)]).write
      ⟨"", ["model.uai"]⟩ content = .ok (folderWith [("model.uai", content)]) := by
    intro content
    cbv
  have removal : (folderWith [("model.uai", twoPairsText.toUTF8)]).removeIfPresent
      ⟨"", ["model.uai.MPE"]⟩ = .ok (folderWith [("model.uai", twoPairsText.toUTF8)]) := by cbv
  exact prepare_of_supply (evidenceConfig_modelPath name) named (evidenceConfig_outputPath name)
    opening writing_twoPairs (storing _) removal supply

/-- The folder with the link, with a content of the file it leads to, and with other files. -/
def linkedFolderWith (notes : ByteArray) (files : List (String × ByteArray)) : FileSystem :=
  { entries := (["notes"], .file notes false) :: (["model.uai"], .link ⟨"", ["notes"]⟩) ::
      files.map fun file => ([file.1], .file file.2 false)
    here := [] }

theorem prepare_linkedFolder :
    prepare (evidenceConfig "no.evid") { model := twoPairs, files := linkedFolder } =
      .ok ⟨"", ["no.evid"]⟩
        { model := twoPairs
          files := linkedFolderWith twoPairsText.toUTF8 [("no.evid", noEvidence.toUTF8)] } := by
  have opening : linkedFolder.write ⟨"", ["model.uai"]⟩ ByteArray.empty =
      .ok (linkedFolderWith ByteArray.empty []) := by cbv
  have storing : ∀ content, (linkedFolderWith ByteArray.empty []).write ⟨"", ["model.uai"]⟩
      content = .ok (linkedFolderWith content []) := by
    intro content
    cbv
  have removal : (linkedFolderWith twoPairsText.toUTF8 []).removeIfPresent
      ⟨"", ["model.uai.MPE"]⟩ = .ok (linkedFolderWith twoPairsText.toUTF8 []) := by cbv
  have supply : (linkedFolderWith twoPairsText.toUTF8 []).write ⟨"", ["no.evid"]⟩
      noEvidence.toUTF8 =
        .ok (linkedFolderWith twoPairsText.toUTF8 [("no.evid", noEvidence.toUTF8)]) := by cbv
  exact prepare_of_supply (evidenceConfig_modelPath "no.evid") rfl
    (evidenceConfig_outputPath "no.evid") opening writing_twoPairs (storing _) removal supply

section Calling

variable {name : String} {evidence : Path} {found ready : FileSystem} (runner : Runner)
  (ensured : found.ensureDirectories ⟨"", []⟩ = (found, none))
  (prepared : prepare (evidenceConfig name) { model := twoPairs, files := found } =
    .ok evidence { model := twoPairs, files := ready })
include ensured prepared

/-- A configuration for a prepared directory calls the solver there, and removes the evidence. -/
theorem run_evidenceConfig :
    let call : Call := { command := ["solver", "model.uai", name, "0", "MPE"],
                         directory := ⟨"", []⟩, files := ready }
    let start : World := { model := twoPairs, files := found }
    (Effect.final (infer (evidenceConfig name) runner start)).calls = [call] ∧
      (exchanged (evidenceConfig name) runner ⟨"", []⟩ start).files =
        ((runner call).2.settle ((runner call).2.removeIfPresent evidence)).1 := by
  intro call start
  have located : (evidenceConfig name).workPath = .ok ⟨"", []⟩ := rfl
  have commanded : (evidenceConfig name).command =
    .ok ["solver", "model.uai", name, "0", "MPE"] := rfl
  have preparedHere : prepare (evidenceConfig name)
      { start with files := (start.files.ensureDirectories ⟨"", []⟩).1 } =
        .ok evidence { model := twoPairs, files := ready } := by
    rw [ensured]
    exact prepared
  have made : (start.files.ensureDirectories ⟨"", []⟩).2 = none := congrArg Prod.snd ensured
  exact ⟨calls_infer commanded located preparedHere runner made,
    congrArg Prod.snd (trace_exchanged commanded located preparedHere runner)⟩

end Calling

theorem ensured_folder : folder.ensureDirectories ⟨"", []⟩ = (folder, none) := by
  cbv

/-- Removes what is at each of the paths, one after the other. -/
def removeAll (files : FileSystem) (paths : List Path) : Except FileFault FileSystem :=
  paths.foldlM removeIfPresent files

theorem exchanges_folder :
    Exchanges (evidenceConfig "no.evid") folder ⟨"", ["model.uai"]⟩ ⟨"", ["no.evid"]⟩
      ⟨"", ["model.uai.MPE"]⟩ := by
  have modelLocated : folder.locate ⟨"", ["model.uai"]⟩ = .ok ["model.uai"] := by cbv
  have evidenceLocated : folder.locate ⟨"", ["no.evid"]⟩ = .ok ["no.evid"] := by cbv
  have outputLocated : folder.locate ⟨"", ["model.uai.MPE"]⟩ = .ok ["model.uai.MPE"] := by cbv
  refine ⟨rfl, rfl, evidenceConfig_outputPath "no.evid", ?_, ?_⟩
  · simp [modelLocated, evidenceLocated, outputLocated]
  · intro location _ goal linked
    unfold entryAt at linked
    split at linked
    · cases linked
    · by_cases sub : location = ["sub"]
      · subst sub
        cases linked
      · simp [folder, List.lookup_cons, beq_false_of_ne sub] at linked

end Folders

end HingeField.Solver
