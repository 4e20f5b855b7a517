import HingeField.Proofs.Decoding
import HingeField.Proofs.Removal
import HingeField.Proofs.Transcript
import HingeField.Solver.Run

/-!
What a rejected solution leaves behind. Codes are put into their blocks as they
are checked, so that a code out of range comes too late for the blocks before
it. Main statements: after any rejection the blocks of the accepted codes are
settled and everything else is as it was; the arena is unchanged exactly if
these blocks were in the states of their codes already. Nothing else that can
fail in a solver run touches the model.
-/

namespace HingeField

namespace Solution

open Model

/-- The model after the rejection of a list of codes. -/
def rejected (model : Model Float) (codes : List Int) : Model Float :=
  if model.blocks.length < codes.length then model
  else model.settle (Choice.ofCodes (accepted model.blocks codes))

/-- The model after the rejection of a text, from which codes could be read or not. -/
def rejectedText (model : Model Float) : Except Fault (List Int) → Model Float
  | .ok codes => rejected model codes
  | .error _ => model

/-- The codes that the bytes of a results file hold. -/
def codesOfBytes (bytes : List UInt8) (task : String) : Except Fault (List Int) := do
  let text ← asciiText bytes
  Results.parse ((Text.terminatedLines (Text.unifyLineEnds text)).map String.ofList) task

variable {model finish : Model Float} {fault : Fault}

theorem apply_error (laidOut : model.LaidOut) {codes : List Int}
    (failure : apply codes model = .error fault finish) : finish = rejected model codes := by
  unfold rejected
  by_cases many : model.blocks.length < codes.length
  · obtain ⟨defect, refused⟩ := apply_of_many many
    rw [refused] at failure
    cases failure
    rw [if_pos many]
  · obtain ⟨ending, applied, _⟩ := apply_eq laidOut (Nat.le_of_not_lt many)
    rw [applied] at failure
    rw [if_neg many]
    cases ending with
    | ok value => cases failure
    | error early =>
        cases failure
        rfl

/-- Codes that were read from some text are applied and returned. -/
theorem error_of_codes (laidOut : model.LaidOut) {parsed : Except Fault (List Int)}
    (failure : (Effect.ofExcept parsed >>= fun codes => apply codes >>= fun _ => pure codes) model =
      (EStateM.Result.error fault finish : EStateM.Result Fault (Model Float) (List Int))) :
    finish = rejectedText model parsed := by
  cases parsed with
  | error early =>
      cases failure
      rfl
  | ok codes =>
      rcases Effect.bind_eq_error_iff.mp failure with impossible | ⟨_, _, same, later⟩
      · cases impossible
      · cases same
        rcases Effect.bind_eq_error_iff.mp later with refused | ⟨_, _, _, impossible⟩
        · exact apply_error laidOut refused
        · cases impossible

theorem read_error (laidOut : model.LaidOut) {lines : List String} {task : String}
    (failure : read lines task model = .error fault finish) :
    finish = rejectedText model (Results.parse lines task) :=
  error_of_codes laidOut failure

theorem readBytes_error (laidOut : model.LaidOut) {bytes : List UInt8} {task : String}
    (failure : readBytes bytes task model = .error fault finish) :
    finish = rejectedText model (codesOfBytes bytes task) := by
  unfold codesOfBytes
  unfold readBytes at failure
  cases ascii : asciiText bytes with
  | error early =>
      rw [ascii] at failure
      cases failure
      rfl
  | ok text =>
      rw [ascii] at failure
      exact read_error laidOut failure

/-- The members of a block are in the state that a code names. -/
def IsInState (model : Model Float) (position : Nat) (code : Int) : Prop :=
  ∀ block, model.blocks[position]? = some block →
    ∀ offset : Nat, block.start ≤ offset → offset < block.stop →
      model.values[offset]? = some (block.indicator code offset)

/-- Settling blocks that are in the states of their codes already changes nothing, and settling any
others changes the arena. -/
theorem settled_eq_values_iff (laidOut : model.LaidOut) (choice : Choice) :
    model.settled choice = model.values ↔
      ∀ position code, choice position = some code → IsInState model position code := by
  constructor
  · intro same position code chosen block found offset lower upper
    have bounds := laidOut.bounds found
    have small : offset < model.values.length := by omega
    rw [← same, getElem?_settled, laidOut.chosenAt_inside found ⟨lower, upper⟩, chosen,
      List.getElem?_eq_getElem small]
    rfl
  · intro inState
    apply List.ext_getElem?
    intro offset
    rw [getElem?_settled]
    cases owner : (model.owners[offset]?).join with
    | none =>
        rw [chosenAt_eq_none_of_free owner]
        exact Option.map_id'
    | some position =>
        obtain ⟨block, found, within⟩ := laidOut.block_of_owner owner
        rw [chosenAt_of_owner owner found]
        cases chosen : choice position with
        | none => exact Option.map_id'
        | some code =>
            rw [inState position code chosen block found offset within.1 within.2]
            rfl

theorem rejected_values_eq_iff (laidOut : model.LaidOut) (codes : List Int) :
    (rejected model codes).values = model.values ↔
      (codes.length ≤ model.blocks.length → ∀ position code,
        (accepted model.blocks codes)[position]? = some code → IsInState model position code) := by
  unfold rejected
  by_cases many : model.blocks.length < codes.length
  · rw [if_pos many]
    exact iff_of_true rfl fun few => absurd few (by omega)
  · rw [if_neg many]
    refine (settled_eq_values_iff laidOut _).trans ?_
    exact ⟨fun inState _ => inState, fun inState => inState (by omega)⟩

end Solution

namespace Solver

variable {model : Model Float} {config : Config} {runner : Runner}

def Holds (model : Model Float) (world : World) : Prop :=
  world.model = model

section Steps

section FilesOnly

variable {kept : World → Prop} (blind : ∀ world files, kept world → kept { world with files })
include blind

/-- A property for which the files do not matter is kept by every operation on them. -/
theorem keeps_onFiles_of_blind (operation : FileSystem → Except FileFault FileSystem) :
    Effect.Keeps kept (Step.onFiles operation) := by
  refine Effect.keeps_bind Effect.keeps_get fun world => ?_
  split
  · exact Effect.keeps_modify fun world holds => blind world _ holds
  · exact Effect.keeps_throw _

theorem keeps_ensureDirectories_of_blind (path : Path) :
    Effect.Keeps kept (Step.ensureDirectories path) := by
  refine Effect.keeps_bind Effect.keeps_get fun world => ?_
  refine Effect.keeps_bind (Effect.keeps_modify fun world holds => blind world _ holds) fun _ => ?_
  split
  · exact Effect.keeps_throw _
  · exact Effect.keeps_pure _

end FilesOnly

theorem keeps_onFiles (operation : FileSystem → Except FileFault FileSystem) :
    Effect.Keeps (Holds model) (Step.onFiles operation) :=
  keeps_onFiles_of_blind (fun _ _ holds => holds) operation

theorem keeps_ensureDirectories (path : Path) :
    Effect.Keeps (Holds model) (Step.ensureDirectories path) :=
  keeps_ensureDirectories_of_blind (fun _ _ holds => holds) path

theorem keeps_removeQuietly (path : Path) :
    Effect.Keeps (Holds model) (Step.removeQuietly path) := by
  refine Effect.keeps_bind Effect.keeps_get fun world => ?_
  split
  · exact Effect.keeps_modify fun _ holds => holds
  · exact Effect.keeps_throw _
  · exact Effect.keeps_modify fun _ holds => holds

theorem keeps_writeModelFile (laidOut : model.LaidOut) (path : Path) :
    Effect.Keeps (Holds model) (writeModelFile path) := by
  refine Effect.keeps_bind (keeps_onFiles _) fun _ => ?_
  refine Effect.keeps_bind (Effect.keeps_onPart (Network.keeps_writing laidOut)
    (fun _ holds => holds) fun _ _ _ same => same) fun written => ?_
  refine Effect.keeps_bind (keeps_onFiles _) fun _ => ?_
  split
  · exact Effect.keeps_throw _
  · exact Effect.keeps_pure _

theorem keeps_runCommand : Effect.Keeps (Holds model) (runCommand config runner) := by
  refine Effect.keeps_bind (Effect.keeps_ofExcept _) fun command => ?_
  refine Effect.keeps_bind (Effect.keeps_ofExcept _) fun directory => ?_
  refine Effect.keeps_bind Effect.keeps_get fun world => ?_
  refine Effect.keeps_bind (Effect.keeps_modify fun _ holds => holds) fun _ => ?_
  split
  · exact Effect.keeps_throw _
  · split
    · exact Effect.keeps_pure _
    · exact Effect.keeps_throw _

theorem keeps_callSolver : Effect.Keeps (Holds model) (callSolver config runner) := by
  refine Effect.keeps_bind (Effect.keeps_ofExcept _) fun evidence => ?_
  refine Effect.keeps_bind (keeps_onFiles _) fun _ => ?_
  refine Effect.keeps_bind (Effect.keeps_outcome keeps_runCommand) fun ending => ?_
  split
  · exact Effect.keeps_bind (keeps_removeQuietly evidence) fun _ => Effect.keeps_throw _
  · exact keeps_onFiles _

theorem keeps_cleanUp : Effect.Keeps (Holds model) (cleanUp config) := by
  refine Effect.keeps_bind (Effect.keeps_ofExcept _) fun modelPath => ?_
  refine Effect.keeps_bind (Effect.keeps_ofExcept _) fun output => ?_
  exact Effect.keeps_bind (keeps_removeQuietly modelPath) fun _ => keeps_removeQuietly output

end Steps

section Reading

variable {world finish : World} {fault : Fault}

/-- Of what can fail in the reading of results only the solution that is read touches the model. -/
theorem readResults_error (failure : readResults config world = .error fault finish) :
    finish.model = world.model ∨
      ∃ bytes, Solution.readBytes bytes config.task.name world.model =
        .error fault finish.model := by
  unfold readResults at failure
  cases located : config.outputPath with
  | error refused =>
      rw [located] at failure
      cases failure
      exact Or.inl rfl
  | ok output =>
      simp only [located, Effect.run_bind, Effect.run_ofExcept_ok, Effect.run_get] at failure
      cases asked : world.files.contains output with
      | error overlong =>
          rw [asked] at failure
          cases failure
          exact Or.inl rfl
      | ok present =>
          cases present with
          | false =>
              rw [asked] at failure
              cases failure
              exact Or.inl rfl
          | true =>
              cases content : world.files.read output with
              | error refused =>
                  rw [asked, content] at failure
                  cases failure
                  exact Or.inl rfl
              | ok bytes =>
                  rw [asked, content] at failure
                  change Effect.onPart World.model _ _ world = _ at failure
                  unfold Effect.onPart at failure
                  cases ended :
                      Solution.readBytes bytes.toList config.task.name world.model with
                  | ok codes model =>
                      rw [ended] at failure
                      cases failure
                  | error early model =>
                      rw [ended] at failure
                      cases failure
                      exact Or.inr ⟨bytes.toList, ended⟩

theorem exchange_error (laidOut : world.model.LaidOut)
    (failure : exchange config runner world = .error fault finish) :
    finish.model = world.model ∨
      ∃ bytes, Solution.readBytes bytes config.task.name world.model =
        .error fault finish.model := by
  have start : Holds world.model world := rfl
  rcases (Effect.keeps_ofExcept config.modelPath).error_of_bind start failure with
    kept | ⟨path, _, _, kept, failure⟩
  · exact Or.inl kept
  rcases (keeps_writeModelFile laidOut path).error_of_bind kept failure with
    kept | ⟨_, _, _, kept, failure⟩
  · exact Or.inl kept
  rcases (Effect.keeps_ofExcept config.outputPath).error_of_bind kept failure with
    kept | ⟨_, _, _, kept, failure⟩
  · exact Or.inl kept
  rcases (keeps_onFiles _).error_of_bind kept failure with kept | ⟨_, _, _, kept, failure⟩
  · exact Or.inl kept
  rcases keeps_callSolver.error_of_bind kept failure with kept | ⟨_, _, _, kept, failure⟩
  · exact Or.inl kept
  have reading := readResults_error failure
  rw [kept] at reading
  exact reading

end Reading

section Cleaning

theorem onFiles_eq_ok {operation : FileSystem → Except FileFault FileSystem}
    {world finish : World} (success : Step.onFiles operation world = .ok () finish) :
    ∃ files, operation world.files = .ok files := by
  unfold Step.onFiles at success
  simp only [Effect.run_bind, Effect.run_get] at success
  cases changed : operation world.files with
  | ok files => exact ⟨files, rfl⟩
  | error fault =>
      rw [changed] at success
      cases success

/-- Tries to remove files; each refusal is a warning. -/
def World.discard (world : World) (paths : List Path) : World :=
  { world with
    files := (world.files.discard paths).1
    warnings := world.warnings + (world.files.discard paths).2 }

theorem World.discard_append (world : World) (first second : List Path) :
    world.discard (first ++ second) = (world.discard first).discard second := by
  unfold World.discard
  rw [FileSystem.discard_append, Nat.add_assoc]

theorem removeQuietly_eq_discard {path : Path} (valid : ¬FileSystem.HasNull path) (world : World) :
    Step.removeQuietly path world = .ok () (world.discard [path]) := by
  have accepted := mt (FileSystem.removeIfPresent_eq_embeddedNull_iff world.files path).mp valid
  unfold Step.removeQuietly World.discard
  simp only [Effect.run_bind, Effect.run_get]
  cases removal : world.files.removeIfPresent path with
  | ok after =>
      rw [FileSystem.discard_cons_of_ok removal]
      rfl
  | error refusal =>
      rw [FileSystem.discard_cons_of_error removal]
      cases refusal with
      | embeddedNull => exact absurd removal accepted
      | _ => rfl

theorem removeQuietly_succeeds {path : Path} (valid : ¬FileSystem.HasNull path) (world : World) :
    ∃ finish, Step.removeQuietly path world = .ok () finish :=
  ⟨_, removeQuietly_eq_discard valid world⟩

/-- The paths that are cleaned up after a successful exchange are those it has used. -/
theorem cleanUp_succeeds {world finish : World} {codes : List Int}
    (success : exchange config runner world = .ok codes finish) (after : World) :
    ∃ cleaned, cleanUp config after = .ok () cleaned := by
  obtain ⟨path, _, located, success⟩ := Effect.bind_eq_ok_iff.mp success
  obtain ⟨_, _, written, success⟩ := Effect.bind_eq_ok_iff.mp success
  obtain ⟨output, _, named, success⟩ := Effect.bind_eq_ok_iff.mp success
  obtain ⟨_, _, removed, _⟩ := Effect.bind_eq_ok_iff.mp success
  obtain ⟨_, _, opened, _⟩ := Effect.bind_eq_ok_iff.mp written
  obtain ⟨_, writtenFiles⟩ := onFiles_eq_ok opened
  obtain ⟨_, removedFiles⟩ := onFiles_eq_ok removed
  have validModel := FileSystem.not_hasNull_of_write writtenFiles
  have validOutput : ¬FileSystem.HasNull output := by
    intro null
    rw [(FileSystem.removeIfPresent_eq_embeddedNull_iff _ output).mpr null] at removedFiles
    cases removedFiles
  unfold cleanUp
  rw [(Effect.ofExcept_eq_ok_iff.mp located).1, (Effect.ofExcept_eq_ok_iff.mp named).1]
  obtain ⟨middle, first⟩ := removeQuietly_succeeds validModel after
  obtain ⟨cleaned, second⟩ := removeQuietly_succeeds validOutput middle
  refine ⟨cleaned, ?_⟩
  simp only [Effect.run_bind, Effect.run_ofExcept_ok, first, second]

end Cleaning

/-- A run that fails has not touched the model, unless it failed because of the solution. -/
theorem infer_error {world finish : World} {fault : Fault} (laidOut : world.model.LaidOut)
    (failure : infer config runner world = .error fault finish) :
    finish.model = world.model ∨
      ∃ bytes early, Solution.readBytes bytes config.task.name world.model =
        .error early finish.model := by
  have start : Holds world.model world := rfl
  rcases (Effect.keeps_ofExcept config.workPath).error_of_bind start failure with
    kept | ⟨work, _, _, kept, failure⟩
  · exact Or.inl kept
  rcases (keeps_ensureDirectories work).error_of_bind kept failure with
    kept | ⟨_, middle, _, kept, failure⟩
  · exact Or.inl kept
  rw [Effect.run_bind] at failure
  unfold Effect.outcome at failure
  cases ended : exchange config runner middle with
  | ok codes after =>
      -- with its results read, a run can only fail in the cleaning up, which cannot fail then
      obtain ⟨cleaned, succeeded⟩ := cleanUp_succeeds ended after
      rw [ended] at failure
      by_cases cleans : config.cleanup = true
      · simp only [cleans, if_true, Effect.run_bind, succeeded, Effect.run_ofExcept_ok] at failure
        cases failure
      · simp only [cleans, Bool.false_eq_true, if_false, Effect.run_ofExcept_ok] at failure
        cases failure
  | error early after =>
      rw [ended] at failure
      have sameModel : finish.model = after.model := by
        by_cases cleans : config.cleanup = true
        · simp only [cleans, if_true] at failure
          have keeps : Effect.Keeps (Holds after.model)
              (cleanUp config >>= fun _ => Effect.ofExcept (.error early : Except Fault (List Int))) :=
            Effect.keeps_bind keeps_cleanUp fun _ => Effect.keeps_ofExcept _
          exact keeps.of_error rfl failure
        · simp only [cleans, Bool.false_eq_true, if_false, Effect.run_ofExcept_error] at failure
          cases failure
          rfl
      have unread : middle.model = world.model := kept
      rw [← unread] at laidOut
      rcases exchange_error laidOut ended with untouched | ⟨bytes, refused⟩
      · exact Or.inl (by rw [sameModel, untouched, unread])
      · refine Or.inr ⟨bytes, early, ?_⟩
        rw [sameModel, ← unread]
        exact refused

end Solver

open Model

/-- Every way in which a solution can be rejected, and the model it leaves: that of the accepted
codes when a code is out of range, and otherwise the model as it was. -/
theorem rejection_settles_accepted_codes {model : Model Float} (laidOut : model.LaidOut) :
    (∀ codes fault finish, Solution.apply codes model = .error fault finish →
      finish = Solution.rejected model codes) ∧
    (∀ lines task fault finish, Solution.read lines task model = .error fault finish →
      finish = Solution.rejectedText model (Results.parse lines task)) ∧
    (∀ bytes task fault finish, Solution.readBytes bytes task model = .error fault finish →
      finish = Solution.rejectedText model (Solution.codesOfBytes bytes task)) ∧
    (∀ config runner world fault finish, world.model = model →
      Solver.infer config runner world = .error fault finish →
      finish.model = model ∨
        ∃ bytes, finish.model =
          Solution.rejectedText model (Solution.codesOfBytes bytes config.task.name)) ∧
    (∀ codes, (Solution.rejected model codes).values = model.values ↔
      (codes.length ≤ model.blocks.length → ∀ position code,
        (Solution.accepted model.blocks codes)[position]? = some code →
          Solution.IsInState model position code)) := by
  refine ⟨?_, ?_, ?_, ?_, Solution.rejected_values_eq_iff laidOut⟩
  · intro codes fault finish failure
    exact Solution.apply_error laidOut failure
  · intro lines task fault finish failure
    exact Solution.read_error laidOut failure
  · intro bytes task fault finish failure
    exact Solution.readBytes_error laidOut failure
  · rintro config runner world fault finish rfl failure
    rcases Solver.infer_error laidOut failure with untouched | ⟨bytes, early, refused⟩
    · exact Or.inl untouched
    · exact Or.inr ⟨bytes, Solution.readBytes_error laidOut refused⟩

section Pairs

/-- Two blocks of two variables each. -/
def twoPairs : Model Float :=
  { values := [0.0, 0.0, 0.0, 0.0]
    owners := [some 0, some 0, some 1, some 1]
    blocks := [⟨0, 2, true⟩, ⟨2, 4, true⟩] }

theorem laidOut_twoPairs : twoPairs.LaidOut := by
  have filled : ([0.0, 0.0] : List Float) ≠ [] := List.cons_ne_nil _ _
  exact ((laidOut_empty.grow_block filled true).grow_block filled true).of_sameLayout rfl rfl rfl

/-- The second code is out of range, and the first block has its new state nevertheless. -/
theorem rejected_solution_changes_arena :
    twoPairs.LaidOut ∧
      ∃ fault finish, Solution.apply [1, 5] twoPairs = .error fault finish ∧
        finish.values = [0.0, 1.0, 0.0, 0.0] ∧ finish.values ≠ twoPairs.values := by
  refine ⟨laidOut_twoPairs, _, _, rfl, rfl, ?_⟩
  decide

theorem rejection_settles_accepted_codes_twoPairs :
    twoPairs.LaidOut ∧
      ∃ fault finish, Solution.apply [1, 5] twoPairs = .error fault finish ∧
        finish = twoPairs.settle (Choice.ofCodes [1]) := by
  refine ⟨laidOut_twoPairs, _, _, rfl, ?_⟩
  exact (rejection_settles_accepted_codes laidOut_twoPairs).1 [1, 5] _ _ rfl

end Pairs

end HingeField
