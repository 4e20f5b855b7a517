import HingeField.Proofs.Sameness
import HingeField.Proofs.Stages

/-!
Two runs of one step. Main statements: steps that end alike from related states
can be put together; and from worlds with the same model and the same files
every step of a solver run ends alike, if the solver depends on nothing but its
command, its directory and the files.
-/

namespace HingeField

namespace Effect

variable {σ τ β γ : Type} {before between after failed : σ → σ → Prop}

/-- Both runs succeed with one value, or both fail with one fault, in related states. -/
def Matches (after failed : σ → σ → Prop) :
    EStateM.Result Fault σ β → EStateM.Result Fault σ β → Prop
  | .ok value first, .ok other second => value = other ∧ after first second
  | .error fault first, .error other second => fault = other ∧ failed first second
  | _, _ => False

def Relates (before after failed : σ → σ → Prop) (step : Effect σ β) : Prop :=
  ∀ first second, before first second → Matches after failed (step first) (step second)

theorem Matches.cases {first second : EStateM.Result Fault σ β}
    (matched : Matches after failed first second) :
    (∃ value state other, first = .ok value state ∧ second = .ok value other ∧
        after state other) ∨
      ∃ fault state other, first = .error fault state ∧ second = .error fault other ∧
        failed state other := by
  cases first with
  | ok value state =>
      cases second with
      | ok otherValue other =>
          obtain ⟨rfl, related⟩ := matched
          exact Or.inl ⟨value, state, other, rfl, rfl, related⟩
      | error fault other => exact matched.elim
  | error fault state =>
      cases second with
      | ok otherValue other => exact matched.elim
      | error otherFault other =>
          obtain ⟨rfl, related⟩ := matched
          exact Or.inr ⟨fault, state, other, rfl, rfl, related⟩

theorem relates_pure (value : β) :
    Relates before before failed (pure value : Effect σ β) :=
  fun _ _ related => ⟨rfl, related⟩

theorem relates_throw (fault : Fault) :
    Relates before after before (throw fault : Effect σ β) :=
  fun _ _ related => ⟨rfl, related⟩

theorem relates_ofExcept (computed : Except Fault β) :
    Relates before before before (ofExcept computed : Effect σ β) := by
  cases computed with
  | ok value => exact relates_pure value
  | error fault => exact relates_throw fault

theorem relates_bind {first : Effect σ β} {next : β → Effect σ γ}
    (relatesFirst : Relates before between failed first)
    (relatesNext : ∀ value, Relates between after failed (next value)) :
    Relates before after failed (first >>= next) := by
  intro start other related
  rw [run_bind, run_bind]
  rcases (relatesFirst start other related).cases with
    ⟨value, state, otherState, first, second, middle⟩ |
    ⟨fault, state, otherState, first, second, ended⟩
  · rw [first, second]
    exact relatesNext value state otherState middle
  · rw [first, second]
    exact ⟨rfl, ended⟩

theorem relates_forM {α : Type} {items : List α} {step : α → Effect σ PUnit}
    (each : ∀ item ∈ items, Relates before before before (step item)) :
    Relates before before before (items.forM step) := by
  induction items with
  | nil => exact relates_pure PUnit.unit
  | cons item items ih =>
      exact relates_bind (each item List.mem_cons_self) fun _ =>
        ih fun other member => each other (List.mem_cons_of_mem item member)

theorem Relates.weaken {stronger weaker endsIn : σ → σ → Prop} {step : Effect σ β}
    (relates : Relates before after failed step)
    (starts : ∀ first second, stronger first second → before first second)
    (ends : ∀ first second, after first second → weaker first second)
    (fails : ∀ first second, failed first second → endsIn first second) :
    Relates stronger weaker endsIn step := by
  intro start other related
  rcases (relates start other (starts start other related)).cases with
    ⟨value, state, otherState, first, second, ended⟩ |
    ⟨fault, state, otherState, first, second, ended⟩
  · rw [first, second]
    exact ⟨rfl, ends state otherState ended⟩
  · rw [first, second]
    exact ⟨rfl, fails state otherState ended⟩

theorem relates_outcome {step : Effect σ β} (relates : Relates before after after step) :
    Relates before after failed step.outcome := by
  intro start other related
  rw [run_outcome, run_outcome]
  rcases (relates start other related).cases with
    ⟨value, state, otherState, first, second, ended⟩ |
    ⟨fault, state, otherState, first, second, ended⟩
  · rw [first, second]
    exact ⟨rfl, ended⟩
  · rw [first, second]
    exact ⟨rfl, ended⟩

end Effect

namespace Solver

open FileSystem Effect

variable {before after failed : FileSystem → FileSystem → Prop} {config : Config}
  {runner : Runner} {path : Path}

/-- Two worlds have one model and related files. What was called before and what was warned of
does not matter. -/
def Alike (related : FileSystem → FileSystem → Prop) (first second : World) : Prop :=
  second.model = first.model ∧ related first.files second.files

/-- What a runner does depends on its command, its directory and the entries of the files only. -/
def SeesFiles (runner : Runner) : Prop :=
  ∀ call other : Call, other.command = call.command → other.directory = call.directory →
    Same call.files other.files →
      (runner other).1 = (runner call).1 ∧ Same (runner call).2 (runner other).2

theorem relates_onFiles {operation : FileSystem → Except FileFault FileSystem}
    (agree : ∀ files other, before files other →
      Agree after (operation files) (operation other)) :
    Relates (Alike before) (Alike after) (Alike before) (Step.onFiles operation) := by
  rintro first second ⟨sameModel, related⟩
  unfold Step.onFiles
  simp only [run_bind, run_get]
  rcases (agree _ _ related).cases with ⟨changed, otherChanged, done, otherDone, ended⟩ |
    ⟨fault, refused, otherRefused⟩
  · rw [done, otherDone]
    exact ⟨rfl, sameModel, ended⟩
  · rw [refused, otherRefused]
    exact ⟨rfl, sameModel, related⟩

theorem relates_onModel {β : Type} (action : Action Float β) :
    Relates (Alike before) (Alike before) (Alike before) (Step.onModel action) := by
  rintro first second ⟨sameModel, related⟩
  unfold Step.onModel onPart
  rw [sameModel]
  cases action first.model with
  | ok value model => exact ⟨rfl, rfl, related⟩
  | error fault model => exact ⟨rfl, rfl, related⟩

/-- A removal is refused in both runs if the path is none at all, and else it only warns. -/
theorem relates_removeQuietly
    (removes : ∀ files other, before files other →
      after (files.settle (files.removeIfPresent path)).1
        (other.settle (other.removeIfPresent path)).1) :
    Relates (Alike before) (Alike after) (Alike after) (Step.removeQuietly path) := by
  rintro first second ⟨sameModel, related⟩
  by_cases null : HasNull path
  · have ended := removes _ _ related
    rw [(removeIfPresent_eq_embeddedNull_iff first.files path).mpr null,
      (removeIfPresent_eq_embeddedNull_iff second.files path).mpr null] at ended
    rw [removeQuietly_of_null null, removeQuietly_of_null null]
    exact ⟨rfl, sameModel, ended⟩
  · obtain ⟨_, firstEnd⟩ := removeQuietly_of_valid null first
    obtain ⟨_, secondEnd⟩ := removeQuietly_of_valid null second
    rw [firstEnd, secondEnd]
    exact ⟨rfl, sameModel, removes _ _ related⟩

theorem relates_writeModelFile {between : FileSystem → FileSystem → Prop}
    (writes : ∀ content files other, before files other →
      Agree between (files.write path content) (other.write path content))
    (again : ∀ files other, between files other → before files other) :
    Relates (Alike before) (Alike between) (Alike before) (writeModelFile path) := by
  have back : ∀ first second, Alike between first second → Alike before first second :=
    fun first second alike => ⟨alike.1, again _ _ alike.2⟩
  refine relates_bind (relates_onFiles fun files other => writes _ files other) fun _ => ?_
  refine relates_bind ((relates_onModel _).weaken (fun _ _ alike => alike) (fun _ _ alike => alike)
    back) fun written => ?_
  obtain ⟨text, fault⟩ := written
  refine relates_bind ((relates_onFiles fun files other => writes text.toUTF8 files other).weaken
    back (fun _ _ alike => alike) fun _ _ alike => alike) fun _ => ?_
  cases fault with
  | none => exact relates_pure ()
  | some fault => exact fun first second alike => ⟨rfl, back first second alike⟩

section SameFiles

theorem relates_runCommand (sees : SeesFiles runner) :
    Relates (Alike Same) (Alike Same) (Alike Same) (runCommand config runner) := by
  rintro first second ⟨sameModel, same⟩
  unfold runCommand
  cases config.command with
  | error fault => exact ⟨rfl, sameModel, same⟩
  | ok command =>
      cases config.workPath with
      | error fault => exact ⟨rfl, sameModel, same⟩
      | ok directory =>
          obtain ⟨completion, left⟩ := sees { command, directory, files := first.files }
            { command, directory, files := second.files } rfl rfl same
          simp only [run_bind, run_ofExcept_ok, run_get, run_modify, completion]
          cases (runner { command, directory, files := first.files }).1 with
          | failed fault => exact ⟨rfl, sameModel, left⟩
          | exited status stderr =>
              by_cases succeeded : status = some 0
              · simp only [succeeded, if_true]
                exact ⟨rfl, sameModel, left⟩
              · simp only [succeeded, if_false]
                exact ⟨rfl, sameModel, left⟩

theorem relates_callSolver (sees : SeesFiles runner) :
    Relates (Alike Same) (Alike Same) (Alike Same) (callSolver config runner) := by
  refine relates_bind (relates_ofExcept _) fun evidence => ?_
  refine relates_bind (relates_onFiles fun files other same => same.write evidence _) fun _ => ?_
  refine relates_bind (relates_outcome (relates_runCommand sees)) fun ending => ?_
  cases ending with
  | error fault =>
      refine relates_bind (relates_removeQuietly fun files other same => ?_) fun _ =>
        relates_throw fault
      exact (same.settle (same.removeIfPresent evidence)).1
  | ok value => exact relates_onFiles fun files other same => same.removeIfPresent evidence

theorem relates_readResults :
    Relates (Alike Same) (Alike Same) (Alike Same) (readResults config) := by
  rintro first second ⟨sameModel, same⟩
  unfold readResults
  cases config.outputPath with
  | error fault => exact ⟨rfl, sameModel, same⟩
  | ok output =>
      simp only [run_bind, run_ofExcept_ok, run_get, same.contains]
      cases first.files.contains output with
      | error overlong => exact ⟨rfl, sameModel, same⟩
      | ok present =>
          cases present with
          | false => exact ⟨rfl, sameModel, same⟩
          | true =>
              simp only [same.read]
              cases first.files.read output with
              | error fault => exact ⟨rfl, sameModel, same⟩
              | ok bytes => exact relates_onModel _ first second ⟨sameModel, same⟩

theorem relates_cleanUp :
    Relates (Alike Same) (Alike Same) (Alike Same) (cleanUp config) := by
  have quiet : ∀ path, Relates (Alike Same) (Alike Same) (Alike Same)
      (Step.removeQuietly path) := fun path =>
    relates_removeQuietly fun files other same => (same.settle (same.removeIfPresent path)).1
  refine relates_bind (relates_ofExcept _) fun model => ?_
  refine relates_bind (relates_ofExcept _) fun output => ?_
  exact relates_bind (quiet model) fun _ => quiet output

end SameFiles

end Solver

end HingeField
