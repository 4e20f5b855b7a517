import HingeField.Proofs.Passes

/-!
Histories: sequences of operations on one model, each of which succeeds or
fails. Main statements: an operation that appends nothing leaves the layout
alone and touches the cells it is given and members of blocks only; and as long
as the values that come from outside are good, all values are good after every
operation of a history, and the model is laid out.
-/

namespace HingeField

open Model

/-- The initial values of a call: an array of any dimensions. -/
abbrev GivenValues := {given : InitialValues Float // given.IsFilled}

/-- What can be done to a model, with the arguments of the call. -/
inductive Operation where
  | addVariable (value : Float)
  | addBlock (size : Int) (exactlyOne : Bool) (initial : Option GivenValues)
  | addRule (rule : Rule Float)
  | setValue (index : Int) (value : Float)
  | clearBlock (position : Int)
  | assignCategory (position code : Int)
  | applyAssignment (scope codes : List Int)
  | commit (index : Int)
  | takeSnapshot
  | restore (place : Nat)
  | restoreArray (given : GivenValues)
  | buildTable (rule : Rule Float)
  | write
  | applySolution (codes : List Int)
  | readResults (lines : List String) (task : String)
  | readFile (bytes : List UInt8) (task : String)
  | infer (config : Solver.Config) (runner : Solver.Runner) (files : FileSystem)
  | soften (indices : List Int)
  | decide (register : Register Float) (tieBreak : Rounding.TieBreak) (index : Int)
  | greedy (register : Register Float) (tieBreak : Rounding.TieBreak) (workers : Int)
      (indices : List Int)
  | greedyTurns (register : Register Float) (tieBreak : Rounding.TieBreak) (places : List Nat)
      (indices : List Int)
  | bernoulli (draws : Nat → Float) (indices : List Int)

/-- A model with the snapshots that were taken of it. -/
structure Session where
  model : Model Float
  snapshots : List (Arena Float) := []

namespace Session

def perform {β : Type} (action : Action Float β) : Effect Session Unit := do
  let _ ← Effect.onPart model (fun session model => { session with model }) action

def takeSnapshot : Effect Session Unit :=
  modify fun session => { session with snapshots := session.snapshots ++ [session.model.values] }

def restore (place : Nat) : Effect Session Unit := do
  match (← get).snapshots[place]? with
  | some arena => perform (Model.restore arena)
  | none => pure ()

/-- A solver run on the model of a session. -/
def infer (config : Solver.Config) (runner : Solver.Runner) (files : FileSystem) :
    Action Float Unit := fun model =>
  match Solver.infer config runner { model, files } with
  | .ok _ world => .ok () world.model
  | .error fault world => .error fault world.model

end Session

namespace Operation

def run : Operation → Effect Session Unit
  | addVariable value => Session.perform (Model.addVariable value)
  | addBlock size exactlyOne initial =>
      Session.perform (Model.addBlock size exactlyOne (initial.map (·.val)))
  | addRule rule => Session.perform (Model.addRule rule)
  | setValue index value => Session.perform (Model.setValue index value)
  | clearBlock position => Session.perform (Model.clearBlock position)
  | assignCategory position code => Session.perform (Model.assignCategory position code)
  | applyAssignment scope codes => Session.perform (Model.applyAssignment scope codes)
  | commit index => Session.perform (Model.commit index)
  | takeSnapshot => Session.takeSnapshot
  | restore place => Session.restore place
  | restoreArray given => Session.perform (Model.restoreArray given.val)
  | buildTable rule => Session.perform (Model.buildTable rule)
  | write => Session.perform Network.writing
  | applySolution codes => Session.perform (Solution.apply codes)
  | readResults lines task => Session.perform (Solution.read lines task)
  | readFile bytes task => Session.perform (Solution.readBytes bytes task)
  | infer config runner files => Session.perform (Session.infer config runner files)
  | soften indices => Session.perform (Rounding.soften indices)
  | decide register tieBreak index =>
      Session.perform (Rounding.decideVariable register tieBreak index)
  | greedy register tieBreak workers indices =>
      Session.perform (Rounding.greedy register tieBreak workers indices)
  | greedyTurns register tieBreak places indices =>
      Session.perform (Rounding.greedyTurns register tieBreak places indices)
  | bernoulli draws indices => Session.perform (Rounding.bernoulli draws indices)

def appends : Operation → Bool
  | addVariable _ => true
  | addBlock _ _ _ => true
  | addRule _ => true
  | _ => false

/-- The indices of the variables that an operation is given to change. -/
def indices : Operation → List Int
  | setValue index _ => [index]
  | soften indices => indices
  | decide _ _ index => [index]
  | greedy _ _ _ indices => indices
  | greedyTurns _ _ _ indices => indices
  | bernoulli _ indices => indices
  | _ => []

/-- Whether an operation can change every value. -/
def restores : Operation → Bool
  | restore _ => true
  | restoreArray _ => true
  | _ => false

def appended : Operation → List Float
  | addVariable value => [value]
  | addBlock _ _ (some given) => given.val.cells
  | _ => []

def restored : Operation → List Float
  | restoreArray given => given.val.cells
  | _ => []

end Operation

namespace Session

def start (keepsJournal : Bool) : Session :=
  { model := { keepsJournal } }

/-- A session after operations, each of which succeeded or failed. -/
def after (session : Session) (operations : List Operation) : Session :=
  operations.foldl (fun session operation => Effect.final (operation.run session)) session

end Session

section Frame

variable {origin : Model Float} {touched : Nat → Prop} {good : Float → Prop}

structure Session.IsConfined (origin : Model Float) (touched : Nat → Prop) (good : Float → Prop)
    (session : Session) : Prop where
  model : origin.Confined touched good session.model
  snapshots : ∀ arena ∈ session.snapshots, ∀ value ∈ arena, good value

theorem keeps_perform {β : Type} {action : Action Float β}
    (keeps : Effect.Keeps (origin.Confined touched good) action) :
    Effect.Keeps (Session.IsConfined origin touched good) (Session.perform action) := by
  refine Effect.keeps_bind (Effect.keeps_onPart keeps (fun _ confined => confined.model) ?_)
    fun _ => Effect.keeps_pure _
  exact fun session model confined modelConfined => ⟨modelConfined, confined.snapshots⟩

theorem keeps_takeSnapshot :
    Effect.Keeps (Session.IsConfined origin touched good) Session.takeSnapshot := by
  apply Effect.keeps_modify
  intro session confined
  refine ⟨confined.model, ?_⟩
  intro arena member
  rcases List.mem_append.mp member with old | new
  · exact confined.snapshots arena old
  · rw [List.mem_singleton.mp new]
    exact confined.model.areGood

theorem keeps_setValue {index : Int} (reaches : origin.Reaches touched index) {value : Float}
    (unit : 0.0 ≤ value → value ≤ 1.0 → good value) :
    Effect.Keeps (origin.Confined touched good) (setValue index value) := by
  unfold setValue
  dsimp only
  split
  · rename_i inside
    exact keeps_write reaches (unit inside.1 inside.2)
  · exact fun model confined => confined

theorem keeps_restore {values : Arena Float} (everywhere : ∀ offset, touched offset)
    (areGood : ∀ value ∈ values, good value) :
    Effect.Keeps (origin.Confined touched good) (Model.restore values) := by
  intro model confined
  unfold Model.restore
  simp only [Effect.run_bind, Effect.run_get]
  split
  · rename_i sameSize
    exact confined.replace sameSize (fun offset untouched => absurd (everywhere offset) untouched)
      areGood
  · exact confined

theorem keeps_infer (permits : origin.Permits touched good) (config : Solver.Config)
    (runner : Solver.Runner) (files : FileSystem) :
    Effect.Keeps (origin.Confined touched good) (Session.infer config runner files) := by
  intro model confined
  have atEnd := Solver.keeps_infer permits config runner { model, files } confined
  unfold Session.infer
  cases ended : Solver.infer config runner { model, files } with
  | ok codes world =>
      rw [ended] at atEnd
      exact atEnd
  | error fault world =>
      rw [ended] at atEnd
      exact atEnd

theorem keeps_restoreArray {given : InitialValues Float} (everywhere : ∀ offset, touched offset)
    (areGood : ∀ value ∈ given.cells, good value) :
    Effect.Keeps (origin.Confined touched good) (restoreArray given) := by
  refine Effect.keeps_bind (Effect.keeps_ofExcept _) fun _ => ?_
  split
  · exact keeps_restore everywhere areGood
  · exact Effect.keeps_throw _

/-- An operation that appends nothing keeps a session confined, if it may touch what it is given
and what comes from outside is good. -/
theorem Operation.keeps_run {operation : Operation} (keepsSize : operation.appends = false)
    (permits : origin.Permits touched good)
    (unit : ∀ value : Float, 0.0 ≤ value → value ≤ 1.0 → good value)
    (reaches : Rounding.ReachesAll origin touched operation.indices)
    (everywhere : operation.restores = true → ∀ offset, touched offset)
    (areGood : ∀ value ∈ operation.restored, good value) :
    Effect.Keeps (Session.IsConfined origin touched good) operation.run := by
  cases operation with
  | addVariable value => cases keepsSize
  | addBlock size exactlyOne initial => cases keepsSize
  | addRule rule => cases keepsSize
  | setValue index value =>
      exact keeps_perform (keeps_setValue (reaches index List.mem_cons_self) (unit value))
  | clearBlock position => exact keeps_perform (keeps_clearBlock permits position)
  | assignCategory position code =>
      exact keeps_perform (keeps_assignCategory permits position code)
  | applyAssignment scope codes =>
      exact keeps_perform (keeps_applyAssignment permits scope codes)
  | commit index => exact keeps_perform (keeps_commit index)
  | takeSnapshot => exact keeps_takeSnapshot
  | restore place =>
      intro session confined
      unfold run Session.restore
      simp only [Effect.run_bind, Effect.run_get]
      cases found : session.snapshots[place]? with
      | none => exact confined
      | some arena =>
          have snapshotGood := confined.snapshots arena (List.mem_of_getElem? found)
          exact keeps_perform (keeps_restore (everywhere rfl) snapshotGood) session confined
  | restoreArray given => exact keeps_perform (keeps_restoreArray (everywhere rfl) areGood)
  | buildTable rule => exact keeps_perform (keeps_buildTable permits rule)
  | write => exact keeps_perform (Network.keeps_written permits)
  | applySolution codes => exact keeps_perform (Solution.keeps_apply permits codes)
  | readResults lines task => exact keeps_perform (Solution.keeps_read permits lines task)
  | readFile bytes task => exact keeps_perform (Solution.keeps_readBytes permits bytes task)
  | infer config runner files =>
      exact keeps_perform (keeps_infer permits config runner files)
  | soften indices => exact keeps_perform (Rounding.keeps_soften permits reaches)
  | decide register tieBreak index =>
      exact keeps_perform
        (Rounding.keeps_decideVariable permits (reaches index List.mem_cons_self))
  | greedy register tieBreak workers indices =>
      exact keeps_perform (Rounding.keeps_greedy permits workers reaches)
  | greedyTurns register tieBreak places indices =>
      exact keeps_perform (Rounding.keeps_greedyTurns permits places reaches)
  | bernoulli draws indices => exact keeps_perform (Rounding.keeps_bernoulli permits draws reaches)

end Frame

section Soundness

variable {good : Float → Prop} {session : Session}

/-- Which values are good, such that those of the unit interval are, and softened ones. -/
structure IsClosed (good : Float → Prop) : Prop where
  unit : ∀ value : Float, 0.0 ≤ value → value ≤ 1.0 → good value
  softened : ∀ value, good value → good (Scalar.softened value)

structure Session.IsSound (good : Float → Prop) (session : Session) : Prop where
  laidOut : session.model.LaidOut
  values : ∀ value ∈ session.model.values, good value
  snapshots : ∀ arena ∈ session.snapshots, ∀ value ∈ arena, good value

theorem isSound_start (keepsJournal : Bool) : (Session.start keepsJournal).IsSound good := by
  refine ⟨?_, fun value member => absurd member List.not_mem_nil,
    fun arena member => absurd member List.not_mem_nil⟩
  exact laidOut_empty.of_sameLayout rfl rfl rfl

theorem Session.IsSound.permits (sound : session.IsSound good) (closed : IsClosed good) :
    session.model.Permits (fun _ => True) good :=
  ⟨sound.laidOut, fun _ _ _ _ _ => trivial, closed.unit 0.0 (by decide) (by decide),
    closed.unit 1.0 (by decide) (by decide), closed.softened⟩

theorem run_perform {β : Type} (action : Action Float β) (session : Session) :
    Session.perform action session =
      match action session.model with
      | .ok _ model => .ok () { session with model }
      | .error fault model => .error fault { session with model } := by
  refine (Effect.run_bind session _ _).trans ?_
  unfold Effect.onPart
  cases action session.model with
  | ok value model => rfl
  | error fault model => rfl

theorem run_addVariable_cases (value : Float) (session : Session) :
    (isAdmissible value = true ∧ (Operation.addVariable value).run session =
        .ok () { session with model := session.model.grow [value] none }) ∨
      (isAdmissible value = false ∧
        (Operation.addVariable value).run session = .error .truthRange session) := by
  have steps := run_perform (Model.addVariable value) session
  rcases addVariable_cases value session.model with ⟨admissible, added⟩ | ⟨outside, refused⟩
  · rw [added] at steps
    exact Or.inl ⟨admissible, steps⟩
  · rw [refused] at steps
    exact Or.inr ⟨outside, steps⟩

/-- The values of a new block are the ones that were given, all of them admissible, or zeros. -/
theorem blockValues_cases {size : Int} {initial : Option (InitialValues Float)}
    {values : List Float} (given : blockValues size initial = .ok values) :
    (initial = none ∧ values = List.replicate size.toNat 0.0) ∨
      ∃ array, initial = some array ∧ values = array.cells ∧ array.cells.all isAdmissible = true := by
  cases initial with
  | none =>
      simp only [blockValues, zeros] at given
      cases room : checkRoom size.toNat with
      | error fault =>
          rw [room] at given
          cases given
      | ok granted =>
          rw [room] at given
          cases given
          exact Or.inl ⟨rfl, rfl⟩
  | some array =>
      simp only [blockValues] at given
      cases checked : array.checkShape with
      | error fault =>
          rw [checked] at given
          cases given
      | ok granted =>
          rw [checked] at given
          simp only [Effect.ok_bind] at given
          split at given
          · cases given
          · split at given
            · rename_i admissible
              cases given
              exact Or.inr ⟨array, rfl, rfl, admissible⟩
            · cases given

theorem isFilled_of_given {initial : Option GivenValues} {array : InitialValues Float}
    (same : initial.map (·.val) = some array) : array.IsFilled := by
  obtain ⟨held, rfl, rfl⟩ := Option.map_eq_some_iff.mp same
  exact held.property

theorem run_addBlock_cases (size : Int) (exactlyOne : Bool) (initial : Option GivenValues)
    (session : Session) :
    (∃ values, 1 ≤ size ∧ values.length = size.toNat ∧
        ((initial = none ∧ values = List.replicate size.toNat 0.0) ∨
          ∃ given, initial = some given ∧ values = given.val.cells ∧
            given.val.cells.all isAdmissible = true) ∧
        (Operation.addBlock size exactlyOne initial).run session =
          .ok () { session with model := session.model.withBlock size exactlyOne values }) ∨
      ∃ fault, (Operation.addBlock size exactlyOne initial).run session = .error fault session := by
  have steps := run_perform (Model.addBlock size exactlyOne (initial.map (·.val))) session
  rcases addBlock_cases size exactlyOne (initial.map (·.val)) session.model with
    ⟨values, positive, given, added⟩ | ⟨fault, refused⟩
  · rw [added] at steps
    have count := length_of_blockValues given fun _ => isFilled_of_given
    refine Or.inl ⟨values, positive, count, ?_, steps⟩
    rcases blockValues_cases given with ⟨none, zeros⟩ | ⟨array, some, cells, admissible⟩
    · exact Or.inl ⟨Option.map_eq_none_iff.mp none, zeros⟩
    · obtain ⟨held, same, rfl⟩ := Option.map_eq_some_iff.mp some
      exact Or.inr ⟨held, same, cells, admissible⟩
  · rw [refused] at steps
    exact Or.inr ⟨fault, steps⟩

theorem run_restoreArray_cases (given : GivenValues) (session : Session) :
    (∃ model, model.values = given.val.cells ∧
        (Operation.restoreArray given).run session = .ok () { session with model }) ∨
      ∃ fault, (Operation.restoreArray given).run session = .error fault session := by
  have steps := run_perform (Model.restoreArray given.val) session
  have ending : Model.restoreArray given.val session.model =
        .ok () { session.model with values := given.val.cells } ∨
      ∃ fault, Model.restoreArray given.val session.model = .error fault session.model := by
    unfold restoreArray Model.restore
    cases given.val.checkShape with
    | error early => exact Or.inr ⟨early, rfl⟩
    | ok granted =>
        simp only [Effect.run_bind, Effect.run_ofExcept_ok]
        split
        · simp only [Effect.run_bind, Effect.run_get]
          split
          · exact Or.inl rfl
          · exact Or.inr ⟨_, rfl⟩
        · exact Or.inr ⟨_, rfl⟩
  rcases ending with restored | ⟨fault, refused⟩
  · rw [restored] at steps
    exact Or.inl ⟨_, rfl, steps⟩
  · rw [refused] at steps
    exact Or.inr ⟨fault, steps⟩

theorem Session.IsSound.withModel (sound : session.IsSound good) {model : Model Float}
    (laidOut : model.LaidOut) (areGood : ∀ value ∈ model.values, good value) :
    Session.IsSound good { session with model } :=
  ⟨laidOut, areGood, sound.snapshots⟩

theorem Session.IsSound.append (sound : session.IsSound good) {model : Model Float}
    (laidOut : model.LaidOut) {values : List Float}
    (appended : model.values = session.model.values ++ values)
    (areGood : ∀ value ∈ values, good value) : Session.IsSound good { session with model } := by
  refine sound.withModel laidOut ?_
  intro value member
  rw [appended] at member
  rcases List.mem_append.mp member with old | new
  · exact sound.values value old
  · exact areGood value new

/-- What an operation brings is good if it is accepted. -/
def Operation.IsAccepted (good : Float → Prop) (operation : Operation) (session : Session) : Prop :=
  Effect.succeeded (operation.run session) = true →
    ∀ value, value ∈ operation.appended ∨ value ∈ operation.restored → good value

theorem Session.IsSound.run (sound : session.IsSound good) (closed : IsClosed good)
    {operation : Operation} (accepted : operation.IsAccepted good session) :
    (Effect.final (operation.run session)).IsSound good := by
  have plain (keepsSize : operation.appends = false)
      (restoredGood : ∀ value ∈ operation.restored, good value) :
      (Effect.final (operation.run session)).IsSound good := by
    have confined := Operation.keeps_run keepsSize (sound.permits closed) closed.unit
      (fun _ _ _ _ => trivial) (fun _ _ => trivial) restoredGood session
      ⟨confined_self sound.values, sound.snapshots⟩
    exact ⟨confined.model.laidOut sound.laidOut, confined.model.areGood, confined.snapshots⟩
  cases operation with
  | addVariable value =>
      rcases run_addVariable_cases value session with ⟨_, added⟩ | ⟨_, refused⟩
      · unfold Operation.IsAccepted at accepted
        rw [added] at accepted ⊢
        exact sound.append (sound.laidOut.grow_free [value]) rfl fun other new =>
          accepted rfl other (Or.inl new)
      · rw [refused]
        exact sound
  | addBlock size exactlyOne initial =>
      rcases run_addBlock_cases size exactlyOne initial session with
        ⟨values, positive, count, origin, added⟩ | ⟨fault, refused⟩
      · unfold Operation.IsAccepted at accepted
        rw [added] at accepted ⊢
        refine sound.append (sound.laidOut.withBlock positive exactlyOne count) rfl ?_
        rcases origin with ⟨_, rfl⟩ | ⟨given, rfl, rfl, _⟩
        · intro value new
          rw [List.eq_of_mem_replicate new]
          exact closed.unit 0.0 (by decide) (by decide)
        · exact fun value new => accepted rfl value (Or.inl new)
      · rw [refused]
        exact sound
  | addRule rule => exact ⟨sound.laidOut.of_sameLayout rfl rfl rfl, sound.values, sound.snapshots⟩
  | restoreArray given =>
      rcases run_restoreArray_cases given session with ⟨model, _, restored⟩ | ⟨fault, refused⟩
      · apply plain rfl
        unfold Operation.IsAccepted at accepted
        rw [restored] at accepted
        exact fun value member => accepted rfl value (Or.inr member)
      · rw [refused]
        exact sound
  | _ => exact plain rfl fun value member => absurd member List.not_mem_nil

theorem Session.after_append (session : Session) (earlier later : List Operation) :
    session.after (earlier ++ later) = (session.after earlier).after later :=
  List.foldl_append

theorem Session.IsSound.after (closed : IsClosed good) {operations : List Operation}
    (sound : session.IsSound good)
    (accepted : ∀ earlier operation, earlier ++ [operation] <+: operations →
      operation.IsAccepted good (session.after earlier)) :
    (session.after operations).IsSound good := by
  induction operations generalizing session with
  | nil => exact sound
  | cons operation operations ih =>
      apply ih (sound.run closed (accepted [] operation ⟨operations, rfl⟩))
      intro earlier other listed
      exact accepted (operation :: earlier) other (List.prefix_cons_inj operation |>.mpr listed)

theorem laidOut_after (keepsJournal : Bool) (operations : List Operation) :
    ((Session.start keepsJournal).after operations).model.LaidOut := by
  have closed : IsClosed fun _ => True := ⟨fun _ _ _ => trivial, fun _ _ => trivial⟩
  exact ((isSound_start keepsJournal).after closed fun _ _ _ _ _ _ => trivial).laidOut

end Soundness

end HingeField
