import HingeField.Proofs.Rejection
import HingeField.Rounding.Outcome

/-!
What operations leave alone. A model is confined to an earlier one if it has
the same layout and rules, the same value in every cell that may not be
touched, and good values in all of its cells. Main statements: a model stays
confined when good values are stored in cells that may be touched, when blocks
are put into the states of category codes, when tables are built and the model
is written, and when a solution is read, whether this succeeds or fails.
-/

namespace HingeField

namespace Model

variable {α : Type}

structure Confined (origin : Model α) (touched : Nat → Prop) (good : α → Prop)
    (model : Model α) : Prop where
  sameOwners : model.owners = origin.owners
  sameBlocks : model.blocks = origin.blocks
  sameRules : model.rules = origin.rules
  sameSize : model.values.length = origin.values.length
  untouched : ∀ offset, ¬touched offset → model.values[offset]? = origin.values[offset]?
  areGood : ∀ value ∈ model.values, good value

/-- Which cells may be touched and which values are good, such that the states of blocks are. -/
structure Permits [Scalar α] (origin : Model α) (touched : Nat → Prop) (good : α → Prop) :
    Prop where
  laidOut : origin.LaidOut
  members : ∀ block ∈ origin.blocks, ∀ offset : Nat, block.start ≤ offset → offset < block.stop →
    touched offset
  zero : good Scalar.zero
  one : good Scalar.one
  softened : ∀ value, good value → good (Scalar.softened value)

def Reaches (origin : Model α) (touched : Nat → Prop) (index : Int) : Prop :=
  ∀ offset, resolvePosition? origin.values.length index = some offset → touched offset

variable {origin model : Model α} {touched : Nat → Prop} {good : α → Prop}

theorem confined_self (areGood : ∀ value ∈ origin.values, good value) :
    origin.Confined touched good origin :=
  ⟨rfl, rfl, rfl, rfl, fun _ _ => rfl, areGood⟩

theorem Confined.laidOut (confined : origin.Confined touched good model)
    (laidOut : origin.LaidOut) : model.LaidOut :=
  laidOut.of_sameLayout confined.sameOwners confined.sameBlocks confined.sameSize

/-- Confinement is a matter of the layout, the rules and the arena alone. -/
theorem Confined.of_sameArena {other : Model α} (confined : origin.Confined touched good model)
    (sameOwners : other.owners = model.owners) (sameBlocks : other.blocks = model.blocks)
    (sameRules : other.rules = model.rules) (sameValues : other.values = model.values) :
    origin.Confined touched good other := by
  refine ⟨sameOwners.trans confined.sameOwners, sameBlocks.trans confined.sameBlocks,
    sameRules.trans confined.sameRules, ?_, ?_, ?_⟩
  · rw [sameValues]
    exact confined.sameSize
  · rw [sameValues]
    exact confined.untouched
  · rw [sameValues]
    exact confined.areGood

/-- Another arena of the same size that differs in touched cells only and is good. -/
theorem Confined.replace (confined : origin.Confined touched good model) {values : Arena α}
    (sameSize : values.length = model.values.length)
    (untouched : ∀ offset, ¬touched offset → values[offset]? = model.values[offset]?)
    (areGood : ∀ value ∈ values, good value) :
    origin.Confined touched good { model with values } := by
  refine ⟨confined.sameOwners, confined.sameBlocks, confined.sameRules,
    sameSize.trans confined.sameSize, ?_, areGood⟩
  intro offset free
  exact (untouched offset free).trans (confined.untouched offset free)

theorem Confined.set (confined : origin.Confined touched good model) {offset : Nat} {value : α}
    (free : touched offset) (isGood : good value) :
    origin.Confined touched good { model with values := model.values.set offset value } := by
  apply confined.replace List.length_set
  · intro other unfree
    have different : offset ≠ other := fun same => unfree (same ▸ free)
    exact List.getElem?_set_ne different
  · intro other member
    rcases List.mem_or_eq_of_mem_set member with old | rfl
    · exact confined.areGood other old
    · exact isGood

section Access

theorem gives_readValue (index : Int) :
    Effect.Gives (origin.Confined touched good) good (readValue index) := by
  refine ⟨Effect.keeps_bind Effect.keeps_get fun _ => Effect.keeps_ofExcept _, ?_⟩
  intro start value finish confined success
  unfold readValue at success
  simp only [Effect.run_bind, Effect.run_get] at success
  exact confined.areGood value (Arena.mem_of_read (Effect.ofExcept_eq_ok_iff.mp success).1)

theorem keeps_write {index : Int} {value : α} (reaches : origin.Reaches touched index)
    (isGood : good value) :
    Effect.Keeps (origin.Confined touched good) (writeValue index value) := by
  intro start confined
  unfold writeValue
  simp only [Effect.run_bind, Effect.run_get]
  unfold Arena.write
  cases resolved : resolvePosition? start.values.length index with
  | none => exact confined
  | some offset =>
      rw [confined.sameSize] at resolved
      exact confined.set (reaches offset resolved) isGood

theorem keeps_commit (index : Int) :
    Effect.Keeps (origin.Confined touched good) (commit index) := by
  refine Effect.keeps_bind (gives_readValue index).1 fun value => Effect.keeps_modify ?_
  exact fun state confined => confined.of_sameArena rfl rfl rfl rfl

/-- What is done with a block that is looked up is done with a block of the original model. -/
theorem keeps_bind_blockAt {β : Type} {position : Int} {next : Block → Action α β}
    (keeps : ∀ block ∈ origin.blocks, Effect.Keeps (origin.Confined touched good) (next block)) :
    Effect.Keeps (origin.Confined touched good) (do
      let block ← Effect.ofExcept ((← get).blockAt position)
      next block) := by
  intro start confined
  rw [Effect.run_bind, Effect.run_get]
  dsimp only
  cases located : start.blockAt position with
  | error fault => exact confined
  | ok block =>
      have member := mem_blocks_of_blockAt located
      rw [confined.sameBlocks] at member
      exact keeps block member start confined

end Access

section Categories

variable [Scalar α]

/-- New members that are good take the place of a block's old ones. -/
theorem keeps_putMembers (permits : origin.Permits touched good) {block : Block}
    (member : block ∈ origin.blocks) {members : List α}
    (count : members.length = block.size.toNat) (areGood : ∀ value ∈ members, good value) :
    Effect.Keeps (origin.Confined touched good) (putMembers block members) := by
  apply Effect.keeps_modify
  intro model confined
  have bounds := permits.laidOut.inside block member
  have nonempty := permits.laidOut.nonempty block member
  rw [← confined.sameSize] at bounds
  apply confined.replace (length_replaceMembers bounds.1 nonempty bounds.2 count)
  · intro offset untouched
    rw [getElem?_replaceMembers bounds.1 nonempty bounds.2 count, if_neg]
    exact fun within => untouched (permits.members block member offset within.1 within.2)
  · intro value placed
    unfold Block.replaceMembers at placed
    rcases List.mem_append.mp placed with before | behind
    · rcases List.mem_append.mp before with taken | new
      · exact confined.areGood value (List.mem_of_mem_take taken)
      · exact areGood value new
    · exact confined.areGood value (List.mem_of_mem_drop behind)

theorem keeps_clearMembers (permits : origin.Permits touched good) {block : Block}
    (member : block ∈ origin.blocks) :
    Effect.Keeps (origin.Confined touched good) (clearMembers block : Action α Unit) := by
  apply keeps_putMembers permits member List.length_replicate
  intro value placed
  rw [List.eq_of_mem_replicate placed]
  exact permits.zero

theorem keeps_clearBlock (permits : origin.Permits touched good) (position : Int) :
    Effect.Keeps (origin.Confined touched good) (clearBlock position : Action α Unit) := by
  unfold clearBlock
  exact keeps_bind_blockAt fun block member => keeps_clearMembers permits member

omit [Scalar α] in
theorem inside_of_variableFor {block : Block} {code index : Int}
    (named : block.variableFor code = .ok (some index)) :
    block.start ≤ index ∧ index < block.stop := by
  by_cases valid : 0 ≤ code ∧ code < block.cardinality
  · obtain ⟨chosen, same, within⟩ := variableFor_of_valid valid
    rw [named] at same
    cases same
    exact within index rfl
  · unfold Block.variableFor at named
    rw [if_neg valid] at named
    cases named

omit [Scalar α] in
theorem reaches_member (members : ∀ block ∈ origin.blocks, ∀ offset : Nat,
      block.start ≤ offset → offset < block.stop → touched offset)
    (laidOut : origin.LaidOut) {block : Block} (member : block ∈ origin.blocks) {index : Int}
    (within : block.start ≤ index ∧ index < block.stop) : origin.Reaches touched index := by
  intro offset resolved
  have lower := (laidOut.inside block member).1
  have same := eq_toNat_of_resolved (by omega) resolved
  exact members block member offset (by omega) (by omega)

theorem keeps_assignCategory (permits : origin.Permits touched good) (position code : Int) :
    Effect.Keeps (origin.Confined touched good)
      (assignCategory position code : Action α Unit) := by
  unfold assignCategory
  refine keeps_bind_blockAt fun block member => ?_
  refine Effect.keeps_bind_of_gives (Effect.gives_ofExcept (block.variableFor code)) fun chosen named => ?_
  refine Effect.keeps_bind (keeps_clearMembers permits member) fun _ => ?_
  cases chosen with
  | none => exact Effect.keeps_pure ()
  | some index =>
      apply keeps_write _ permits.one
      exact reaches_member permits.members permits.laidOut member (inside_of_variableFor named)

theorem keeps_applyAssignment (permits : origin.Permits touched good) (scope codes : List Int) :
    Effect.Keeps (origin.Confined touched good)
      (applyAssignment scope codes : Action α Unit) :=
  Effect.keeps_forM fun _ _ => keeps_assignCategory permits _ _

end Categories

end Model

section Encoding

open Model

variable {origin : Model Float} {touched : Nat → Prop} {good : Float → Prop}
  (permits : origin.Permits touched good)

include permits

theorem Model.keeps_buildTable (rule : Rule Float) :
    Effect.Keeps (origin.Confined touched good) (buildTable rule) :=
  Effect.keeps_of_unchanged fun _ confined =>
    Network.keeps_buildTable (confined.laidOut permits.laidOut) rule

theorem Network.keeps_written :
    Effect.Keeps (origin.Confined touched good) Network.writing :=
  Effect.keeps_of_unchanged fun _ confined =>
    Network.keeps_writing (confined.laidOut permits.laidOut)

end Encoding

section Decoding

namespace Solution

open Model

variable {origin : Model Float} {touched : Nat → Prop} {good : Float → Prop}

theorem keeps_applyCode (permits : origin.Permits touched good) (position : Nat) (code : Int) :
    Effect.Keeps (origin.Confined touched good) (applyCode position code) := by
  refine Effect.keeps_bind Effect.keeps_get fun model => ?_
  refine Effect.keeps_bind (Effect.keeps_ofExcept _) fun block => ?_
  dsimp only
  split
  · exact keeps_assignCategory permits position code
  · exact Effect.keeps_bind (Effect.keeps_throw _) fun _ => keeps_assignCategory permits _ _

theorem keeps_apply (permits : origin.Permits touched good) (codes : List Int) :
    Effect.Keeps (origin.Confined touched good) (apply codes) := by
  refine Effect.keeps_bind Effect.keeps_get fun model => ?_
  dsimp only
  split
  · refine Effect.keeps_bind (Effect.keeps_throw _) fun _ => ?_
    exact Effect.keeps_forM fun _ _ => keeps_applyCode permits _ _
  · exact Effect.keeps_forM fun _ _ => keeps_applyCode permits _ _

theorem keeps_read (permits : origin.Permits touched good) (lines : List String) (task : String) :
    Effect.Keeps (origin.Confined touched good) (read lines task) := by
  refine Effect.keeps_bind (Effect.keeps_ofExcept _) fun codes => ?_
  exact Effect.keeps_bind (keeps_apply permits codes) fun _ => Effect.keeps_pure codes

theorem keeps_readBytes (permits : origin.Permits touched good) (bytes : List UInt8)
    (task : String) : Effect.Keeps (origin.Confined touched good) (readBytes bytes task) :=
  Effect.keeps_bind (Effect.keeps_ofExcept _) fun _ => keeps_read permits _ task

end Solution

end Decoding

section Solving

namespace Solver

open Model

variable {origin : Model Float} {touched : Nat → Prop} {good : Float → Prop} {β : Type}

theorem keeps_of_holds {step : Step β}
    (holds : ∀ model, origin.Confined touched good model → Effect.Keeps (Holds model) step) :
    Effect.Keeps (fun world => origin.Confined touched good world.model) step := by
  intro start confined
  have same : (Effect.final (step start)).model = start.model :=
    holds start.model confined start rfl
  rw [same]
  exact confined

theorem keeps_readContent (permits : origin.Permits touched good)
    (content : Except FileFault ByteArray) (task : String) :
    Effect.Keeps (fun world : World => origin.Confined touched good world.model)
      (match content with
        | .error fault => throw (.file fault)
        | .ok bytes => Step.onModel (Solution.readBytes bytes.toList task)) := by
  cases content with
  | error fault => exact Effect.keeps_throw _
  | ok bytes =>
      exact Effect.keeps_onPart (Solution.keeps_readBytes permits _ _)
        (fun _ confined => confined) fun _ _ _ confined => confined

theorem keeps_readResults (permits : origin.Permits touched good) (config : Config) :
    Effect.Keeps (fun world => origin.Confined touched good world.model) (readResults config) := by
  refine Effect.keeps_bind (Effect.keeps_ofExcept _) fun output => ?_
  refine Effect.keeps_bind Effect.keeps_get fun world => ?_
  dsimp only
  split
  · exact Effect.keeps_throw _
  · exact Effect.keeps_throw _
  · exact keeps_readContent permits _ _

theorem keeps_exchange (permits : origin.Permits touched good) (config : Config)
    (runner : Runner) :
    Effect.Keeps (fun world => origin.Confined touched good world.model)
      (exchange config runner) := by
  refine Effect.keeps_bind (Effect.keeps_ofExcept _) fun path => ?_
  refine Effect.keeps_bind ?_ fun _ => ?_
  · exact keeps_of_holds fun model confined =>
      keeps_writeModelFile (confined.laidOut permits.laidOut) path
  refine Effect.keeps_bind (Effect.keeps_ofExcept _) fun output => ?_
  refine Effect.keeps_bind (keeps_of_holds fun _ _ => keeps_onFiles _) fun _ => ?_
  refine Effect.keeps_bind (keeps_of_holds fun _ _ => keeps_callSolver) fun _ => ?_
  exact keeps_readResults permits config

theorem keeps_infer (permits : origin.Permits touched good) (config : Config) (runner : Runner) :
    Effect.Keeps (fun world => origin.Confined touched good world.model)
      (infer config runner) := by
  refine Effect.keeps_bind (Effect.keeps_ofExcept _) fun work => ?_
  refine Effect.keeps_bind (keeps_of_holds fun _ _ => keeps_ensureDirectories work) fun _ => ?_
  refine Effect.keeps_bind (Effect.keeps_outcome (keeps_exchange permits config runner))
    fun ending => ?_
  dsimp only
  split
  · exact Effect.keeps_bind (keeps_of_holds fun _ _ => keeps_cleanUp) fun _ =>
      Effect.keeps_ofExcept _
  · exact Effect.keeps_ofExcept _

end Solver

end Solving

end HingeField
