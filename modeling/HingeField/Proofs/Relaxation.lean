import HingeField.Proofs.Encoding
import HingeField.Proofs.History
import HingeField.Proofs.NetworkReading
import HingeField.Proofs.TwoRuns

/-!
Encoding and the relaxed states of blocks. A table is evaluated over arenas in
which every block that its rule can see is in the state of a category, so what
stood in these blocks before does not show. Main statements: models with the
same layout, rules and free values have the same tables and are written alike,
whether this succeeds or fails; and no operation that leaves the free variables
alone changes how a model is written.
-/

namespace HingeField

namespace Model

variable {α : Type}

/-- The same layout and rules, and the same value in every cell that no block owns. -/
structure SameFree (first second : Model α) : Prop where
  sameOwners : second.owners = first.owners
  sameBlocks : second.blocks = first.blocks
  sameRules : second.rules = first.rules
  sameSize : second.values.length = first.values.length
  free : ∀ offset : Nat, first.owners[offset]? = some none →
    second.values[offset]? = first.values[offset]?

def IsMember (model : Model α) (offset : Nat) : Prop :=
  ∃ position, model.owners[offset]? = some (some position)

variable {first second : Model α} {rule : Rule α} {scope : List Nat}

namespace SameFree

theorem laidOut (same : first.SameFree second) (laidOut : first.LaidOut) : second.LaidOut :=
  laidOut.of_sameLayout same.sameOwners same.sameBlocks same.sameSize

theorem of_confined {good : α → Prop} (confined : first.Confined first.IsMember good second) :
    first.SameFree second := by
  refine ⟨confined.sameOwners, confined.sameBlocks, confined.sameRules, confined.sameSize, ?_⟩
  intro offset free
  apply confined.untouched
  rintro ⟨position, owned⟩
  rw [free] at owned
  cases owned

theorem scopeOf_eq (same : first.SameFree second) (rule : Rule α) :
    second.scopeOf rule = first.scopeOf rule := by
  unfold scopeOf
  rw [blockOf_congr same.sameOwners]

theorem chosenAt_eq (same : first.SameFree second) (choice : Choice) (offset : Nat) :
    second.chosenAt choice offset = first.chosenAt choice offset := by
  unfold chosenAt
  rw [same.sameOwners, same.sameBlocks]

/-- Once every block of its scope has a code, a rule reads the same in both models. -/
theorem agreeAt_settled [Scalar α] (same : first.SameFree second) (laidOut : first.LaidOut)
    (found : first.scopeOf rule = .ok scope) {choice : Choice}
    (coded : ∀ position ∈ scope, choice position ≠ none) :
    Arena.AgreeAt rule.atoms (second.settled choice) (first.settled choice) := by
  have sameLength : (second.settled choice).length = (first.settled choice).length := by
    rw [length_settled, length_settled, same.sameSize]
  refine ⟨sameLength, fun atom member => Arena.read_congr sameLength ?_⟩
  intro offset resolved
  obtain ⟨owner, owned, listed⟩ := mem_scope_of_owner found member
  rw [length_settled, same.sameSize, ← laidOut.ownerPerValue] at resolved
  have ownerAt := getElem?_owners_of_blockOf owned resolved
  rw [getElem?_settled, getElem?_settled, same.chosenAt_eq]
  cases owner with
  | none => rw [same.free offset ownerAt]
  | some position =>
      have holder : (first.owners[offset]?).join = some position := by rw [ownerAt]; rfl
      obtain ⟨block, inModel, within⟩ := laidOut.block_of_owner holder
      obtain ⟨code, chosen⟩ := Option.ne_none_iff_exists'.mp (coded position (listed position rfl))
      have inside := (laidOut.bounds inModel).2
      have small : offset < first.values.length := by omega
      have smallToo : offset < second.values.length := by rw [same.sameSize]; exact small
      rw [chosenAt_of_owner holder inModel, chosen, List.getElem?_eq_getElem small,
        List.getElem?_eq_getElem smallToo]
      rfl

end SameFree

section Tables

variable {first second : Model Float} {rule : Rule Float} {scope : List Nat} {blocks : List Block}

theorem SameFree.entry_eq (same : first.SameFree second) (laidOut : first.LaidOut)
    (isLocal : rule.IsLocal) (scopeFound : first.scopeOf rule = .ok scope)
    (found : first.blocksAt (scope.map Int.ofNat) = .ok blocks) {digits : List Nat}
    (assigned : Assignment.IsAssignment (blocks.map (·.cardinality)) digits) :
    second.entry rule scope digits = first.entry rule scope digits := by
  have count : scope.length ≤ (digits.map Int.ofNat).length := by
    rw [List.length_map, assigned.length_eq, List.length_map, length_of_blocksAt found]
  have coded : ∀ position ∈ scope,
      Choice.assigned (scope.zip (digits.map Int.ofNat)) position ≠ none := by
    intro position member uncoded
    rw [Choice.assigned_eq_none_iff, List.map_fst_zip count] at uncoded
    exact uncoded member
  have sameExponent := isLocal.logPotential_congr (same.agreeAt_settled laidOut scopeFound coded)
  unfold entry
  dsimp only
  rw [sameExponent]

theorem SameFree.table_eq (same : first.SameFree second) (laidOut : first.LaidOut)
    (isLocal : rule.IsLocal) : second.table rule = first.table rule := by
  unfold table
  rw [same.scopeOf_eq]
  cases scopeFound : first.scopeOf rule with
  | error fault => rw [Effect.error_bind, Effect.error_bind]
  | ok scope =>
      rw [Effect.ok_bind, Effect.ok_bind, blocksAt_congr same.sameBlocks]
      cases found : first.blocksAt (scope.map Int.ofNat) with
      | error fault => rw [Effect.error_bind, Effect.error_bind]
      | ok blocks =>
          have positive : ∀ cardinality ∈ blocks.map (·.cardinality), 0 < cardinality :=
            fun cardinality member => cardinality_pos_of_blocksAt laidOut found member
          have sameEntries :
              (Assignment.all (blocks.map (·.cardinality))).mapM (second.entry rule scope) =
                (Assignment.all (blocks.map (·.cardinality))).mapM (first.entry rule scope) :=
            mapM_congr fun digits member => same.entry_eq laidOut isLocal scopeFound found
              (Assignment.isAssignment_of_mem_all positive member)
          rw [Effect.ok_bind, Effect.ok_bind]
          dsimp only
          rw [sameEntries]

end Tables

end Model

namespace Network

open Effect

variable {first second : Model Float}

/-- Drafts of two models that have the same text so far. -/
def SameText (first second : Model Float) (draft other : Draft) : Prop :=
  draft.model = first ∧ other.model = second ∧ other.text = draft.text

theorem relates_write (text : String) :
    Relates (SameText first second) (SameText first second) (SameText first second)
      (write text) := by
  rintro draft other ⟨holds, otherHolds, sameText⟩
  exact ⟨rfl, holds, otherHolds, congrArg (· ++ text) sameText⟩

theorem relates_onModel {β : Type} {action : Action Float β} {computed : Except Fault β}
    (onFirst : action first = Effect.ofExcept computed first)
    (onSecond : action second = Effect.ofExcept computed second) :
    Relates (SameText first second) (SameText first second) (SameText first second)
      (onModel action) := by
  rintro draft other ⟨rfl, rfl, sameText⟩
  unfold onModel onPart
  rw [onFirst, onSecond]
  cases computed with
  | ok value => exact ⟨rfl, rfl, rfl, sameText⟩
  | error fault => exact ⟨rfl, rfl, rfl, sameText⟩

theorem relates_writeScope (same : first.SameFree second) (rule : Rule Float) :
    Relates (SameText first second) (SameText first second) (SameText first second)
      (writeScope rule) := by
  have onFirst : (do Effect.ofExcept ((← get).scopeOf rule) : Action Float (List Nat)) first =
      Effect.ofExcept (first.scopeOf rule) first := rfl
  have onSecond : (do Effect.ofExcept ((← get).scopeOf rule) : Action Float (List Nat)) second =
      Effect.ofExcept (first.scopeOf rule) second := by
    rw [← same.scopeOf_eq rule]
    rfl
  exact relates_bind (relates_onModel onFirst onSecond) fun scope => relates_write _

theorem relates_writeTable (same : first.SameFree second) (laidOut : first.LaidOut)
    {rule : Rule Float} (isLocal : rule.IsLocal) :
    Relates (SameText first second) (SameText first second) (SameText first second)
      (writeTable rule) := by
  have onSecond := (same.laidOut laidOut).buildTable_eq rule
  rw [same.table_eq laidOut isLocal] at onSecond
  refine relates_bind (relates_write "\n") fun _ => ?_
  exact relates_bind (relates_onModel (laidOut.buildTable_eq rule) onSecond) fun table =>
    relates_write _

theorem header_congr (same : first.SameFree second) : header second = header first := by
  unfold header Model.cardinalities
  rw [same.sameBlocks, same.sameRules]

theorem writeModel_congr (same : first.SameFree second) (laidOut : first.LaidOut)
    (areLocal : ∀ rule ∈ first.rules, rule.IsLocal) :
    Matches (SameText first second) (SameText first second)
      (writeModel { model := first }) (writeModel { model := second }) := by
  -- the header and the lists of rules are read off the models, and are the same for both
  have body : Relates (SameText first second) (SameText first second) (SameText first second)
      (write (header first) >>= fun _ => first.rules.forM writeScope >>= fun _ =>
        first.rules.forM writeTable) := by
    refine relates_bind (relates_write _) fun _ => ?_
    refine relates_bind (relates_forM fun rule _ => relates_writeScope same rule) fun _ => ?_
    exact relates_forM fun rule member => relates_writeTable same laidOut (areLocal rule member)
  have onSecond : writeModel { model := second } =
      (write (header second) >>= fun _ => second.rules.forM writeScope >>= fun _ =>
        second.rules.forM writeTable) { model := second } := rfl
  rw [onSecond, header_congr same, same.sameRules]
  exact body { model := first } { model := second } ⟨rfl, rfl, rfl⟩

/-- Both models are written with the same text and the same fault, and stay as they were. -/
def WrittenAlike (first second : Model Float) : Prop :=
  ∃ text fault, writing first = .ok (text, fault) first ∧ writing second = .ok (text, fault) second

theorem writtenAlike_of_sameFree (same : first.SameFree second) (laidOut : first.LaidOut)
    (areLocal : ∀ rule ∈ first.rules, rule.IsLocal) : WrittenAlike first second := by
  unfold WrittenAlike writing
  rcases (writeModel_congr same laidOut areLocal).cases with
    ⟨_, draft, other, onFirst, onSecond, rfl, rfl, sameText⟩ |
    ⟨fault, draft, other, onFirst, onSecond, rfl, rfl, sameText⟩
  · refine ⟨draft.text, none, ?_, ?_⟩
    · rw [onFirst]
    · rw [onSecond, ← sameText]
  · refine ⟨draft.text, some fault, ?_, ?_⟩
    · rw [onFirst]
    · rw [onSecond, ← sameText]

theorem WrittenAlike.render (alike : WrittenAlike first second) :
    ∃ rendered : Except Fault String,
      render first = Effect.ofExcept rendered first ∧
        render second = Effect.ofExcept rendered second := by
  obtain ⟨text, fault, onFirst, onSecond⟩ := alike
  unfold Network.render
  rw [run_bind, run_bind, onFirst, onSecond]
  cases fault with
  | none => exact ⟨.ok text, rfl, rfl⟩
  | some fault => exact ⟨.error fault, rfl, rfl⟩

end Network

open Model

/-- The operation appends nothing, and of the arena it can only change members of blocks. -/
structure Operation.IsRelaxing (model : Model Float) (operation : Operation) : Prop where
  keepsSize : operation.appends = false
  keepsFree : operation.restores = false
  reaches : Rounding.ReachesAll model model.IsMember operation.indices

section Operations

variable {origin : Model Float}

theorem permits_members (laidOut : origin.LaidOut) :
    origin.Permits origin.IsMember fun _ => True := by
  refine ⟨laidOut, ?_, trivial, trivial, fun _ _ => trivial⟩
  intro block member offset lower upper
  obtain ⟨position, found⟩ := List.getElem?_of_mem member
  exact ⟨position, (laidOut.owned offset position).mpr ⟨block, found, lower, upper⟩⟩

theorem Operation.IsRelaxing.keeps {operation : Operation}
    (relaxing : operation.IsRelaxing origin) (laidOut : origin.LaidOut) :
    Effect.Keeps (Session.IsConfined origin origin.IsMember fun _ => True) operation.run := by
  refine operation.keeps_run relaxing.keepsSize (permits_members laidOut) (fun _ _ _ => trivial)
    relaxing.reaches ?_ fun _ _ => trivial
  intro restores
  rw [relaxing.keepsFree] at restores
  cases restores

theorem Session.confined_after (laidOut : origin.LaidOut) {operations : List Operation}
    (relaxing : ∀ operation ∈ operations, operation.IsRelaxing origin) {session : Session}
    (confined : session.IsConfined origin origin.IsMember fun _ => True) :
    (session.after operations).IsConfined origin origin.IsMember fun _ => True := by
  induction operations generalizing session with
  | nil => exact confined
  | cons operation operations ih =>
      have step := (relaxing operation List.mem_cons_self).keeps laidOut session confined
      exact ih (fun other member => relaxing other (List.mem_cons_of_mem operation member)) step

end Operations

/-- How a model is written does not depend on the values in its blocks: models that differ in
members of blocks only are written alike, and so is a model before and after any operations that
change members of blocks only, whether these succeed or fail. -/
theorem encoding_ignores_block_members {model : Model Float} (laidOut : model.LaidOut)
    (areLocal : ∀ rule ∈ model.rules, rule.IsLocal) :
    (∀ other, model.SameFree other →
      Network.WrittenAlike model other ∧
        ∃ rendered : Except Fault String,
          Network.render model = Effect.ofExcept rendered model ∧
            Network.render other = Effect.ofExcept rendered other) ∧
    (∀ session : Session, session.model = model → ∀ operations : List Operation,
      (∀ operation ∈ operations, operation.IsRelaxing model) →
        model.SameFree (session.after operations).model ∧
          Network.WrittenAlike model (session.after operations).model ∧
          ∃ rendered : Except Fault String,
            Network.render model = Effect.ofExcept rendered model ∧
              Network.render (session.after operations).model =
                Effect.ofExcept rendered (session.after operations).model) := by
  have alike : ∀ other, model.SameFree other → Network.WrittenAlike model other :=
    fun other same => Network.writtenAlike_of_sameFree same laidOut areLocal
  refine ⟨fun other same => ⟨alike other same, (alike other same).render⟩, ?_⟩
  rintro session rfl operations relaxing
  have confined : (session.after operations).IsConfined session.model session.model.IsMember
      fun _ => True :=
    Session.confined_after laidOut relaxing
      ⟨confined_self fun _ _ => trivial, fun _ _ _ _ => trivial⟩
  have same := SameFree.of_confined confined.model
  exact ⟨same, alike _ same, (alike _ same).render⟩

section Switch

/-- The switch with its block in a state that no category code puts it in. -/
def relaxedSwitch : Model Float :=
  { switchModel with values := [0.25, 0.75] }

theorem sameFree_relaxedSwitch : switchModel.SameFree relaxedSwitch := by
  refine ⟨rfl, rfl, rfl, rfl, ?_⟩
  intro offset free
  -- both variables of the switch are members of its block
  have owned : switchModel.owners = [some 0, some 0] := rfl
  rw [owned] at free
  match offset with
  | 0 => cases free
  | 1 => cases free
  | offset + 2 => cases free

theorem isRelaxing_setValue_switch (value : Float) :
    (Operation.setValue 1 value).IsRelaxing switchModel := by
  refine ⟨rfl, rfl, ?_⟩
  intro index member offset resolved
  rw [List.mem_singleton.mp member] at resolved
  cases resolved
  exact ⟨0, rfl⟩

theorem encoding_ignores_block_members_switch :
    switchModel.LaidOut ∧ (∀ rule ∈ switchModel.rules, rule.IsLocal) ∧
      Network.render relaxedSwitch =
        .ok "MARKOV\n1\n2\n1\n1 0\n\n2\n 1.0 0.0\n" relaxedSwitch ∧
      Network.WrittenAlike switchModel
        (({ model := switchModel } : Session).after
          [.setValue 1 0.5, .assignCategory 0 1, .applySolution [7]]).model := by
  have areLocal : ∀ rule ∈ switchModel.rules, rule.IsLocal := by
    intro rule member custom form
    rw [List.mem_singleton.mp member] at form
    cases form
  have plain : ∀ operation ∈ [Operation.setValue 1 0.5, .assignCategory 0 1, .applySolution [7]],
      operation.IsRelaxing switchModel := by
    intro operation member
    rcases List.mem_cons.mp member with rfl | member
    · exact isRelaxing_setValue_switch 0.5
    rcases List.mem_cons.mp member with rfl | member
    · exact ⟨rfl, rfl, fun index none => absurd none List.not_mem_nil⟩
    · rw [List.mem_singleton.mp member]
      exact ⟨rfl, rfl, fun index none => absurd none List.not_mem_nil⟩
  obtain ⟨models, runs⟩ := encoding_ignores_block_members laidOut_switchModel areLocal
  refine ⟨laidOut_switchModel, areLocal, ?_, (runs _ rfl _ plain).2.1⟩
  obtain ⟨rendered, onSwitch, onRelaxed⟩ := (models relaxedSwitch sameFree_relaxedSwitch).2
  rw [Network.render_switchModel] at onSwitch
  obtain ⟨text, _⟩ := Effect.ofExcept_eq_ok_iff.mp onSwitch.symm
  rw [onRelaxed, text]
  rfl

end Switch

end HingeField
