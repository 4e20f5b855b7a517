import HingeField.Network
import HingeField.Proofs.Preservation
import HingeField.Proofs.Sequence
import HingeField.Proofs.Tabulation
import HingeField.Proofs.Wording

/-!
What a network text consists of. Main statement: rendering succeeds only if
every scope and every table does, and then the text is the lines of an outline:
four lines at the head, a line for each scope, and three for each table. The
model is left as it was, whether all of the text is written or not.
-/

namespace HingeField.Network

section Frame

variable {model : Model Float}

/-- The draft still holds the model that is being written. -/
def Holds (model : Model Float) (draft : Draft) : Prop :=
  draft.model = model

theorem keeps_write (text : String) : Effect.Keeps (Holds model) (write text) :=
  Effect.keeps_modify fun _ holds => holds

/-- A step on the model of a draft that leaves this model as it was. -/
theorem keeps_onModel {β : Type} {action : Action Float β}
    (keeps : Effect.Keeps (· = model) action) : Effect.Keeps (Holds model) (onModel action) :=
  Effect.keeps_onPart keeps (fun _ holds => holds) fun _ _ _ same => same

theorem keeps_writeScope (rule : Rule Float) : Effect.Keeps (Holds model) (writeScope rule) := by
  refine Effect.keeps_bind (keeps_onModel ?_) fun scope => keeps_write _
  exact Effect.keeps_bind Effect.keeps_get fun _ => Effect.keeps_ofExcept _

theorem keeps_buildTable (laidOut : model.LaidOut) (rule : Rule Float) :
    Effect.Keeps (· = model) (Model.buildTable rule) := by
  intro start same
  rw [same, laidOut.buildTable_eq]
  cases model.table rule with
  | ok table => rfl
  | error fault => rfl

theorem keeps_writeTable (laidOut : model.LaidOut) (rule : Rule Float) :
    Effect.Keeps (Holds model) (writeTable rule) := by
  refine Effect.keeps_bind (keeps_write _) fun _ => ?_
  refine Effect.keeps_bind (keeps_onModel (keeps_buildTable laidOut rule)) fun table => ?_
  exact keeps_write _

theorem keeps_writeModel (laidOut : model.LaidOut) : Effect.Keeps (Holds model) writeModel := by
  refine Effect.keeps_bind Effect.keeps_get fun draft => ?_
  refine Effect.keeps_bind (keeps_write _) fun _ => ?_
  refine Effect.keeps_bind (Effect.keeps_forM fun rule _ => keeps_writeScope rule) fun _ => ?_
  exact Effect.keeps_forM fun rule _ => keeps_writeTable laidOut rule

theorem keeps_writing (laidOut : model.LaidOut) : Effect.Keeps (· = model) writing := by
  rintro start rfl
  have atEnd := keeps_writeModel laidOut { model := start } rfl
  unfold writing
  cases ended : writeModel { model := start } with
  | ok value draft =>
      rw [ended] at atEnd
      exact atEnd
  | error fault draft =>
      rw [ended] at atEnd
      exact atEnd

end Frame

/-- What a network text says. -/
structure Outline where
  cardinalities : List Nat
  scopes : List (List Nat)
  entries : List (List String)
deriving DecidableEq

section Lines

def numberLine (numbers : List Nat) : List Char :=
  Text.parted (numbers.map fun number => (toString number).toList)

/-- The numbers on the line of a scope. -/
def scopeNumbers : List Nat → List Nat
  | [] => []
  | scope => scope.length :: scope

def entryLine (entries : List String) : List Char :=
  Text.spaced (entries.map String.toList)

def entryLines (entries : List String) : List (List Char) :=
  [['\n'], numberLine [entries.length], entryLine entries]

def Outline.lines (outline : Outline) : List (List Char) :=
  ["MARKOV\n".toList, numberLine [outline.cardinalities.length],
      numberLine outline.cardinalities, numberLine [outline.scopes.length]] ++
    outline.scopes.map (fun scope => numberLine (scopeNumbers scope)) ++
    outline.entries.flatMap entryLines

theorem scopeLine_eq (scope : List Nat) :
    (scopeLine scope).toList = numberLine (scopeNumbers scope) := by
  cases scope with
  | nil => rfl
  | cons first rest =>
      refine (Text.parted_eq _).trans ?_
      unfold numberLine scopeNumbers
      rw [List.map_map]
      rfl

theorem potentialLine_eq (potentials : List Float) :
    (potentialLine potentials).toList = entryLine (potentials.map Decimal.realText) := by
  unfold potentialLine entryLine Text.spaced
  rw [String.toList_append, String.toList_join, List.flatMap_map, List.flatMap_map,
    List.flatMap_map]
  simp only [String.toList_append]
  rfl

theorem numberLine_single (number : Nat) : numberLine [number] = (toString number ++ "\n").toList := by
  rw [String.toList_append]
  rfl

end Lines

section Steps

variable {β : Type} {model : Model Float} {finish : Draft}

/-- A step that writes the text of a computed value, and fails where there is none. -/
def WritesOf (model : Model Float) (shown : β → String) (computed : Except Fault β)
    (step : Writer Unit) : Prop :=
  ∀ text finish, step { model, text } = .ok () finish ↔
    ∃ value, computed = .ok value ∧ finish = { model, text := text ++ shown value }

theorem writesOf_forM {α : Type} {shown : β → String} {compute : α → Except Fault β}
    {step : α → Writer Unit} (writes : ∀ item, WritesOf model shown (compute item) (step item))
    (items : List α) :
    WritesOf model (fun values => String.join (values.map shown)) (items.mapM compute)
      (items.forM step) := by
  induction items with
  | nil =>
      intro text finish
      have unchanged : text ++ String.join (([] : List β).map shown) = text := by
        rw [List.map_nil, String.join_nil, String.append_empty]
      constructor
      · intro success
        cases success
        exact ⟨[], rfl, by rw [unchanged]⟩
      · rintro ⟨values, none, rfl⟩
        cases mapM_nil_eq_ok_iff.mp none
        dsimp only
        rw [unchanged]
        rfl
  | cons item items ih =>
      intro text finish
      have joined (value : β) (values : List β) :
          text ++ shown value ++ String.join (values.map shown) =
            text ++ String.join ((value :: values).map shown) := by
        rw [List.map_cons, String.join_cons, String.append_assoc]
      refine Effect.bind_eq_ok_iff.trans ?_
      constructor
      · rintro ⟨_, middle, first, others⟩
        obtain ⟨value, computed, rfl⟩ := (writes item text middle).mp first
        obtain ⟨values, computedAll, rfl⟩ := (ih _ finish).mp others
        refine ⟨value :: values,
          mapM_cons_eq_ok_iff.mpr ⟨value, values, computed, computedAll, rfl⟩, ?_⟩
        dsimp only
        rw [joined]
      · rintro ⟨all, computedAll, rfl⟩
        obtain ⟨value, values, computed, others, rfl⟩ := mapM_cons_eq_ok_iff.mp computedAll
        refine ⟨(), _, (writes item text _).mpr ⟨value, computed, rfl⟩,
          (ih _ _).mpr ⟨values, others, ?_⟩⟩
        dsimp only
        rw [joined]

theorem onModel_eq_ok_iff {action : Action Float β} {computed : Except Fault β} {value : β}
    (same : action model = Effect.ofExcept computed model) {text : String} :
    onModel action { model, text } = .ok value finish ↔
      computed = .ok value ∧ finish = { model, text } := by
  unfold onModel Effect.onPart
  rw [same]
  cases computed with
  | error fault =>
      constructor
      · intro impossible
        cases impossible
      · rintro ⟨impossible, _⟩
        cases impossible
  | ok result =>
      constructor
      · intro success
        cases success
        exact ⟨rfl, rfl⟩
      · rintro ⟨same, rfl⟩
        cases same
        rfl

theorem writesOf_writeScope (rule : Rule Float) :
    WritesOf model scopeLine (model.scopeOf rule) (writeScope rule) := by
  intro text finish
  refine Effect.bind_eq_ok_iff.trans ?_
  constructor
  · rintro ⟨scope, middle, found, written⟩
    obtain ⟨computed, rfl⟩ := (onModel_eq_ok_iff rfl).mp found
    cases written
    exact ⟨scope, computed, rfl⟩
  · rintro ⟨scope, computed, rfl⟩
    exact ⟨scope, _, (onModel_eq_ok_iff rfl).mpr ⟨computed, rfl⟩, rfl⟩

theorem writesOf_writeTable (laidOut : model.LaidOut) (rule : Rule Float) :
    WritesOf model (fun table => "\n" ++ tableLines table) (model.table rule)
      (writeTable rule) := by
  intro text finish
  have built := laidOut.buildTable_eq rule
  refine Effect.bind_eq_ok_iff.trans ?_
  constructor
  · rintro ⟨_, separated, separator, rest⟩
    cases separator
    obtain ⟨table, middle, found, written⟩ := Effect.bind_eq_ok_iff.mp rest
    obtain ⟨computed, rfl⟩ := (onModel_eq_ok_iff built).mp found
    cases written
    refine ⟨table, computed, ?_⟩
    dsimp only
    rw [String.append_assoc]
  · rintro ⟨table, computed, rfl⟩
    refine ⟨(), _, rfl, Effect.bind_eq_ok_iff.mpr
      ⟨table, _, (onModel_eq_ok_iff built).mpr ⟨computed, rfl⟩, ?_⟩⟩
    dsimp only
    rw [← String.append_assoc]
    rfl

/-- The text of a model with its scopes and tables. -/
def textOf (model : Model Float) (scopes : List (List Nat)) (tables : List PotentialTable) :
    String :=
  header model ++ String.join (scopes.map scopeLine) ++
    String.join (tables.map fun table => "\n" ++ tableLines table)

theorem writeModel_eq_ok_iff (laidOut : model.LaidOut) :
    writeModel { model } = .ok () finish ↔
      ∃ scopes tables, model.rules.mapM model.scopeOf = .ok scopes ∧
        model.rules.mapM model.table = .ok tables ∧
        finish = { model, text := textOf model scopes tables } := by
  have headed : writeModel { model } =
      (model.rules.forM writeScope >>= fun _ => model.rules.forM writeTable)
        { model, text := "" ++ header model } := rfl
  rw [headed, String.empty_append]
  refine Effect.bind_eq_ok_iff.trans ?_
  constructor
  · rintro ⟨_, middle, first, second⟩
    obtain ⟨scopes, found, rfl⟩ := (writesOf_forM writesOf_writeScope _ _ _).mp first
    obtain ⟨tables, built, rfl⟩ :=
      (writesOf_forM (writesOf_writeTable laidOut) _ _ _).mp second
    exact ⟨scopes, tables, found, built, rfl⟩
  · rintro ⟨scopes, tables, found, built, rfl⟩
    exact ⟨(), _, (writesOf_forM writesOf_writeScope _ _ _).mpr ⟨scopes, found, rfl⟩,
      (writesOf_forM (writesOf_writeTable laidOut) _ _ _).mpr ⟨tables, built, rfl⟩⟩

theorem run_render (model : Model Float) :
    render model =
      match writeModel { model } with
      | .ok () draft => .ok draft.text draft.model
      | .error fault draft => .error fault draft.model := by
  unfold render writing
  refine (Effect.run_bind _ _ _).trans ?_
  cases writeModel { model } with
  | ok value draft => rfl
  | error fault draft => rfl

/-- Rendering succeeds exactly if every scope and every table does. -/
theorem render_eq_ok_iff (laidOut : model.LaidOut) {text : String} {after : Model Float} :
    render model = .ok text after ↔
      ∃ scopes tables, model.rules.mapM model.scopeOf = .ok scopes ∧
        model.rules.mapM model.table = .ok tables ∧
        text = textOf model scopes tables ∧ after = model := by
  rw [run_render]
  constructor
  · intro rendered
    cases written : writeModel { model } with
    | error fault draft =>
        rw [written] at rendered
        cases rendered
    | ok value draft =>
        rw [written] at rendered
        obtain ⟨scopes, tables, found, built, rfl⟩ := (writeModel_eq_ok_iff laidOut).mp written
        cases rendered
        exact ⟨scopes, tables, found, built, rfl, rfl⟩
  · rintro ⟨scopes, tables, found, built, rfl, rfl⟩
    rw [(writeModel_eq_ok_iff laidOut).mpr ⟨scopes, tables, found, built, rfl⟩]

end Steps

section Outlines

variable {model : Model Float} {scopes : List (List Nat)}

/-- The outline of a model with its scopes and tables. -/
def outlineOf (model : Model Float) (scopes : List (List Nat)) (tables : List PotentialTable) :
    Outline :=
  { cardinalities := model.cardinalities.map Int.toNat
    scopes
    entries := tables.map fun table => table.potentials.map Decimal.realText }

theorem tableLines_eq (table : PotentialTable) :
    ("\n" ++ tableLines table).toList =
      (entryLines (table.potentials.map Decimal.realText)).flatten := by
  unfold tableLines entryLines
  rw [numberLine_single, List.length_map, ← potentialLine_eq]
  simp only [String.toList_append, List.flatten_cons, List.flatten_nil, List.append_nil]
  rfl

/-- A cardinality is written as a natural number. -/
theorem toString_cardinalities (laidOut : model.LaidOut) :
    model.cardinalities.map toString = (model.cardinalities.map Int.toNat).map toString := by
  rw [List.map_map]
  refine List.map_congr_left fun cardinality member => ?_
  obtain ⟨block, listed, rfl⟩ := List.mem_map.mp member
  have positive := Model.cardinality_pos laidOut listed
  obtain ⟨size, same⟩ := Int.eq_ofNat_of_zero_le positive.le
  rw [Function.comp_apply, same]
  rfl

theorem header_eq (laidOut : model.LaidOut) :
    (header model).toList =
      ["MARKOV\n".toList, numberLine [(model.cardinalities.map Int.toNat).length],
        numberLine (model.cardinalities.map Int.toNat), numberLine [model.rules.length]].flatten := by
  have blocks : (model.cardinalities.map Int.toNat).length = model.blocks.length := by
    rw [List.length_map, Model.cardinalities, List.length_map]
  have cardinalities : (String.intercalate " " (model.cardinalities.map toString) ++ "\n").toList =
      numberLine (model.cardinalities.map Int.toNat) := by
    rw [Text.parted_eq, toString_cardinalities laidOut, List.map_map]
    rfl
  unfold header
  rw [numberLine_single, numberLine_single, ← cardinalities, blocks]
  simp only [String.toList_append, List.flatten_cons, List.flatten_nil, List.append_nil,
    List.append_assoc]

/-- The rendered text is the lines of the outline. -/
theorem toList_render (laidOut : model.LaidOut)
    (found : model.rules.mapM model.scopeOf = .ok scopes) (tables : List PotentialTable) :
    (textOf model scopes tables).toList = (outlineOf model scopes tables).lines.flatten := by
  have count : scopes.length = model.rules.length := length_of_mapM found
  unfold textOf Outline.lines
  rw [String.toList_append, String.toList_append, header_eq laidOut, List.flatten_append,
    List.flatten_append, String.toList_join, String.toList_join, List.flatMap_map,
    List.flatMap_map]
  simp only [scopeLine_eq, tableLines_eq, outlineOf, count, List.flatMap_def, List.map_map,
    List.flatten_flatten]
  rfl

end Outlines

end HingeField.Network
