import HingeField.Proofs.Encoding
import HingeField.Proofs.Transcript

/-!
Network texts that are left unfinished. Scopes are written before any table is
built, and the table of each rule is announced by an empty line. Main
statement: building and writing leave the model as it was at every end, and
the text that has been written when a table fails holds all scopes, the tables
before the failed one, and its empty line.
-/

namespace HingeField

namespace Network

variable {model : Model Float} {finish : Draft} {fault : Fault}

theorem onModel_eq_error_iff {β : Type} {action : Action Float β} {computed : Except Fault β}
    (same : action model = Effect.ofExcept computed model) {text : String} :
    onModel action { model, text } = .error fault finish ↔
      computed = .error fault ∧ finish = { model, text } := by
  unfold onModel Effect.onPart
  rw [same]
  cases computed with
  | ok value =>
      constructor
      · intro impossible
        cases impossible
      · rintro ⟨impossible, _⟩
        cases impossible
  | error early =>
      constructor
      · intro failure
        cases failure
        exact ⟨rfl, rfl⟩
      · rintro ⟨same, rfl⟩
        cases same
        rfl

/-- Nothing is written of a scope that is not found. -/
theorem writeScope_eq_error_iff {rule : Rule Float} {text : String} :
    writeScope rule { model, text } = .error fault finish ↔
      model.scopeOf rule = .error fault ∧ finish = { model, text } := by
  refine Effect.bind_eq_error_iff.trans ?_
  constructor
  · rintro (failure | ⟨scope, middle, _, impossible⟩)
    · exact (onModel_eq_error_iff rfl).mp failure
    · cases impossible
  · intro failure
    exact Or.inl ((onModel_eq_error_iff rfl).mpr failure)

/-- Of a table that is not built only the empty line before it is written. -/
theorem writeTable_eq_error_iff (laidOut : model.LaidOut) {rule : Rule Float} {text : String} :
    writeTable rule { model, text } = .error fault finish ↔
      model.table rule = .error fault ∧ finish = { model, text := text ++ "\n" } := by
  have built := laidOut.buildTable_eq rule
  refine Effect.bind_eq_error_iff.trans ?_
  constructor
  · rintro (impossible | ⟨_, middle, separated, failure⟩)
    · cases impossible
    · cases separated
      rcases Effect.bind_eq_error_iff.mp failure with failed | ⟨table, _, _, impossible⟩
      · exact (onModel_eq_error_iff built).mp failed
      · cases impossible
  · intro failure
    exact Or.inr ⟨⟨⟩, _, rfl, Effect.bind_eq_error_iff.mpr
      (Or.inl ((onModel_eq_error_iff built).mpr failure))⟩

/-- The writing has ended at a rule whose scope cannot be found. -/
def EndsAtScope (model : Model Float) (text : String) (fault : Fault) (finish : Draft) : Prop :=
  ∃ before rule after scopes, model.rules = before ++ rule :: after ∧
    before.mapM model.scopeOf = .ok scopes ∧ model.scopeOf rule = .error fault ∧
    finish = { model, text := text ++ header model ++ String.join (scopes.map scopeLine) }

/-- The writing has ended at a rule whose table cannot be built. -/
def EndsAtTable (model : Model Float) (text : String) (fault : Fault) (finish : Draft) : Prop :=
  ∃ before rule after scopes tables, model.rules = before ++ rule :: after ∧
    model.rules.mapM model.scopeOf = .ok scopes ∧
    before.mapM Model.buildTable model = .ok tables model ∧
    Model.buildTable rule model = .error fault model ∧
    finish = { model, text := text ++ textOf model scopes tables ++ "\n" }

theorem scopes_eq_error_iff {text : String} :
    model.rules.forM writeScope { model, text := text ++ header model } = .error fault finish ↔
      EndsAtScope model text fault finish := by
  refine Effect.forM_eq_error_iff.trans ?_
  constructor
  · rintro ⟨before, rule, after, middle, split, passed, failed⟩
    obtain ⟨scopes, found, rfl⟩ := (writesOf_forM writesOf_writeScope before _ _).mp passed
    obtain ⟨missing, rfl⟩ := writeScope_eq_error_iff.mp failed
    exact ⟨before, rule, after, scopes, split, found, missing, rfl⟩
  · rintro ⟨before, rule, after, scopes, split, found, missing, rfl⟩
    exact ⟨before, rule, after, _, split,
      (writesOf_forM writesOf_writeScope before _ _).mpr ⟨scopes, found, rfl⟩,
      writeScope_eq_error_iff.mpr ⟨missing, rfl⟩⟩

theorem tables_eq_error_iff (laidOut : model.LaidOut) {written : String} :
    model.rules.forM writeTable { model, text := written } = .error fault finish ↔
      ∃ before rule after tables, model.rules = before ++ rule :: after ∧
        before.mapM Model.buildTable model = .ok tables model ∧
        Model.buildTable rule model = .error fault model ∧
        finish = { model, text := written ++
          String.join (tables.map fun table => "\n" ++ tableLines table) ++ "\n" } := by
  refine Effect.forM_eq_error_iff.trans ?_
  simp only [laidOut.mapM_buildTable_eq, laidOut.buildTable_eq]
  constructor
  · rintro ⟨before, rule, after, middle, split, passed, failed⟩
    obtain ⟨tables, built, rfl⟩ :=
      (writesOf_forM (writesOf_writeTable laidOut) before _ _).mp passed
    obtain ⟨refused, rfl⟩ := (writeTable_eq_error_iff laidOut).mp failed
    exact ⟨before, rule, after, tables, split, by rw [built]; rfl, by rw [refused]; rfl, rfl⟩
  · rintro ⟨before, rule, after, tables, split, built, refused, rfl⟩
    refine ⟨before, rule, after, _, split,
      (writesOf_forM (writesOf_writeTable laidOut) before _ _).mpr
        ⟨tables, (Effect.ofExcept_eq_ok_iff.mp built).1, rfl⟩,
      (writeTable_eq_error_iff laidOut).mpr ⟨?_, rfl⟩⟩
    cases computed : model.table rule with
    | ok table =>
        rw [computed] at refused
        cases refused
    | error early =>
        rw [computed] at refused
        cases refused
        rfl

/-- Every way in which writing fails, with the text that has been written by then. -/
theorem writeModel_eq_error_iff (laidOut : model.LaidOut) {text : String} :
    writeModel { model, text } = .error fault finish ↔
      EndsAtScope model text fault finish ∨ EndsAtTable model text fault finish := by
  have headed : writeModel { model, text } =
      (model.rules.forM writeScope >>= fun _ => model.rules.forM writeTable)
        { model, text := text ++ header model } := rfl
  have joined (scopes : List (List Nat)) (tables : List PotentialTable) :
      text ++ header model ++ String.join (scopes.map scopeLine) ++
          String.join (tables.map fun table => "\n" ++ tableLines table) =
        text ++ textOf model scopes tables := by
    unfold textOf
    simp only [String.append_assoc]
  rw [headed]
  refine Effect.bind_eq_error_iff.trans (or_congr scopes_eq_error_iff ?_)
  constructor
  · rintro ⟨_, middle, passed, failed⟩
    obtain ⟨scopes, found, rfl⟩ := (writesOf_forM writesOf_writeScope _ _ _).mp passed
    obtain ⟨before, rule, after, tables, split, built, refused, rfl⟩ :=
      (tables_eq_error_iff laidOut).mp failed
    exact ⟨before, rule, after, scopes, tables, split, found, built, refused, by rw [joined]⟩
  · rintro ⟨before, rule, after, scopes, tables, split, found, built, refused, rfl⟩
    exact ⟨⟨⟩, _, (writesOf_forM writesOf_writeScope _ _ _).mpr ⟨scopes, found, rfl⟩,
      (tables_eq_error_iff laidOut).mpr
        ⟨before, rule, after, tables, split, built, refused, by rw [joined]⟩⟩

/-- Building tables and writing texts leaves all of the model as it was, however it ends; and when
the table of a rule cannot be built, the header, all scopes, the tables of the rules before it and
one empty line have been written. -/
theorem encoding_leaves_model (laidOut : model.LaidOut) :
    (∀ rule, Effect.final (Model.buildTable rule model) = model) ∧
      (∀ text, (Effect.final (writeModel { model, text })).model = model) ∧
      Effect.final (render model) = model ∧
      (∀ text fault finish, writeModel { model, text } = .error fault finish →
        EndsAtScope model text fault finish ∨ EndsAtTable model text fault finish) ∧
      ∀ text before rule after scopes tables fault,
        model.rules = before ++ rule :: after → model.rules.mapM model.scopeOf = .ok scopes →
        before.mapM Model.buildTable model = .ok tables model →
        Model.buildTable rule model = .error fault model →
        writeModel { model, text } =
          .error fault { model, text := text ++ (header model ++
            String.join (scopes.map scopeLine) ++
            String.join (tables.map fun table => "\n" ++ tableLines table)) ++ "\n" } := by
  refine ⟨?_, ?_, ?_, ?_, ?_⟩
  · intro rule
    exact keeps_buildTable laidOut rule model rfl
  · intro text
    exact keeps_writeModel laidOut { model, text } rfl
  · have kept := keeps_writeModel laidOut { model } rfl
    rw [run_render]
    cases written : writeModel { model } with
    | ok value draft =>
        rw [written] at kept
        exact kept
    | error fault draft =>
        rw [written] at kept
        exact kept
  · intro text fault finish failure
    exact (writeModel_eq_error_iff laidOut).mp failure
  · intro text before rule after scopes tables fault split found built refused
    exact (writeModel_eq_error_iff laidOut).mpr
      (Or.inr ⟨before, rule, after, scopes, tables, split, found, built, refused, rfl⟩)

section Switch

open Model

/-- A rule that cannot be evaluated where the second variable is true. -/
def halfwayRule : Rule Float :=
  { weight := 1.0
    name := "halfway"
    body := .custom
      { kind := "Halfway"
        atoms := [1]
        measure := fun arena => do
          if (← arena.read 1) == 1.0 then throw (.ruleEvaluation "cannot evaluate")
          return 0.0 } }

/-- The switch with a second rule, whose table fails at its second entry. -/
def halfwayModel : Model Float :=
  { switchModel with rules := [switchRule, halfwayRule] }

theorem laidOut_halfwayModel : halfwayModel.LaidOut :=
  laidOut_switchModel.of_sameLayout rfl rfl rfl

theorem encoding_leaves_model_halfway :
    halfwayModel.LaidOut ∧
      writeModel { model := halfwayModel, text := "" } =
        .error (.ruleEvaluation "cannot evaluate")
          { model := halfwayModel
            text := "" ++ (header halfwayModel ++
              String.join ([[0], [0]].map scopeLine) ++
              String.join ([(⟨[0], [2], [-0.0, -800.0], [1.0, 0.0]⟩ : PotentialTable)].map
                fun table => "\n" ++ tableLines table)) ++ "\n" } := by
  have first : halfwayModel.scopeOf switchRule = .ok [0] :=
    scopeOf_eq_ok_iff.mpr ⟨[some 0], rfl, List.mergeSort_singleton 0⟩
  have second : halfwayModel.scopeOf halfwayRule = .ok [0] :=
    scopeOf_eq_ok_iff.mpr ⟨[some 0], rfl, List.mergeSort_singleton 0⟩
  have scopes : halfwayModel.rules.mapM halfwayModel.scopeOf = .ok [[0], [0]] := by
    change [switchRule, halfwayRule].mapM halfwayModel.scopeOf = _
    simp only [List.mapM_cons, List.mapM_nil, first, second]
    rfl
  have built : [switchRule].mapM buildTable halfwayModel =
      .ok [⟨[0], [2], [-0.0, -800.0], [1.0, 0.0]⟩] halfwayModel := by
    rw [laidOut_halfwayModel.mapM_buildTable_eq, List.mapM_cons, List.mapM_nil]
    unfold table
    rw [first]
    rfl
  have refused : buildTable halfwayRule halfwayModel =
      .error (.ruleEvaluation "cannot evaluate") halfwayModel := by
    rw [laidOut_halfwayModel.buildTable_eq]
    unfold table
    rw [second]
    rfl
  exact ⟨laidOut_halfwayModel, (encoding_leaves_model laidOut_halfwayModel).2.2.2.2 ""
    [switchRule] halfwayRule [] _ _ _ rfl scopes built refused⟩

end Switch

end Network

end HingeField
