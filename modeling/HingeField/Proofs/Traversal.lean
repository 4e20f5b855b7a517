import HingeField.Proofs.ExactSums
import HingeField.Proofs.NetworkReading

/-!
The order in which a rule traverses its atoms. Rules are reordered if their
literals or terms are permuted; this shows in the sums over them, which are
rounded at every step, and nowhere else. Main statements: models with reordered
rules have the same scopes, and texts that differ in potentials at most; where
no sum is rounded they have the same text, and where one is they may not.
-/

namespace HingeField

section Lists

variable {α β γ δ ε : Type} {f : α → Except ε γ} {xs : List α} {ys : List β}

/-- If one computation succeeds with all that another one does, so do their runs over lists. -/
theorem mapM_of_forall₂ {g : β → Except ε γ}
    (each : List.Forall₂ (fun x y => ∀ result, f x = .ok result → g y = .ok result) xs ys)
    {results : List γ} (success : xs.mapM f = .ok results) : ys.mapM g = .ok results := by
  induction each generalizing results with
  | nil => exact success
  | cons head _ ih =>
      obtain ⟨first, rest, computed, tail, rfl⟩ := mapM_cons_eq_ok_iff.mp success
      exact mapM_cons_eq_ok_iff.mpr ⟨first, rest, head first computed, ih tail, rfl⟩

theorem forall₂_of_mapM {alike : γ → δ → Prop} {g : β → Except ε δ}
    (each : List.Forall₂
      (fun x y => ∀ first second, f x = .ok first → g y = .ok second → alike first second) xs ys)
    {results : List γ} {others : List δ} (success : xs.mapM f = .ok results)
    (otherSuccess : ys.mapM g = .ok others) : List.Forall₂ alike results others := by
  induction each generalizing results others with
  | nil =>
      rw [mapM_nil_eq_ok_iff.mp success, mapM_nil_eq_ok_iff.mp otherSuccess]
      exact List.Forall₂.nil
  | cons head _ ih =>
      obtain ⟨first, rest, computed, tail, rfl⟩ := mapM_cons_eq_ok_iff.mp success
      obtain ⟨second, later, otherComputed, otherTail, rfl⟩ :=
        mapM_cons_eq_ok_iff.mp otherSuccess
      exact List.Forall₂.cons (head first second computed otherComputed) (ih tail otherTail)

end Lists

section Rules

variable {α : Type}

/-- The same literals or the same terms, in any order. -/
inductive RuleBody.Reordered : RuleBody α → RuleBody α → Prop where
  | clause {literals others : List Literal} (perm : literals.Perm others) (squared : Bool) :
      Reordered (.clause literals squared) (.clause others squared)
  | linear {terms others : List (Term α)} (perm : terms.Perm others) (bound : α) (squared : Bool) :
      Reordered (.linear terms bound squared) (.linear others bound squared)
  | custom (measure : CustomMeasure α) : Reordered (.custom measure) (.custom measure)

structure Rule.Reordered (first second : Rule α) : Prop where
  sameWeight : second.weight = first.weight
  body : first.body.Reordered second.body

variable {first second : Rule α}

theorem RuleBody.Reordered.symm {first second : RuleBody α} (reordered : first.Reordered second) :
    second.Reordered first := by
  cases reordered with
  | clause perm squared => exact .clause perm.symm squared
  | linear perm bound squared => exact .linear perm.symm bound squared
  | custom measure => exact .custom measure

theorem Rule.Reordered.symm (reordered : first.Reordered second) : second.Reordered first :=
  ⟨reordered.sameWeight.symm, reordered.body.symm⟩

theorem RuleBody.Reordered.atoms {first second : RuleBody α} (reordered : first.Reordered second) :
    first.atoms.Perm second.atoms := by
  cases reordered with
  | clause perm squared => exact perm.map _
  | linear perm bound squared => exact perm.map _
  | custom measure => exact List.Perm.refl _

variable [Scalar α]

def RuleBody.summands (body : RuleBody α) (arena : Arena α) : Except Fault (List α) :=
  match body with
  | .clause literals _ => literals.mapM (Rule.literalTruth arena)
  | .linear terms _ _ => terms.mapM (Rule.termValue arena)
  | .custom _ => .ok []

theorem RuleBody.Reordered.summands {first second : RuleBody α}
    (reordered : first.Reordered second) {arena : Arena α} {summands : List α}
    (found : first.summands arena = .ok summands) :
    ∃ others, second.summands arena = .ok others ∧ summands.Perm others := by
  cases reordered with
  | clause perm squared => exact mapM_perm perm found
  | linear perm bound squared => exact mapM_perm perm found
  | custom measure => exact ⟨summands, found, List.Perm.refl _⟩

/-- Reordered rules are equally far from being satisfied where their sums are the same. -/
theorem Rule.Reordered.incompatibility (reordered : first.Reordered second) {arena : Arena α}
    (sameSum : ∀ summands others, first.body.summands arena = .ok summands →
      summands.Perm others → Scalar.sum others = Scalar.sum summands)
    {distance : α} (measured : first.incompatibility arena = .ok distance) :
    second.incompatibility arena = .ok distance := by
  obtain ⟨weight, name, body⟩ := first
  obtain ⟨otherWeight, otherName, otherBody⟩ := second
  have bodies : body.Reordered otherBody := reordered.body
  cases bodies with
  | @clause literals _ perm squared =>
      unfold Rule.incompatibility at measured ⊢
      dsimp only at measured ⊢
      cases found : literals.mapM (Rule.literalTruth arena) with
      | error fault =>
          rw [found] at measured
          cases measured
      | ok truths =>
          obtain ⟨others, otherFound, permuted⟩ := mapM_perm perm found
          rw [found, Effect.ok_bind] at measured
          rw [otherFound, Effect.ok_bind, sameSum truths others found permuted,
            ← perm.isEmpty_eq]
          exact measured
  | @linear terms _ perm bound squared =>
      unfold Rule.incompatibility at measured ⊢
      dsimp only at measured ⊢
      cases found : terms.mapM (Rule.termValue arena) with
      | error fault =>
          rw [found] at measured
          cases measured
      | ok summands =>
          obtain ⟨others, otherFound, permuted⟩ := mapM_perm perm found
          rw [found, Effect.ok_bind] at measured
          rw [otherFound, Effect.ok_bind, sameSum summands others found permuted,
            ← perm.isEmpty_eq]
          exact measured
  | custom measure => exact measured

end Rules

namespace Model

variable {α : Type}

structure Reordered (first second : Model α) : Prop where
  sameValues : second.values = first.values
  sameOwners : second.owners = first.owners
  sameBlocks : second.blocks = first.blocks
  rules : List.Forall₂ Rule.Reordered first.rules second.rules

/-- Every block of a scope is given one of its categories. -/
def Decides (model : Model α) (scope : List Nat) (choice : Choice) : Prop :=
  ∀ position ∈ scope, ∃ block code, model.blocks[position]? = some block ∧
    choice position = some code ∧ 0 ≤ code ∧ code < block.cardinality

/-- In no state of the blocks it refers to is any sum of the rule rounded. -/
def SumsExactly (model : Model Float) (rule : Rule Float) : Prop :=
  ∀ scope choice summands, model.scopeOf rule = .ok scope → model.Decides scope choice →
    rule.body.summands (model.settled choice) = .ok summands →
      ∃ exponent, Doubles.OnGrid exponent summands

namespace Reordered

section Layout

variable {first second : Model α}

theorem symm (reordered : first.Reordered second) : second.Reordered first := by
  refine ⟨reordered.sameValues.symm, reordered.sameOwners.symm, reordered.sameBlocks.symm, ?_⟩
  exact reordered.rules.flip.imp fun _ _ rules => rules.symm

theorem laidOut (reordered : first.Reordered second) (laidOut : first.LaidOut) : second.LaidOut :=
  laidOut.of_sameLayout reordered.sameOwners reordered.sameBlocks
    (congrArg List.length reordered.sameValues)

theorem settled_eq [Scalar α] (reordered : first.Reordered second) (choice : Choice) :
    second.settled choice = first.settled choice := by
  unfold settled chosenAt
  rw [reordered.sameValues, reordered.sameOwners, reordered.sameBlocks]

end Layout

variable {first second : Model Float} {rule other : Rule Float} {scope : List Nat}
  {blocks : List Block}

/-- A scope is ascending, so that it does not show in which order its blocks were found. -/
theorem scopeOf_eq_ok (reordered : first.Reordered second)
    (rules : rule.Reordered other) (found : first.scopeOf rule = .ok scope) :
    second.scopeOf other = .ok scope := by
  obtain ⟨owned, ownersFound, sorted⟩ := scopeOf_eq_ok_iff.mp found
  obtain ⟨others, othersFound, perm⟩ := mapM_perm rules.body.atoms ownersFound
  rw [← blockOf_congr reordered.sameOwners] at othersFound
  have otherFound : second.scopeOf other = .ok ((others.filterMap id).eraseDups.mergeSort) :=
    scopeOf_eq_ok_iff.mpr ⟨others, othersFound, rfl⟩
  have sameMembers : ∀ position, position ∈ (others.filterMap id).eraseDups.mergeSort ↔
      position ∈ scope := by
    intro position
    rw [← sorted, List.mem_mergeSort, List.mem_mergeSort, List.mem_eraseDups, List.mem_eraseDups]
    exact (perm.filterMap id).mem_iff.symm
  rw [otherFound, eq_of_ascending (Network.pairwise_scope otherFound)
    (Network.pairwise_scope found) sameMembers]

theorem decides_of_mem_all (laidOut : first.LaidOut) (scopeFound : first.scopeOf rule = .ok scope)
    (found : first.blocksAt (scope.map Int.ofNat) = .ok blocks) {digits : List Nat}
    (member : digits ∈ Assignment.all (blocks.map (·.cardinality))) :
    first.Decides scope (Choice.assigned (scope.zip (digits.map Int.ofNat))) := by
  have positive : ∀ cardinality ∈ blocks.map (·.cardinality), 0 < cardinality :=
    fun cardinality listed => cardinality_pos_of_blocksAt laidOut found listed
  obtain ⟨count, below⟩ :=
    Assignment.isAssignment_iff.mp (Assignment.isAssignment_of_mem_all positive member)
  rw [List.length_map, length_of_blocksAt found] at count
  intro position listed
  obtain ⟨place, stands⟩ := List.getElem?_of_mem listed
  obtain ⟨block, blockAt, inModel⟩ := getElem?_blocksAt found stands
  have inside : place < digits.length := by
    rw [count]
    exact (List.getElem?_eq_some_iff.mp stands).choose
  have digitAt : digits[place]? = some digits[place] := List.getElem?_eq_getElem inside
  refine ⟨block, (digits[place] : Int), inModel, ?_, Int.natCast_nonneg _, ?_⟩
  · apply Choice.assigned_of_mem
    · rw [List.map_fst_zip (by rw [List.length_map, count])]
      exact nodup_scope scopeFound
    · apply List.mem_of_getElem?
      rw [List.getElem?_zip_eq_some, List.getElem?_map, digitAt]
      exact ⟨stands, rfl⟩
  · apply below place block.cardinality digits[place] _ digitAt
    rw [List.getElem?_map, blockAt]
    rfl

theorem sumsExactly (reordered : first.Reordered second) (rules : rule.Reordered other)
    (exact : first.SumsExactly rule) : second.SumsExactly other := by
  intro scope choice others found decides othersFound
  rw [reordered.settled_eq] at othersFound
  obtain ⟨summands, summandsFound, perm⟩ := rules.body.symm.summands othersFound
  have firstDecides : first.Decides scope choice := by
    unfold Decides at decides ⊢
    rw [← reordered.sameBlocks]
    exact decides
  obtain ⟨exponent, onGrid⟩ :=
    exact scope choice summands (reordered.symm.scopeOf_eq_ok rules.symm found) firstDecides
      summandsFound
  exact ⟨exponent, onGrid.of_perm perm.symm⟩

theorem entry_eq_ok (reordered : first.Reordered second) (rules : rule.Reordered other)
    (exact : first.SumsExactly rule) (scopeFound : first.scopeOf rule = .ok scope)
    {digits : List Nat}
    (decides : first.Decides scope (Choice.assigned (scope.zip (digits.map Int.ofNat))))
    {entry : Float × Float} (computed : first.entry rule scope digits = .ok entry) :
    second.entry other scope digits = .ok entry := by
  unfold Model.entry at computed ⊢
  rw [reordered.settled_eq]
  generalize Choice.assigned (scope.zip (digits.map Int.ofNat)) = choice at *
  dsimp only at computed ⊢
  cases evaluated : rule.logPotential (first.settled choice) with
  | error fault =>
      rw [evaluated] at computed
      cases computed
  | ok exponent =>
      obtain ⟨distance, measured, rfl⟩ := Rule.logPotential_eq_ok_iff.mp evaluated
      have otherMeasured : other.incompatibility (first.settled choice) = .ok distance := by
        apply rules.incompatibility _ measured
        intro summands others found perm
        obtain ⟨grid, onGrid⟩ := exact scope choice summands scopeFound decides found
        exact onGrid.sum_eq_of_perm perm
      have otherEvaluated : other.logPotential (first.settled choice) =
          .ok (-rule.weight * distance) :=
        Rule.logPotential_eq_ok_iff.mpr ⟨distance, otherMeasured, by rw [rules.sameWeight]⟩
      rw [otherEvaluated]
      rw [evaluated] at computed
      exact computed

/-- Without rounding a reordered rule has the same table. -/
theorem table_eq_ok (reordered : first.Reordered second) (laidOut : first.LaidOut)
    (rules : rule.Reordered other) (exact : first.SumsExactly rule) {table : PotentialTable}
    (built : first.table rule = .ok table) : second.table other = .ok table := by
  obtain ⟨blocks, entries, scopeFound, found, cardinalities, evaluated, _⟩ :=
    Model.table_eq_ok built
  rw [cardinalities] at evaluated
  have otherEvaluated : (Assignment.all (blocks.map (·.cardinality))).mapM
      (second.entry other table.scope) = .ok entries := by
    refine mapM_of_forall₂ (List.forall₂_same.mpr fun digits member => ?_) evaluated
    intro entry computed
    exact reordered.entry_eq_ok rules exact scopeFound
      (decides_of_mem_all laidOut scopeFound found member) computed
  unfold Model.table at built ⊢
  rw [scopeFound, Effect.ok_bind, found, Effect.ok_bind] at built
  rw [reordered.scopeOf_eq_ok rules scopeFound, Effect.ok_bind,
    blocksAt_congr reordered.sameBlocks, found, Effect.ok_bind]
  simp only [evaluated] at built
  simp only [otherEvaluated]
  exact built

end Reordered

section Bits

variable {model : Model Float} {rule : Rule Float} {scope : List Nat} {choice : Choice}

/-- What a rule reads in a state of its blocks: a free variable as it is, or zero or one. -/
theorem LaidOut.read_settled_cases (laidOut : model.LaidOut)
    (found : model.scopeOf rule = .ok scope) (decides : model.Decides scope choice) {atom : Int}
    (member : atom ∈ rule.atoms) {value : Float}
    (read : Arena.read (model.settled choice) atom = .ok value) :
    (model.blockOf atom = .ok none ∧ Arena.read model.values atom = .ok value) ∨
      value = 0.0 ∨ value = 1.0 := by
  obtain ⟨owner, owned, listed⟩ := mem_scope_of_owner found member
  cases owner with
  | none =>
      refine Or.inl ⟨owned, ?_⟩
      rw [← read]
      refine Arena.read_congr (length_settled model choice).symm fun offset resolved => ?_
      rw [← laidOut.ownerPerValue] at resolved
      have free : (model.owners[offset]?).join = none := by
        rw [getElem?_owners_of_blockOf owned resolved]
        rfl
      rw [getElem?_settled, chosenAt_eq_none_of_free free]
      exact Option.map_id'.symm
  | some position =>
      refine Or.inr ?_
      unfold Arena.read at read
      split at read
      · rename_i stands
        cases read
        obtain ⟨offset, resolved, cell⟩ := elementAt?_eq_some_iff.mp stands
        rw [length_settled, ← laidOut.ownerPerValue] at resolved
        have holder : (model.owners[offset]?).join = some position := by
          rw [getElem?_owners_of_blockOf owned resolved]
          rfl
        obtain ⟨block, code, inModel, chosen, _⟩ := decides position (listed position rfl)
        rw [getElem?_settled, chosenAt_of_owner holder inModel, chosen] at cell
        obtain ⟨_, _, rfl⟩ := Option.map_eq_some_iff.mp cell
        change block.indicator code offset = 0.0 ∨ block.indicator code offset = 1.0
        unfold Block.indicator
        split
        · split
          · exact Or.inr rfl
          · exact Or.inl rfl
        · exact Or.inl rfl
      · cases read

theorem literalTruth_of_bit {arena : Arena Float} {literal : Literal} {truth : Float}
    (bit : ∀ value, arena.read literal.atom = .ok value → value = 0.0 ∨ value = 1.0)
    (evaluated : Rule.literalTruth arena literal = .ok truth) : truth = 0.0 ∨ truth = 1.0 := by
  have negatedZero : (1.0 : Float) - 0.0 = 1.0 := by rfl
  have negatedOne : (1.0 : Float) - 1.0 = 0.0 := by rfl
  obtain ⟨value, read, rfl⟩ := bind_return_eq_ok_iff.mp evaluated
  cases literal.positive with
  | true => exact bit value read
  | false =>
      rcases bit value read with rfl | rfl
      · exact Or.inr negatedZero
      · exact Or.inl negatedOne

theorem onGrid_of_bits {values : List Float} (bits : ∀ value ∈ values, value = 0.0 ∨ value = 1.0)
    (few : values.length < 2 * Decimal.leastNormal) : Doubles.OnGrid 0 values := by
  have magnitude : ∀ value ∈ values, |Doubles.exactValue value| ≤ 1 := by
    intro value member
    rcases bits value member with rfl | rfl
    · rw [Doubles.exactValue_zero, abs_zero]
      exact zero_le_one
    · rw [Doubles.exactValue_one, abs_one]
  refine ⟨by decide, by decide, ?_, ?_, ?_⟩
  · intro value member
    rcases bits value member with rfl | rfl
    · exact Doubles.isFinite_zero
    · exact Doubles.isFinite_one
  · intro value member
    rcases bits value member with rfl | rfl
    · exact ⟨0, by rw [Doubles.exactValue_zero, Int.cast_zero, zero_mul]⟩
    · exact ⟨1, by rw [Doubles.exactValue_one, Int.cast_one, zpow_zero, mul_one]⟩
  · have total : (values.map fun value => |Doubles.exactValue value|).sum ≤ values.length := by
      have bound := List.sum_le_card_nsmul (values.map fun value => |Doubles.exactValue value|) 1
        fun entry listed => by
          obtain ⟨value, member, rfl⟩ := List.mem_map.mp listed
          exact magnitude value member
      rw [List.length_map, nsmul_eq_mul, mul_one] at bound
      exact bound
    have room : (values.length : Rat) < Doubles.reach 0 := by
      unfold Doubles.reach
      rw [zpow_zero, mul_one]
      exact_mod_cast few
    exact total.trans_lt room

theorem LaidOut.sumsExactly_of_bits (laidOut : model.LaidOut) {literals : List Literal}
    {squared : Bool} (form : rule.body = .clause literals squared)
    (few : literals.length < 2 * Decimal.leastNormal)
    (free : ∀ literal ∈ literals, model.blockOf literal.atom = .ok none →
      ∀ value, Arena.read model.values literal.atom = .ok value → value = 0.0 ∨ value = 1.0) :
    model.SumsExactly rule := by
  intro scope choice summands found decides evaluated
  rw [form] at evaluated
  refine ⟨0, onGrid_of_bits ?_ ?_⟩
  · intro truth member
    obtain ⟨literal, listed, computed⟩ := exists_of_mem_mapM evaluated member
    refine literalTruth_of_bit (fun value read => ?_) computed
    have isAtom : literal.atom ∈ rule.atoms := by
      unfold Rule.atoms
      rw [form]
      exact List.mem_map_of_mem listed
    rcases laidOut.read_settled_cases found decides isAtom read with ⟨unowned, asGiven⟩ | bit
    · exact free literal listed unowned value asGiven
    · exact bit
  · rw [length_of_mapM evaluated]
    exact few

end Bits

end Model

namespace Network

structure SameShape (table other : PotentialTable) : Prop where
  sameScope : other.scope = table.scope
  sameCardinalities : other.cardinalities = table.cardinalities
  sameSize : other.size = table.size

section Reordered

variable {first second : Model Float} {scopes : List (List Nat)}
  {tables others : List PotentialTable}

theorem scopes_of_reordered (reordered : first.Reordered second)
    (found : first.rules.mapM first.scopeOf = .ok scopes) :
    second.rules.mapM second.scopeOf = .ok scopes :=
  mapM_of_forall₂
    (reordered.rules.imp fun _ _ rules _ located => reordered.scopeOf_eq_ok rules located) found

theorem sameShape_of_reordered (reordered : first.Reordered second)
    (built : first.rules.mapM first.table = .ok tables)
    (otherBuilt : second.rules.mapM second.table = .ok others) :
    List.Forall₂ SameShape tables others := by
  refine forall₂_of_mapM (reordered.rules.imp fun rule other rules => ?_) built otherBuilt
  intro table otherTable tableBuilt otherTableBuilt
  obtain ⟨blocks, entries, scopeFound, found, cardinalities, evaluated, _, potentials⟩ :=
    Model.table_eq_ok tableBuilt
  obtain ⟨otherBlocks, otherEntries, otherScopeFound, otherBlocksFound, otherCardinalities,
    otherEvaluated, _, otherPotentials⟩ := Model.table_eq_ok otherTableBuilt
  have sameScope : otherTable.scope = table.scope := by
    rw [reordered.scopeOf_eq_ok rules scopeFound] at otherScopeFound
    exact (Except.ok.inj otherScopeFound).symm
  rw [sameScope, Model.blocksAt_congr reordered.sameBlocks, found] at otherBlocksFound
  cases otherBlocksFound
  have sameCardinalities : otherTable.cardinalities = table.cardinalities :=
    otherCardinalities.trans cardinalities.symm
  refine ⟨sameScope, sameCardinalities, ?_⟩
  unfold PotentialTable.size
  rw [potentials, otherPotentials, List.length_map, List.length_map, length_of_mapM evaluated,
    length_of_mapM otherEvaluated, sameCardinalities]

theorem textOf_of_reordered (reordered : first.Reordered second) (scopes : List (List Nat))
    (tables : List PotentialTable) : textOf second scopes tables = textOf first scopes tables := by
  unfold textOf header Model.cardinalities
  rw [reordered.sameBlocks, reordered.rules.length_eq]

theorem textOf_congr (model : Model Float) (scopes : List (List Nat))
    (same : others.map (·.potentials) = tables.map (·.potentials)) :
    textOf model scopes others = textOf model scopes tables := by
  have written (tables : List PotentialTable) :
      (tables.map fun table => "\n" ++ tableLines table) =
        (tables.map (·.potentials)).map fun potentials =>
          "\n" ++ (toString potentials.length ++ "\n" ++ potentialLine potentials) := by
    rw [List.map_map]
    rfl
  unfold textOf
  rw [written, written, same]

theorem potentials_of_text (laidOut : first.LaidOut) (otherLaidOut : second.LaidOut)
    {otherScopes : List (List Nat)} (found : first.rules.mapM first.scopeOf = .ok scopes)
    (built : first.rules.mapM first.table = .ok tables)
    (otherFound : second.rules.mapM second.scopeOf = .ok otherScopes)
    (otherBuilt : second.rules.mapM second.table = .ok others)
    (same : textOf second otherScopes others = textOf first scopes tables) :
    others.map (·.potentials) = tables.map (·.potentials) := by
  obtain ⟨_, wasRead⟩ :=
    read_of_lines (isWellFormed_outlineOf found built) (toList_render laidOut found tables)
  obtain ⟨_, otherRead⟩ := read_of_lines (isWellFormed_outlineOf otherFound otherBuilt)
    (toList_render otherLaidOut otherFound others)
  rw [same, wasRead] at otherRead
  obtain ⟨_, _, sameEntries⟩ := Outline.mk.inj (Option.some.inj otherRead)
  exact potentials_of_printed sameEntries.symm

theorem render_of_reordered (laidOut : first.LaidOut) (reordered : first.Reordered second)
    (exact : ∀ rule ∈ first.rules, first.SumsExactly rule) {text : String}
    (rendered : render first = .ok text first) : render second = .ok text second := by
  obtain ⟨scopes, tables, found, built, rfl, _⟩ := (render_eq_ok_iff laidOut).mp rendered
  refine (render_eq_ok_iff (reordered.laidOut laidOut)).mpr
    ⟨scopes, tables, scopes_of_reordered reordered found, ?_,
      (textOf_of_reordered reordered scopes tables).symm, rfl⟩
  have exactly : List.Forall₂ (fun rule other => rule.Reordered other ∧ first.SumsExactly rule)
      first.rules second.rules :=
    List.forall₂_iff_zip.mpr ⟨reordered.rules.length_eq, fun {rule other} listed =>
      ⟨(List.forall₂_iff_zip.mp reordered.rules).2 listed,
        exact rule (List.of_mem_zip listed).1⟩⟩
  refine mapM_of_forall₂ (exactly.imp fun rule other both => ?_) built
  exact fun table tableBuilt => reordered.table_eq_ok laidOut both.1 both.2 tableBuilt

/-- The order in which rules traverse their atoms shows in sums at most. The scopes of reordered
rules are the same, the texts that are rendered are the same but for the potentials in their tables,
and these are the same too if no sum is rounded in any state of the blocks. -/
theorem reordered_atoms_show_in_sums (laidOut : first.LaidOut)
    (reordered : first.Reordered second) :
    (∀ scopes, first.rules.mapM first.scopeOf = .ok scopes ↔
      second.rules.mapM second.scopeOf = .ok scopes) ∧
    (∀ text other, render first = .ok text first → render second = .ok other second →
      ∃ scopes tables others,
        text = textOf first scopes tables ∧ other = textOf first scopes others ∧
        first.rules.mapM Model.buildTable first = .ok tables first ∧
        second.rules.mapM Model.buildTable second = .ok others second ∧
        List.Forall₂ SameShape tables others ∧
        (other = text ↔ others.map (·.potentials) = tables.map (·.potentials))) ∧
    ((∀ rule ∈ first.rules, first.SumsExactly rule) →
      ∀ text, render first = .ok text first ↔ render second = .ok text second) := by
  have otherLaidOut := reordered.laidOut laidOut
  refine ⟨fun scopes => ⟨scopes_of_reordered reordered, scopes_of_reordered reordered.symm⟩,
    ?_, ?_⟩
  · intro text other rendered otherRendered
    obtain ⟨scopes, tables, found, built, rfl, _⟩ := (render_eq_ok_iff laidOut).mp rendered
    obtain ⟨otherScopes, others, otherFound, otherBuilt, rfl, _⟩ :=
      (render_eq_ok_iff otherLaidOut).mp otherRendered
    rw [scopes_of_reordered reordered found] at otherFound
    cases otherFound
    refine ⟨scopes, tables, others, rfl, textOf_of_reordered reordered scopes others, ?_, ?_,
      sameShape_of_reordered reordered built otherBuilt, ?_, ?_⟩
    · rw [laidOut.mapM_buildTable_eq, built]
      rfl
    · rw [otherLaidOut.mapM_buildTable_eq, otherBuilt]
      rfl
    · exact potentials_of_text laidOut otherLaidOut found built
        (scopes_of_reordered reordered found) otherBuilt
    · intro same
      rw [textOf_of_reordered reordered]
      exact textOf_congr first scopes same
  · intro exact text
    refine ⟨render_of_reordered laidOut reordered exact,
      render_of_reordered otherLaidOut reordered.symm fun other listed => ?_⟩
    obtain ⟨place, inside, rfl⟩ := List.getElem_of_mem listed
    have otherInside : place < first.rules.length := by
      rw [reordered.rules.length_eq]
      exact inside
    exact reordered.sumsExactly (reordered.rules.get otherInside inside)
      (exact _ (List.getElem_mem otherInside))

end Reordered

section Orders

def renderedText (model : Model Float) : Option String :=
  match render model with
  | .ok text _ => some text
  | .error _ _ => none

theorem render_of_renderedText {model : Model Float} (laidOut : model.LaidOut) {text : String}
    (rendered : renderedText model = some text) : render model = .ok text model := by
  unfold renderedText at rendered
  cases ended : render model with
  | error fault after =>
      rw [ended] at rendered
      cases rendered
  | ok written after =>
      rw [ended] at rendered
      cases rendered
      obtain ⟨_, _, _, _, _, rfl⟩ := (render_eq_ok_iff laidOut).mp ended
      rfl

def switchOver (literals : List Literal) : Model Float :=
  { Model.switchModel with
    rules := [{ Model.switchRule with body := .clause literals false }] }

theorem reordered_atoms_show_in_sums_switch :
    let forward := switchOver [⟨0, true⟩, ⟨1, false⟩]
    let backward := switchOver [⟨1, false⟩, ⟨0, true⟩]
    forward.LaidOut ∧ forward.Reordered backward ∧
      (∀ rule ∈ forward.rules, forward.SumsExactly rule) ∧
      render backward = .ok "MARKOV\n1\n2\n1\n1 0\n\n2\n 1.0 0.0\n" backward := by
  intro forward backward
  have laidOut : forward.LaidOut := Model.laidOut_switchModel.of_sameLayout rfl rfl rfl
  have reordered : forward.Reordered backward :=
    ⟨rfl, rfl, rfl, .cons ⟨rfl, .clause (List.Perm.swap _ _ _) false⟩ .nil⟩
  have exact : ∀ rule ∈ forward.rules, forward.SumsExactly rule := by
    intro rule member
    rw [List.mem_singleton.mp member]
    refine laidOut.sumsExactly_of_bits rfl (by decide) fun literal listed unowned => ?_
    -- both variables are members of the block
    rcases List.mem_cons.mp listed with rfl | listed
    · cases unowned
    · rw [List.mem_singleton.mp listed] at unowned
      cases unowned
  have rendered : render forward =
      .ok "MARKOV\n1\n2\n1\n1 0\n\n2\n 1.0 0.0\n" forward :=
    render_of_renderedText laidOut (by decide +kernel)
  refine ⟨laidOut, reordered, exact, ?_⟩
  exact ((reordered_atoms_show_in_sums laidOut reordered).2.2 exact _).mp rendered

/-- Three free variables and a clause over them, with a weight that shows the last bit of a sum. -/
def tenths (literals : List Literal) : Model Float :=
  { ({} : Model Float).grow [0.1, 0.2, 0.7] none with
    rules := [{ weight := 1e19, name := "tenths", body := .clause literals false }] }

theorem laidOut_tenths (literals : List Literal) : (tenths literals).LaidOut :=
  (Model.laidOut_empty.grow_free [0.1, 0.2, 0.7]).of_sameLayout rfl rfl rfl

/-- One tenth, two tenths and seven tenths add up to one in this order, and to a little less in the
opposite order. -/
theorem atom_order_changes_text :
    let forward := tenths [⟨0, true⟩, ⟨1, true⟩, ⟨2, true⟩]
    let backward := tenths [⟨2, true⟩, ⟨1, true⟩, ⟨0, true⟩]
    forward.LaidOut ∧ forward.Reordered backward ∧
      render forward = .ok "MARKOV\n0\n\n1\n\n\n1\n 1.0\n" forward ∧
      render backward = .ok "MARKOV\n0\n\n1\n\n\n1\n 0.0\n" backward := by
  intro forward backward
  refine ⟨laidOut_tenths _, ⟨rfl, rfl, rfl, .cons ⟨rfl, .clause ?_ false⟩ .nil⟩, ?_, ?_⟩
  · exact List.reverse_perm ([⟨2, true⟩, ⟨1, true⟩, ⟨0, true⟩] : List Literal)
  · exact render_of_renderedText (laidOut_tenths _) (by decide +kernel)
  · exact render_of_renderedText (laidOut_tenths _) (by decide +kernel)

end Orders

end Network

end HingeField
