import HingeField.Proofs.Decoding
import HingeField.Proofs.Doubles
import HingeField.Proofs.Locality
import HingeField.Proofs.Tabulation

/-!
The tables of a model against the solutions put into it. A full solution has
one code for every block; in the table of a rule it selects the entry at the
index that its codes for the scope have. Main statement: the selected entry is
the exponent, and the potential, of the rule over the arena into which the
solution is decoded, so that the selected exponents of all rules add up to the
negated weighted incompatibilities there.
-/

namespace HingeField

namespace PotentialTable

/-- The index of the entry that the codes of all blocks select. -/
def selected (table : PotentialTable) (codes : List Nat) : Int :=
  Assignment.indexOf table.cardinalities
    (table.scope.map fun position => codes.getD position 0)

def exponentAt (table : PotentialTable) (codes : List Nat) : Option Float :=
  table.logPotentials[(table.selected codes).toNat]?

def potentialAt (table : PotentialTable) (codes : List Nat) : Option Float :=
  table.potentials[(table.selected codes).toNat]?

end PotentialTable

namespace Model

section Agreement

variable {α : Type} [Scalar α] {model : Model α} {rule : Rule α} {scope : List Nat}

/-- A rule reads the same wherever the blocks of its scope have the same codes. -/
theorem LaidOut.agreeAt_settled (laidOut : model.LaidOut)
    (found : model.scopeOf rule = .ok scope) {first second : Choice}
    (agree : ∀ position ∈ scope, first position = second position) :
    Arena.AgreeAt rule.atoms (model.settled first) (model.settled second) := by
  refine ⟨?_, ?_⟩
  · rw [length_settled, length_settled]
  · intro atom member
    obtain ⟨owner, owned, listed⟩ := mem_scope_of_owner found member
    apply Arena.read_congr
    · rw [length_settled, length_settled]
    · intro offset resolved
      rw [length_settled, ← laidOut.ownerPerValue] at resolved
      have ownerAt := getElem?_owners_of_blockOf owned resolved
      rw [getElem?_settled, getElem?_settled]
      cases owner with
      | none =>
          have free : (model.owners[offset]?).join = none := by rw [ownerAt]; rfl
          rw [chosenAt_eq_none_of_free free, chosenAt_eq_none_of_free free]
      | some position =>
          have holder : (model.owners[offset]?).join = some position := by rw [ownerAt]; rfl
          obtain ⟨block, inModel, _⟩ := laidOut.block_of_owner holder
          rw [chosenAt_of_owner holder inModel, chosenAt_of_owner holder inModel,
            agree position (listed position rfl)]

end Agreement

section Full

variable {model : Model Float} {codes : List Nat}

theorem accepted_of_isAssignment {blocks : List Block}
    (full : Assignment.IsAssignment (blocks.map (·.cardinality)) codes) :
    Solution.accepted blocks (codes.map Int.ofNat) = codes.map Int.ofNat := by
  induction blocks generalizing codes with
  | nil =>
      cases codes with
      | nil => rfl
      | cons code codes => cases full
  | cons block blocks ih =>
      cases codes with
      | nil => rfl
      | cons code codes =>
          obtain ⟨below, rest⟩ := full
          rw [List.map_cons, Solution.accepted, if_pos ⟨Int.natCast_nonneg code, below⟩, ih rest]

/-- A full solution settles all blocks. -/
theorem LaidOut.apply_full (laidOut : model.LaidOut)
    (full : Assignment.IsAssignment model.cardinalities codes) :
    Solution.apply (codes.map Int.ofNat) model =
      .ok () (model.settle (Choice.ofCodes (codes.map Int.ofNat))) := by
  have count := full.length_eq
  unfold cardinalities at count
  rw [List.length_map] at count
  obtain ⟨ending, applied, success⟩ := Solution.apply_eq laidOut
    (show (codes.map Int.ofNat).length ≤ model.blocks.length by rw [List.length_map]; omega)
  have all := accepted_of_isAssignment full
  rw [applied, success.mpr all, all]
  rfl

theorem code_of_block (full : Assignment.IsAssignment model.cardinalities codes) {position : Nat}
    {block : Block} (found : model.blocks[position]? = some block) :
    codes[position]? = some (codes.getD position 0) ∧
      (codes.getD position 0 : Int) < block.cardinality := by
  obtain ⟨count, below⟩ := Assignment.isAssignment_iff.mp full
  have inside : position < codes.length := by
    rw [count, cardinalities, List.length_map]
    exact (List.getElem?_eq_some_iff.mp found).choose
  have stands : codes[position]? = some (codes.getD position 0) := by
    rw [List.getD_eq_getElem?_getD, List.getElem?_eq_getElem inside]
    rfl
  refine ⟨stands, below position block.cardinality _ ?_ stands⟩
  rw [cardinalities, List.getElem?_map, found]
  rfl

variable {scope : List Nat} {blocks : List Block}

/-- The codes of a scope are an assignment of its blocks. -/
theorem isAssignment_of_scope (full : Assignment.IsAssignment model.cardinalities codes)
    (found : model.blocksAt (scope.map Int.ofNat) = .ok blocks) :
    Assignment.IsAssignment (blocks.map (·.cardinality))
      (scope.map fun position => codes.getD position 0) := by
  apply Assignment.isAssignment_iff.mpr
  refine ⟨?_, ?_⟩
  · rw [List.length_map, List.length_map, length_of_blocksAt found]
  · intro place cardinality digit cardinalityAt digitAt
    rw [List.getElem?_map, Option.map_eq_some_iff] at cardinalityAt digitAt
    obtain ⟨position, listed, rfl⟩ := digitAt
    obtain ⟨block, stands, inModel⟩ := getElem?_blocksAt found listed
    obtain ⟨other, same, rfl⟩ := cardinalityAt
    rw [stands] at same
    cases same
    exact (code_of_block full inModel).2

/-- On its scope an entry has the codes of the full solution. -/
theorem assigned_scope_eq (full : Assignment.IsAssignment model.cardinalities codes)
    (distinct : scope.Nodup) (found : model.blocksAt (scope.map Int.ofNat) = .ok blocks)
    {position : Nat} (member : position ∈ scope) :
    Choice.assigned (scope.zip
        ((scope.map fun position => codes.getD position 0).map Int.ofNat)) position =
      Choice.ofCodes (codes.map Int.ofNat) position := by
  obtain ⟨place, listed⟩ := List.getElem?_of_mem member
  obtain ⟨block, _, inModel⟩ := getElem?_blocksAt found listed
  have stands := (code_of_block full inModel).1
  have coded : Choice.ofCodes (codes.map Int.ofNat) position =
      some (codes.getD position 0 : Int) := by
    unfold Choice.ofCodes
    rw [List.getElem?_map, stands]
    rfl
  rw [coded]
  apply Choice.assigned_of_mem
  · rw [List.map_fst_zip (by simp only [List.length_map]; omega)]
    exact distinct
  · apply List.mem_of_getElem? (i := place)
    rw [List.getElem?_zip_eq_some, List.getElem?_map, List.getElem?_map, listed]
    exact ⟨rfl, rfl⟩

/-- The entry that a full solution selects is evaluated over the decoded arena. -/
theorem LaidOut.entry_of_full (laidOut : model.LaidOut)
    (full : Assignment.IsAssignment model.cardinalities codes) {rule : Rule Float}
    (isLocal : rule.IsLocal) (scopeFound : model.scopeOf rule = .ok scope)
    (found : model.blocksAt (scope.map Int.ofNat) = .ok blocks) {exponent potential : Float}
    (evaluated : model.entry rule scope (scope.map fun position => codes.getD position 0) =
      .ok (exponent, potential)) :
    rule.logPotential (model.settled (Choice.ofCodes (codes.map Int.ofNat))) = .ok exponent ∧
      exponential exponent = .ok potential := by
  have sameExponent :
      rule.logPotential (model.settled (Choice.assigned (scope.zip
        ((scope.map fun position => codes.getD position 0).map Int.ofNat)))) =
      rule.logPotential (model.settled (Choice.ofCodes (codes.map Int.ofNat))) :=
    isLocal.logPotential_congr <| laidOut.agreeAt_settled scopeFound fun position member =>
      assigned_scope_eq full (nodup_scope scopeFound) found member
  simp only [entry, sameExponent] at evaluated
  cases decoded : rule.logPotential (model.settled (Choice.ofCodes (codes.map Int.ofNat))) with
  | error fault =>
      rw [decoded] at evaluated
      cases evaluated
  | ok value =>
      rw [decoded, Effect.ok_bind] at evaluated
      cases raised : exponential value with
      | error fault =>
          rw [raised] at evaluated
          cases evaluated
      | ok result =>
          rw [raised] at evaluated
          cases evaluated
          exact ⟨rfl, raised⟩

theorem table_eq_ok {rule : Rule Float} {table : PotentialTable}
    (built : model.table rule = .ok table) :
    ∃ blocks entries,
      model.scopeOf rule = .ok table.scope ∧
      model.blocksAt (table.scope.map Int.ofNat) = .ok blocks ∧
      table.cardinalities = blocks.map (·.cardinality) ∧
      (Assignment.all table.cardinalities).mapM (model.entry rule table.scope) = .ok entries ∧
      table.logPotentials = entries.map (·.1) ∧
      table.potentials = entries.map (·.2) := by
  unfold Model.table at built
  cases scopeFound : model.scopeOf rule with
  | error fault =>
      rw [scopeFound] at built
      cases built
  | ok scope =>
      rw [scopeFound, Effect.ok_bind] at built
      cases found : model.blocksAt (scope.map Int.ofNat) with
      | error fault =>
          rw [found] at built
          cases built
      | ok blocks =>
          rw [found, Effect.ok_bind] at built
          cases room : checkRoom (Assignment.count (blocks.map (·.cardinality))).toNat with
          | error fault =>
              simp only [room] at built
              cases built
          | ok granted =>
              simp only [room, Effect.ok_bind] at built
              cases evaluated : (Assignment.all (blocks.map (·.cardinality))).mapM
                  (model.entry rule scope) with
              | error fault =>
                  rw [evaluated] at built
                  cases built
              | ok entries =>
                  rw [evaluated] at built
                  cases built
                  exact ⟨blocks, entries, rfl, found, rfl, evaluated, rfl, rfl⟩

/-- What stands in a table at the place that a full solution selects. -/
theorem LaidOut.selected_entry (laidOut : model.LaidOut)
    (full : Assignment.IsAssignment model.cardinalities codes) {rule : Rule Float}
    (isLocal : rule.IsLocal) {table : PotentialTable} (built : model.table rule = .ok table) :
    ∃ exponent potential,
      table.exponentAt codes = some exponent ∧
      table.potentialAt codes = some potential ∧
      rule.logPotential (model.settled (Choice.ofCodes (codes.map Int.ofNat))) = .ok exponent ∧
      exponential exponent = .ok potential := by
  obtain ⟨blocks, entries, scopeFound, found, sameCardinalities, evaluated, exponents,
    potentials⟩ := table_eq_ok built
  have assigned := isAssignment_of_scope full found
  rw [← sameCardinalities] at assigned
  have positive : ∀ cardinality ∈ table.cardinalities, 0 < cardinality := by
    intro cardinality member
    rw [sameCardinalities] at member
    exact cardinality_pos_of_blocksAt laidOut found member
  obtain ⟨⟨exponent, potential⟩, stands, computed⟩ :=
    getElem?_of_mapM evaluated (assigned.getElem?_all positive)
  obtain ⟨decoded, raised⟩ := laidOut.entry_of_full full isLocal scopeFound found computed
  refine ⟨exponent, potential, ?_, ?_, decoded, raised⟩
  · unfold PotentialTable.exponentAt PotentialTable.selected
    rw [exponents, List.getElem?_map, stands]
    rfl
  · unfold PotentialTable.potentialAt PotentialTable.selected
    rw [potentials, List.getElem?_map, stands]
    rfl

end Full

section Network

variable {model : Model Float} {codes : List Nat}

/-- Tables built one after the other are those of the model at the start. -/
theorem LaidOut.mapM_buildTable_eq (laidOut : model.LaidOut) (rules : List (Rule Float)) :
    rules.mapM buildTable model = Effect.ofExcept (rules.mapM model.table) model := by
  have each : ∀ rule ∈ rules, ∀ state, state = model →
      ∃ finish, finish = model ∧
        buildTable rule state = Effect.ofExcept (model.table rule) finish := by
    rintro rule _ state rfl
    exact ⟨state, rfl, laidOut.buildTable_eq rule⟩
  obtain ⟨finish, same, built⟩ := Effect.mapM_of_invariant each rfl
  rw [built, same]

/-- The selected exponents of some rules, in their order. -/
theorem LaidOut.selected_exponents (laidOut : model.LaidOut)
    (full : Assignment.IsAssignment model.cardinalities codes) {rules : List (Rule Float)}
    (areLocal : ∀ rule ∈ rules, rule.IsLocal) {tables : List PotentialTable}
    (built : rules.mapM model.table = .ok tables) :
    ∃ distances,
      (rules.mapM fun rule =>
        rule.incompatibility (model.settled (Choice.ofCodes (codes.map Int.ofNat)))) =
          .ok distances ∧
      (tables.mapM fun table => table.exponentAt codes) =
        some (List.zipWith (fun rule distance => -rule.weight * distance) rules distances) := by
  induction rules generalizing tables with
  | nil =>
      cases mapM_nil_eq_ok_iff.mp built
      exact ⟨[], rfl, rfl⟩
  | cons rule rules ih =>
      obtain ⟨table, others, head, tail, rfl⟩ := mapM_cons_eq_ok_iff.mp built
      obtain ⟨distances, measured, exponents⟩ :=
        ih (fun other member => areLocal other (List.mem_cons_of_mem rule member)) tail
      obtain ⟨exponent, _, stands, _, decoded, _⟩ :=
        laidOut.selected_entry full (areLocal rule List.mem_cons_self) head
      obtain ⟨distance, computed, rfl⟩ := Rule.logPotential_eq_ok_iff.mp decoded
      refine ⟨distance :: distances, ?_, ?_⟩
      · exact mapM_cons_eq_ok_iff.mpr ⟨distance, distances, computed, measured, rfl⟩
      · rw [List.mapM_cons, stands, exponents]
        rfl

theorem sum_exactValue_exponents (rules : List (Rule Float)) (distances : List Float) :
    ((List.zipWith (fun rule distance => -rule.weight * distance) rules distances).map
        Doubles.exactValue).sum =
      -(List.zipWith (fun rule distance => Doubles.exactValue (rule.weight * distance)) rules
        distances).sum := by
  induction rules generalizing distances with
  | nil => rfl
  | cons rule rules ih =>
      cases distances with
      | nil => rfl
      | cons distance distances =>
          rw [List.zipWith_cons_cons, List.map_cons, List.sum_cons, ih,
            List.zipWith_cons_cons, List.sum_cons, Doubles.exactValue_neg_mul, Rat.neg_add]

/-- Encoder and decoder mean the same by a code. In the table of each rule the codes of a full
solution select the exponent and the potential that the rule has once the solution is decoded, and
over all rules the selected exponents add up to the negated weighted incompatibilities. -/
theorem decoded_solution_selects_potentials (laidOut : model.LaidOut)
    (full : Assignment.IsAssignment model.cardinalities codes) :
    ∃ decoded, Solution.apply (codes.map Int.ofNat) model = .ok () decoded ∧
      (∀ rule table finish, rule.IsLocal → buildTable rule model = .ok table finish →
        finish = model ∧ model.scopeOf rule = .ok table.scope ∧
        model.cardinalitiesAt (table.scope.map Int.ofNat) = .ok table.cardinalities ∧
        ∃ distance potential,
          rule.incompatibility decoded.values = .ok distance ∧
          table.exponentAt codes = some (-rule.weight * distance) ∧
          table.potentialAt codes = some potential ∧
          exponential (-rule.weight * distance) = .ok potential ∧
          rule.potential decoded.values = .ok potential) ∧
      (∀ tables finish, (∀ rule ∈ model.rules, rule.IsLocal) →
        model.rules.mapM buildTable model = .ok tables finish →
        ∃ distances exponents,
          (model.rules.mapM fun rule => rule.incompatibility decoded.values) = .ok distances ∧
          (tables.mapM fun table => table.exponentAt codes) = some exponents ∧
          (exponents.map Doubles.exactValue).sum =
            -(List.zipWith (fun rule distance => Doubles.exactValue (rule.weight * distance))
              model.rules distances).sum) := by
  refine ⟨_, laidOut.apply_full full, ?_, ?_⟩
  · intro rule table finish isLocal success
    rw [laidOut.buildTable_eq] at success
    obtain ⟨built, same⟩ := Effect.ofExcept_eq_ok_iff.mp success
    obtain ⟨blocks, entries, scopeFound, found, sameCardinalities, _⟩ := table_eq_ok built
    obtain ⟨exponent, potential, exponentStands, potentialStands, decoded, raised⟩ :=
      laidOut.selected_entry full isLocal built
    obtain ⟨distance, measured, rfl⟩ := Rule.logPotential_eq_ok_iff.mp decoded
    refine ⟨same, scopeFound, ?_, distance, potential, measured, exponentStands,
      potentialStands, raised, ?_⟩
    · unfold cardinalitiesAt
      rw [found, sameCardinalities]
      rfl
    · unfold Rule.potential
      change (rule.logPotential (model.settled _) >>= exponential) = _
      rw [decoded]
      exact raised
  · intro tables finish areLocal success
    rw [laidOut.mapM_buildTable_eq] at success
    obtain ⟨built, _⟩ := Effect.ofExcept_eq_ok_iff.mp success
    obtain ⟨distances, measured, exponents⟩ := laidOut.selected_exponents full areLocal built
    exact ⟨distances, _, measured, exponents, sum_exactValue_exponents model.rules distances⟩

end Network

section Switch

/-- A rule that asks for the first variable, with a weight that no potential survives. -/
def switchRule : Rule Float :=
  { weight := 800.0, name := "first", body := .clause [⟨0, true⟩] false }

/-- One block of two variables and one rule. -/
def switchModel : Model Float :=
  { ({} : Model Float).grow [0.0, 0.0] (some 0) with
    blocks := [⟨0, 2, true⟩]
    rules := [switchRule] }

theorem laidOut_switchModel : switchModel.LaidOut := by
  have filled : ([0.0, 0.0] : List Float) ≠ [] := List.cons_ne_nil _ _
  exact (laidOut_empty.grow_block filled true).of_sameLayout rfl rfl rfl

theorem buildTable_switchRule :
    buildTable switchRule switchModel =
      .ok ⟨[0], [2], [-0.0, -800.0], [1.0, 0.0]⟩ switchModel := by
  have found : switchModel.scopeOf switchRule = .ok [0] :=
    scopeOf_eq_ok_iff.mpr ⟨[some 0], rfl, List.mergeSort_singleton 0⟩
  rw [laidOut_switchModel.buildTable_eq]
  unfold table
  rw [found]
  rfl

theorem decoded_solution_selects_potentials_switch :
    switchModel.LaidOut ∧ Assignment.IsAssignment switchModel.cardinalities [1] ∧
      ∃ decoded distance, Solution.apply [1] switchModel = .ok () decoded ∧
        switchRule.incompatibility decoded.values = .ok distance ∧
        -switchRule.weight * distance = -800.0 := by
  have full : Assignment.IsAssignment switchModel.cardinalities [1] := ⟨by decide, trivial⟩
  have isLocal : switchRule.IsLocal := by
    intro custom form
    cases form
  obtain ⟨decoded, applied, eachRule, _⟩ :=
    decoded_solution_selects_potentials laidOut_switchModel full
  obtain ⟨_, _, _, distance, _, measured, selected, _⟩ :=
    eachRule switchRule _ _ isLocal buildTable_switchRule
  refine ⟨laidOut_switchModel, full, decoded, distance, applied, measured, ?_⟩
  exact (Option.some.inj selected).symm

end Switch

end Model

end HingeField
