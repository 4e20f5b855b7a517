import HingeField.Proofs.Roots
import HingeField.Proofs.Sequence
import HingeField.Register
import Mathlib.Data.List.Basic

/-!
The components of a register. Grouping by root lists the roots in the order in
which they are first met, each with its keys in their order. Main statements:
the components are the groups of some labelling of the listed variables, in
which the listed atoms of one rule have one label; and the rules filed under a
variable are the registered rules that refer to it, in their order.
-/

namespace HingeField

namespace Keyed

variable {κ ι : Type} [BEq κ] [LawfulBEq κ]

theorem alter_map {ν : Type} (change : Option ν → ν) (key : κ) (value : κ → ν) {keys : List κ}
    (distinct : keys.Nodup) :
    alter change key (keys.map fun other => (other, value other)) =
      if keys.contains key then
        keys.map fun other => (other, if other == key then change (some (value other))
          else value other)
      else (keys.map fun other => (other, value other)) ++ [(key, change none)] := by
  induction keys with
  | nil => rfl
  | cons head keys ih =>
      rw [List.nodup_cons] at distinct
      rw [List.map_cons, alter]
      by_cases same : key = head
      · subst same
        have unchanged : keys.map (fun other => (other,
            if other == key then change (some (value other)) else value other)) =
            keys.map fun other => (other, value other) := by
          apply List.map_congr_left
          intro other member
          have different : other ≠ key := fun equal => distinct.1 (equal ▸ member)
          rw [if_neg (by simpa using different)]
        simp [unchanged]
      · have apart : (key == head) = false := beq_false_of_ne same
        have other : (head == key) = false := beq_false_of_ne (Ne.symm same)
        rw [apart, ih distinct.2, List.contains_cons, apart]
        simp only [Bool.false_eq_true, if_false, Bool.false_or]
        split
        · rw [List.map_cons, other]
          rfl
        · rfl

/-- The items under each of their labels, the labels in the order of their first items. -/
def grouped (label : ι → κ) (items : List ι) : List (κ × List ι) :=
  (items.map label).eraseDups.map fun key => (key, items.filter fun item => label item == key)

theorem append_grouped (label : ι → κ) (items : List ι) (item : ι) :
    append (grouped label items) (label item) item = grouped label (items ++ [item]) := by
  unfold append grouped
  rw [alter_map _ _ _ (nodup_eraseDups _), List.map_append, List.eraseDups_append]
  have known : ((items.map label).eraseDups.contains (label item)) =
      (items.map label).contains (label item) := by
    rw [Bool.eq_iff_iff, List.contains_iff_mem, List.contains_iff_mem, List.mem_eraseDups]
  rw [known]
  by_cases old : (items.map label).contains (label item) = true
  · rw [if_pos old]
    have nothingNew : ([item].map label).removeAll (items.map label) = [] := by
      simpa [List.removeAll] using old
    rw [nothingNew, List.eraseDups_nil, List.append_nil]
    apply List.map_congr_left
    intro key _
    rw [List.filter_append]
    by_cases here : key = label item
    · subst here
      simp
    · have apart : (label item == key) = false := beq_false_of_ne (Ne.symm here)
      simp [here, apart]
  · rw [if_neg old]
    have oneNew : ([item].map label).removeAll (items.map label) = [label item] := by
      simpa [List.removeAll] using old
    rw [oneNew, List.map_append]
    have absent : label item ∉ items.map label := by
      simpa only [List.contains_iff_mem] using old
    congr 1
    · apply List.map_congr_left
      intro key member
      have different : label item ≠ key := by
        rintro rfl
        exact absent (List.mem_eraseDups.mp member)
      rw [List.filter_append, List.filter_cons, beq_false_of_ne different]
      simp
    · have unfiled : items.filter (fun other => label other == label item) = [] := by
        rw [List.filter_eq_nil_iff]
        intro other member same
        exact absent (eq_of_beq same ▸ List.mem_map_of_mem member)
      have single : [label item].eraseDups = [label item] := by
        rw [List.eraseDups_cons]
        rfl
      simp [single, unfiled]

theorem foldl_append_eq_grouped (label : ι → κ) (items : List ι) :
    items.foldl (fun groups item => append groups (label item) item) [] =
      grouped label items := by
  have from_groups (done rest : List ι) :
      rest.foldl (fun groups item => append groups (label item) item) (grouped label done) =
        grouped label (done ++ rest) := by
    induction rest generalizing done with
    | nil => rw [List.append_nil, List.foldl_nil]
    | cons item rest ih =>
        rw [List.foldl_cons, append_grouped, ih, List.append_assoc]
        rfl
  exact from_groups [] items

end Keyed

namespace Forest

theorem keys_singletons (keys : List Int) : (singletons keys).keys = keys := by
  unfold singletons Forest.keys
  rw [List.map_map]
  exact List.map_id _

theorem parent_singletons (keys : List Int) (key : Int) : (singletons keys).parent key = key := by
  unfold singletons parent
  induction keys with
  | nil => rfl
  | cons head keys ih =>
      rw [List.map_cons, List.lookup_cons]
      by_cases same : key = head
      · rw [same, beq_self_eq_true]
        rfl
      · rw [beq_false_of_ne same]
        exact ih

theorem ranked_singletons (keys : List Int) : (singletons keys).Ranked := by
  refine ⟨fun _ => 0, ?_, ?_⟩
  · intro key member
    rw [parent_singletons]
    exact member
  · intro key moved
    exact absurd (parent_singletons keys key) moved

/-- A ranked forest over the same keys, in which nothing is apart that was together. -/
structure Joins (forest joined : Forest) : Prop where
  ranked : joined.Ranked
  keys : joined.keys = forest.keys
  together : ∀ left right, forest.Together left right → joined.Together left right

theorem Ranked.joins_refl {forest : Forest} (ranked : forest.Ranked) : Joins forest forest :=
  ⟨ranked, rfl, fun _ _ together => together⟩

theorem Joins.trans {first second third : Forest} (left : Joins first second)
    (right : Joins second third) : Joins first third :=
  ⟨right.ranked, right.keys.trans left.keys, fun key other together =>
    right.together key other (left.together key other together)⟩

theorem Ranked.joins_unite {forest : Forest} (ranked : forest.Ranked) {first second : Int}
    (memberFirst : first ∈ forest.keys) (memberSecond : second ∈ forest.keys) :
    Joins forest (forest.unite first second) ∧
      (forest.unite first second).Together first second := by
  obtain ⟨rankedAfter, sameKeys, together⟩ := ranked.unite_spec memberFirst memberSecond
  refine ⟨⟨rankedAfter, sameKeys, fun left right before => (together left right).mpr (Or.inl before)⟩,
    ?_⟩
  exact (together first second).mpr
    (Or.inr (Or.inl ⟨ranked.together_refl first, ranked.together_refl second⟩))

theorem Ranked.joins_foldl_unite {forest : Forest} (ranked : forest.Ranked) {first : Int}
    {others : List Int} (memberFirst : first ∈ forest.keys)
    (members : ∀ key ∈ others, key ∈ forest.keys) :
    Joins forest (others.foldl (fun forest other => forest.unite first other) forest) ∧
      ∀ key ∈ others,
        (others.foldl (fun forest other => forest.unite first other) forest).Together first key := by
  induction others generalizing forest with
  | nil => exact ⟨ranked.joins_refl, fun key member => by cases member⟩
  | cons other others ih =>
      obtain ⟨joins, united⟩ := ranked.joins_unite memberFirst (members other List.mem_cons_self)
      obtain ⟨joinsRest, unitedRest⟩ := ih joins.ranked (joins.keys ▸ memberFirst)
        fun key member => joins.keys ▸ members key (List.mem_cons_of_mem other member)
      refine ⟨joins.trans joinsRest, ?_⟩
      intro key member
      rcases List.mem_cons.mp member with same | later
      · rw [same]
        exact joinsRest.together first other united
      · exact unitedRest key later

/-- Uniting a list of keys puts them into one set. -/
theorem Ranked.joins_uniteAll {forest : Forest} (ranked : forest.Ranked) {listed : List Int}
    (members : ∀ key ∈ listed, key ∈ forest.keys) :
    Joins forest (forest.uniteAll listed) ∧
      ∀ left ∈ listed, ∀ right ∈ listed, (forest.uniteAll listed).Together left right := by
  cases listed with
  | nil => exact ⟨ranked.joins_refl, fun left member => by cases member⟩
  | cons first others =>
      obtain ⟨joins, united⟩ :=
        ranked.joins_foldl_unite (members first List.mem_cons_self) fun key member =>
          members key (List.mem_cons_of_mem first member)
      have fromFirst (key : Int) (member : key ∈ first :: others) :
          (forest.uniteAll (first :: others)).Together first key := by
        rcases List.mem_cons.mp member with same | later
        · rw [same]
          exact joins.ranked.together_refl first
        · exact united key later
      refine ⟨joins, ?_⟩
      intro left memberLeft right memberRight
      exact (fromFirst left memberLeft).symm.trans (fromFirst right memberRight)

/-- The sets of a forest as groups of the listed keys by their roots. -/
theorem Ranked.groupsOf_eq {forest : Forest} (ranked : forest.Ranked) (listed : List Int) :
    forest.groupsOf listed =
      (Keyed.grouped (fun key => (forest.find key).1) listed).map (·.2) := by
  have walked (rest : List Int) (current : Forest) (groups : List (Int × List Int))
      (currentRanked : current.Ranked) (same : SameRoots forest current) :
      (rest.foldl (fun (state : Forest × List (Int × List Int)) key =>
        ((state.1.find key).2, Keyed.append state.2 (state.1.find key).1 key))
          (current, groups)).2 =
        rest.foldl (fun groups key => Keyed.append groups (forest.find key).1 key) groups := by
    induction rest generalizing current groups with
    | nil => rfl
    | cons key rest ih =>
        obtain ⟨leads, rankedAfter, sameAfter⟩ := currentRanked.find_spec key
        have sameRoot : (current.find key).1 = (forest.find key).1 :=
          ((same.2 key _).mp leads).unique (ranked.find_spec key).1
        rw [List.foldl_cons, List.foldl_cons, ih _ _ rankedAfter (same.trans sameAfter), sameRoot]
  unfold groupsOf
  rw [← Keyed.foldl_append_eq_grouped, ← walked listed forest [] ranked ⟨rfl, fun _ _ => Iff.rfl⟩]

end Forest

namespace Register

variable {α : Type}

/-- The forest after the listed atoms of each rule have been united. -/
def uniteRules (listed : List Int) (forest : Forest) (rules : List (Rule α)) : Forest :=
  rules.foldl
    (fun forest rule => forest.uniteAll (rule.atoms.filter fun atom => listed.contains atom))
    forest

theorem joins_uniteRules {listed : List Int} {forest : Forest} (ranked : forest.Ranked)
    (sameKeys : forest.keys = listed) (rules : List (Rule α)) :
    Forest.Joins forest (uniteRules listed forest rules) ∧
      ∀ rule ∈ rules, ∀ first ∈ rule.atoms, ∀ second ∈ rule.atoms,
        first ∈ listed → second ∈ listed →
        (uniteRules listed forest rules).Together first second := by
  induction rules generalizing forest with
  | nil => exact ⟨ranked.joins_refl, fun rule member => by cases member⟩
  | cons rule rules ih =>
      have mem_kept (atom : Int) :
          atom ∈ rule.atoms.filter (fun atom => listed.contains atom) ↔
            atom ∈ rule.atoms ∧ atom ∈ listed := by
        rw [List.mem_filter, List.contains_iff_mem]
      obtain ⟨joins, united⟩ := ranked.joins_uniteAll fun atom member => by
        rw [sameKeys]
        exact ((mem_kept atom).mp member).2
      obtain ⟨joinsRest, unitedRest⟩ := ih joins.ranked (joins.keys.trans sameKeys)
      refine ⟨joins.trans joinsRest, ?_⟩
      intro other member first memberFirst second memberSecond listedFirst listedSecond
      rcases List.mem_cons.mp member with same | later
      · subst same
        exact joinsRest.together first second
          (united first ((mem_kept first).mpr ⟨memberFirst, listedFirst⟩) second
            ((mem_kept second).mpr ⟨memberSecond, listedSecond⟩))
      · exact unitedRest other later first memberFirst second memberSecond listedFirst
          listedSecond

/-- The components are the groups of a labelling that labels the listed atoms of a rule alike. -/
theorem components_eq (register : Register α) (indices : List Int) :
    ∃ label : Int → Int,
      register.components indices = (Keyed.grouped label indices.eraseDups).map (·.2) ∧
      ∀ rule ∈ register.rules, ∀ first ∈ rule.atoms, ∀ second ∈ rule.atoms,
        first ∈ indices → second ∈ indices → label first = label second := by
  obtain ⟨joins, united⟩ := joins_uniteRules (Forest.ranked_singletons indices.eraseDups)
    (Forest.keys_singletons _) register.rules
  refine ⟨_, joins.ranked.groupsOf_eq indices.eraseDups, ?_⟩
  intro rule member first memberFirst second memberSecond listedFirst listedSecond
  obtain ⟨root, leadsFirst, leadsSecond⟩ :=
    united rule member first memberFirst second memberSecond
      (List.mem_eraseDups.mpr listedFirst) (List.mem_eraseDups.mpr listedSecond)
  exact ((joins.ranked.find_spec first).1.unique leadsFirst).trans
    (leadsSecond.unique (joins.ranked.find_spec second).1)

/-- Components have members that are listed. -/
theorem mem_of_mem_components {register : Register α} {indices members : List Int}
    (component : members ∈ register.components indices) {index : Int} (member : index ∈ members) :
    index ∈ indices := by
  obtain ⟨label, components, _⟩ := register.components_eq indices
  rw [components] at component
  obtain ⟨group, grouped, rfl⟩ := List.mem_map.mp component
  obtain ⟨key, _, rfl⟩ := List.mem_map.mp grouped
  exact List.mem_eraseDups.mp (List.mem_filter.mp member).1

section Filing

/-- Filing a position under some atoms puts it behind the positions filed there already. -/
theorem lookup_foldl_append (entries : List (Int × List Nat)) (position : Nat) {atoms : List Int}
    (distinct : atoms.Nodup) (asked : Int) :
    ((atoms.foldl (fun byAtom atom => Keyed.append byAtom atom position) entries).lookup
        asked).getD [] =
      (entries.lookup asked).getD [] ++ if asked ∈ atoms then [position] else [] := by
  induction atoms generalizing entries with
  | nil => rw [if_neg List.not_mem_nil, List.append_nil, List.foldl_nil]
  | cons atom atoms ih =>
      rw [List.nodup_cons] at distinct
      rw [List.foldl_cons, ih _ distinct.2]
      by_cases same : asked = atom
      · subst same
        unfold Keyed.append
        rw [Keyed.lookup_alter_self, if_neg distinct.1, if_pos List.mem_cons_self,
          List.append_nil]
        rfl
      · unfold Keyed.append
        rw [Keyed.lookup_alter_of_ne _ same]
        simp only [List.mem_cons, same, false_or]

theorem positionsFor_insert (register : Register α) (rule : Rule α) (asked : Int) :
    (register.insert rule).positionsFor asked =
      register.positionsFor asked ++
        if asked ∈ rule.atoms then [register.rules.length] else [] := by
  unfold positionsFor insert
  rw [lookup_foldl_append _ _ (nodup_eraseDups _)]
  simp only [List.mem_eraseDups]

theorem rules_ofList (rules : List (Rule α)) : (ofList rules).rules = rules := by
  have from_register (register : Register α) :
      (rules.foldl insert register).rules = register.rules ++ rules := by
    induction rules generalizing register with
    | nil => rw [List.foldl_nil, List.append_nil]
    | cons rule rules ih =>
        rw [List.foldl_cons, ih]
        change (register.rules ++ [rule]) ++ rules = _
        rw [List.append_assoc]
        rfl
  exact from_register {}

/-- Every position filed in the register is that of a registered rule. -/
def IsFiled (register : Register α) : Prop :=
  ∀ atom, ∀ position ∈ register.positionsFor atom, position < register.rules.length

theorem rulesFor_insert {register : Register α} (filed : register.IsFiled) (rule : Rule α)
    (asked : Int) :
    (register.insert rule).rulesFor asked =
      register.rulesFor asked ++ if asked ∈ rule.atoms then [rule] else [] := by
  have old : ((register.positionsFor asked).filterMap fun position =>
      (register.rules ++ [rule])[position]?) = register.rulesFor asked := by
    apply List.filterMap_congr
    intro position member
    exact List.getElem?_append_left (filed asked position member)
  unfold rulesFor
  rw [positionsFor_insert, List.filterMap_append]
  change (_ : List (Rule α)) ++ _ = _
  congr 1
  split
  · simp [insert]
  · rfl

theorem IsFiled.insert {register : Register α} (filed : register.IsFiled) (rule : Rule α) :
    (register.insert rule).IsFiled := by
  intro atom position member
  rw [positionsFor_insert, List.mem_append] at member
  change position < (register.rules ++ [rule]).length
  rw [List.length_append, List.length_singleton]
  rcases member with old | new
  · have := filed atom position old
    omega
  · split at new
    · rw [List.mem_singleton.mp new]
      omega
    · cases new

/-- A variable has the registered rules that refer to it, in the order of registration. -/
theorem rulesFor_ofList (rules : List (Rule α)) (asked : Int) :
    (ofList rules).rulesFor asked = rules.filter fun rule => rule.atoms.contains asked := by
  have from_register (register : Register α) (filed : register.IsFiled) :
      (rules.foldl insert register).rulesFor asked =
        register.rulesFor asked ++ rules.filter fun rule => rule.atoms.contains asked := by
    induction rules generalizing register with
    | nil => rw [List.foldl_nil, List.filter_nil, List.append_nil]
    | cons rule rules ih =>
        rw [List.foldl_cons, ih _ (filed.insert rule), rulesFor_insert filed, List.append_assoc]
        congr 1
        by_cases member : asked ∈ rule.atoms
        · rw [if_pos member, List.filter_cons, List.contains_iff_mem.mpr member]
          rfl
        · have apart : rule.atoms.contains asked = false := by simpa using member
          rw [if_neg member, List.filter_cons, apart]
          rfl
  exact from_register {} fun atom position member => by cases member

end Filing

end Register

end HingeField
