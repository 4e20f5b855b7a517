import HingeField.Proofs.Ancestry
import HingeField.Proofs.Components

/-!
The moments of the search for components. Taken one change of the parent map
after the other, it unites the listed atoms of each rule with the first of them,
for which it searches two roots and hangs the second below the first unless
they are one, and then searches a root for each variable to group by. Main
statement: at each of these moments the parent map is a forest over exactly the
given variables, each step but the hanging of a root keeps all roots and that
one joins two classes, and the steps come to an end with the components.
-/

namespace HingeField

/-- What the root that is searched for is to be used for. -/
inductive Purpose where
  | first (second : Int)
  | second (firstRoot : Int)
  | group (member : Int)

/-- The parent map, the pairs of variables that are still to be united, the variables that are still
to be grouped, the groups so far, and the search under way with the key it has come to. -/
structure Moment where
  forest : Forest
  pairs : List (Int × Int)
  pending : List Int
  groups : List (Int × List Int) := []
  search : Option (Int × Purpose) := none

namespace Moment

/-- What is done with a root that has been found. -/
def useRoot (moment : Moment) (root : Int) : Purpose → Moment
  | .first second => { moment with search := some (second, .second root) }
  | .second firstRoot =>
      { moment with
        forest := if firstRoot = root then moment.forest else moment.forest.hang root firstRoot
        search := none }
  | .group member =>
      { moment with groups := Keyed.append moment.groups root member, search := none }

/-- The next moment: another round of the search under way, the use of the root it has come to, or
the start of another search. At the last moment there is none of them. -/
def step? (moment : Moment) : Option Moment :=
  match moment.search with
  | some (key, purpose) =>
      match Forest.climb? (moment.forest, key) with
      | some (forest, higher) => some { moment with forest, search := some (higher, purpose) }
      | none => some (moment.useRoot key purpose)
  | none =>
      match moment.pairs, moment.pending with
      | (first, second) :: pairs, _ =>
          some { moment with pairs, search := some (first, .first second) }
      | [], member :: pending =>
          some { moment with pending, search := some (member, .group member) }
      | [], [] => none

end Moment

namespace Register

variable {α : Type}

/-- The listed atoms of a rule behind the first of them, each with that one. -/
def pairsOf (listed : List Int) (rule : Rule α) : List (Int × Int) :=
  match rule.atoms.filter fun atom => listed.contains atom with
  | [] => []
  | first :: others => others.map fun other => (first, other)

/-- The moment at which every variable is a root. -/
def firstMoment (register : Register α) (indices : List Int) : Moment where
  forest := Forest.singletons indices.eraseDups
  pairs := register.rules.flatMap (pairsOf indices.eraseDups)
  pending := indices.eraseDups

end Register

namespace Moment

open Forest (SameRoots Spans MergesRoots)

variable {moment next : Moment} {listed : List Int}

section Soundness

/-- What a search for some purpose relies on. -/
def IsMeant (forest : Forest) (listed : List Int) : Purpose → Prop
  | .first second => second ∈ listed
  | .second firstRoot => firstRoot ∈ listed ∧ forest.parent firstRoot = firstRoot
  | .group _ => True

/-- The parent map is a forest over the listed variables, and nothing but these is still to be
united, grouped or searched from. -/
structure IsSound (listed : List Int) (moment : Moment) : Prop where
  spans : moment.forest.Spans listed
  pairs : ∀ pair ∈ moment.pairs, pair.1 ∈ listed ∧ pair.2 ∈ listed
  pending : ∀ member ∈ moment.pending, member ∈ listed
  search : ∀ key purpose, moment.search = some (key, purpose) →
    key ∈ listed ∧ IsMeant moment.forest listed purpose

/-- How a step changes the parent map: it keeps all roots, or, where the second of two searches has
come to another root than the first, it merges the classes of the two. -/
def Changes (moment next : Moment) : Prop :=
  SameRoots moment.forest next.forest ∨
    ∃ first second, moment.search = some (second, .second first) ∧
      MergesRoots moment.forest next.forest first second

theorem isMeant_of_sameRoots {forest other : Forest} (same : SameRoots forest other)
    {purpose : Purpose} (meant : IsMeant forest listed purpose) : IsMeant other listed purpose := by
  cases purpose with
  | first second => exact meant
  | second firstRoot =>
      exact ⟨meant.1, same.isRoot meant.2⟩
  | group member => trivial

theorem IsSound.round (sound : moment.IsSound listed) {key higher : Int} {purpose : Purpose}
    {forest : Forest} (under : moment.search = some (key, purpose))
    (round : Forest.climb? (moment.forest, key) = some (forest, higher)) :
    IsSound listed { moment with forest, search := some (higher, purpose) } ∧
      SameRoots moment.forest forest := by
  obtain ⟨member, meant⟩ := sound.search key purpose under
  have climbed := sound.spans.climbed_round member round
  refine ⟨⟨climbed.spans, sound.pairs, sound.pending, ?_⟩, climbed.sameRoots⟩
  intro _ _ same
  cases same
  exact ⟨climbed.member, isMeant_of_sameRoots climbed.sameRoots meant⟩

theorem IsSound.useRoot (sound : moment.IsSound listed) {root : Int} {purpose : Purpose}
    (under : moment.search = some (root, purpose))
    (isRoot : moment.forest.parent root = root) :
    (moment.useRoot root purpose).IsSound listed ∧
      Changes moment (moment.useRoot root purpose) := by
  obtain ⟨member, meant⟩ := sound.search root purpose under
  have keeps := SameRoots.refl moment.forest
  cases purpose with
  | first second =>
      refine ⟨⟨sound.spans, sound.pairs, sound.pending, ?_⟩, Or.inl keeps⟩
      intro _ _ same
      cases same
      exact ⟨meant, member, isRoot⟩
  | second firstRoot =>
      by_cases united : firstRoot = root
      · have unchanged : (moment.useRoot root (.second firstRoot)).forest = moment.forest :=
          if_pos united
        refine ⟨⟨unchanged ▸ sound.spans, sound.pairs, sound.pending, fun _ _ impossible => ?_⟩,
          Or.inl (unchanged ▸ keeps)⟩
        cases impossible
      · -- the first root is one still: the rounds of the second search have kept all roots
        have hung : (moment.useRoot root (.second firstRoot)).forest =
            moment.forest.hang root firstRoot := if_neg united
        obtain ⟨spans, merges⟩ :=
          sound.spans.mergesRoots meant.2 isRoot united meant.1 member
        refine ⟨⟨hung ▸ spans, sound.pairs, sound.pending, fun _ _ impossible => ?_⟩,
          Or.inr ⟨firstRoot, root, under, hung ▸ merges⟩⟩
        cases impossible
  | group grouped =>
      refine ⟨⟨sound.spans, sound.pairs, sound.pending, fun _ _ impossible => ?_⟩, Or.inl keeps⟩
      cases impossible

theorem IsSound.begin (sound : moment.IsSound listed) (idle : moment.search = none)
    (step : moment.step? = some next) : next.IsSound listed ∧ next.forest = moment.forest := by
  unfold step? at step
  rw [idle] at step
  cases waiting : moment.pairs with
  | cons pair pairs =>
      obtain ⟨first, second⟩ := pair
      rw [waiting] at step
      cases step
      have members := sound.pairs (first, second) (waiting ▸ List.mem_cons_self)
      refine ⟨⟨sound.spans, fun pair later => ?_, sound.pending, ?_⟩, rfl⟩
      · exact sound.pairs pair (waiting ▸ List.mem_cons_of_mem _ later)
      · intro _ _ same
        cases same
        exact members
  | nil =>
      cases left : moment.pending with
      | nil =>
          rw [waiting, left] at step
          cases step
      | cons member pending =>
          rw [waiting, left] at step
          cases step
          refine ⟨⟨sound.spans, fun pair none => absurd none List.not_mem_nil,
            fun other later => ?_, ?_⟩, rfl⟩
          · exact sound.pending other (left ▸ List.mem_cons_of_mem _ later)
          · intro _ _ same
            cases same
            exact ⟨sound.pending member (left ▸ List.mem_cons_self), trivial⟩

/-- Every step leads from a forest over the listed variables to another one, keeping all roots or
merging two classes. -/
theorem IsSound.step (sound : moment.IsSound listed) (step : moment.step? = some next) :
    next.IsSound listed ∧ Changes moment next := by
  cases under : moment.search with
  | none =>
      obtain ⟨after, same⟩ := sound.begin under step
      exact ⟨after, Or.inl (same ▸ SameRoots.refl next.forest)⟩
  | some search =>
      obtain ⟨key, purpose⟩ := search
      unfold step? at step
      rw [under] at step
      simp only at step
      cases round : Forest.climb? (moment.forest, key) with
      | none =>
          rw [round] at step
          cases step
          exact sound.useRoot under (Forest.climb?_eq_none_iff.mp round)
      | some state =>
          rw [round] at step
          cases step
          obtain ⟨after, same⟩ := sound.round under round
          exact ⟨after, Or.inl same⟩

theorem IsSound.of_reaches (sound : moment.IsSound listed)
    (reached : StateTransition.Reaches step? moment next) : next.IsSound listed := by
  induction reached with
  | refl => exact sound
  | tail _ step ih => exact (ih.step step).1

end Soundness

section Course

open StateTransition (Reaches)

variable (moment : Moment) {forest : Forest}

/-- The rounds of a search are steps to further moments. -/
theorem reaches_rounds (purpose : Purpose) {start finish : Forest × Int}
    (rounds : Reaches Forest.climb? start finish) :
    Reaches step? { moment with forest := start.1, search := some (start.2, purpose) }
      { moment with forest := finish.1, search := some (finish.2, purpose) } := by
  induction rounds with
  | refl => exact Relation.ReflTransGen.refl
  | @tail before after _ round ih =>
      refine ih.tail ?_
      have taken : Forest.climb? (before.1, before.2) = some after := round
      change step? _ = some _
      unfold step?
      simp only [taken]

/-- A search comes to its end, and its root is used. -/
theorem reaches_useRoot (ranked : forest.Ranked) (key : Int) (purpose : Purpose) :
    Reaches step? { moment with forest, search := some (key, purpose) }
      ({ moment with forest := (forest.find key).2 }.useRoot (forest.find key).1 purpose) := by
  obtain ⟨rounds, atRoot⟩ := StateTransition.mem_eval.mp (ranked.find_mem_eval key)
  refine (reaches_rounds moment purpose rounds).tail ?_
  change step? _ = some _
  unfold step?
  simp only [atRoot]
  cases purpose with
  | first second => rfl
  | second firstRoot => rfl
  | group member => rfl

theorem reaches_unite (ranked : forest.Ranked) (first second : Int) (pairs : List (Int × Int)) :
    Reaches step? { moment with forest, pairs := (first, second) :: pairs, search := none }
      { moment with forest := forest.unite first second, pairs, search := none } := by
  obtain ⟨_, rankedFirst, _⟩ := ranked.find_spec first
  have begun : Reaches step?
      { moment with forest, pairs := (first, second) :: pairs, search := none }
      { moment with forest, pairs, search := some (first, .first second) } :=
    Relation.ReflTransGen.single rfl
  have searchedFirst := reaches_useRoot { moment with pairs } ranked first (.first second)
  have searchedSecond := reaches_useRoot { moment with pairs } rankedFirst second
    (.second (forest.find first).1)
  exact (begun.trans searchedFirst).trans searchedSecond

/-- The pairs are united one after the other. -/
theorem reaches_foldl_unite (ranked : forest.Ranked) {pairs : List (Int × Int)}
    (members : ∀ pair ∈ pairs, pair.1 ∈ forest.keys ∧ pair.2 ∈ forest.keys)
    (rest : List (Int × Int)) :
    Reaches step? { moment with forest, pairs := pairs ++ rest, search := none }
      { moment with
        forest := pairs.foldl (fun forest pair => forest.unite pair.1 pair.2) forest
        pairs := rest
        search := none } := by
  induction pairs generalizing forest with
  | nil => exact Relation.ReflTransGen.refl
  | cons pair pairs ih =>
      obtain ⟨firstMember, secondMember⟩ := members pair List.mem_cons_self
      obtain ⟨joins, _⟩ := ranked.joins_unite firstMember secondMember
      have later := ih joins.ranked fun other member =>
        joins.keys ▸ members other (List.mem_cons_of_mem pair member)
      exact (reaches_unite moment ranked pair.1 pair.2 (pairs ++ rest)).trans later

/-- The pending variables are grouped one after the other. -/
theorem reaches_grouped (ranked : forest.Ranked) (pending : List Int)
    (groups : List (Int × List Int)) :
    ∃ last, Reaches step? { forest, pairs := [], pending, groups }
      { forest := last
        pairs := []
        pending := []
        groups := (pending.foldl (fun (state : Forest × List (Int × List Int)) key =>
          ((state.1.find key).2, Keyed.append state.2 (state.1.find key).1 key))
            (forest, groups)).2 } := by
  induction pending generalizing forest groups with
  | nil => exact ⟨forest, Relation.ReflTransGen.refl⟩
  | cons member pending ih =>
      obtain ⟨_, rankedAfter, _⟩ := ranked.find_spec member
      have begun : Reaches step? { forest, pairs := [], pending := member :: pending, groups }
          { forest, pairs := [], pending, groups, search := some (member, .group member) } :=
        Relation.ReflTransGen.single rfl
      have searched := reaches_useRoot { forest, pairs := [], pending, groups } ranked member
        (.group member)
      obtain ⟨last, later⟩ :=
        ih rankedAfter (Keyed.append groups (forest.find member).1 member)
      exact ⟨last, (begun.trans searched).trans later⟩

end Course

end Moment

namespace Register

open StateTransition (Reaches)

variable {α : Type}

theorem mem_listed_of_mem_pairsOf {listed : List Int} {rule : Rule α} {pair : Int × Int}
    (member : pair ∈ pairsOf listed rule) : pair.1 ∈ listed ∧ pair.2 ∈ listed := by
  have kept : ∀ atom ∈ rule.atoms.filter (fun atom => listed.contains atom), atom ∈ listed :=
    fun atom present => List.contains_iff_mem.mp (List.mem_filter.mp present).2
  unfold pairsOf at member
  cases atoms : rule.atoms.filter fun atom => listed.contains atom with
  | nil =>
      rw [atoms] at member
      cases member
  | cons first others =>
      rw [atoms] at member kept
      obtain ⟨other, present, rfl⟩ := List.mem_map.mp member
      exact ⟨kept first List.mem_cons_self, kept other (List.mem_cons_of_mem first present)⟩

/-- Uniting rule after rule is uniting pair after pair. -/
theorem uniteRules_eq_foldl_pairs (listed : List Int) (forest : Forest) (rules : List (Rule α)) :
    uniteRules listed forest rules =
      (rules.flatMap (pairsOf listed)).foldl (fun forest pair => forest.unite pair.1 pair.2)
        forest := by
  induction rules generalizing forest with
  | nil => rfl
  | cons rule rules ih =>
      have head : forest.uniteAll (rule.atoms.filter fun atom => listed.contains atom) =
          (pairsOf listed rule).foldl (fun forest pair => forest.unite pair.1 pair.2) forest := by
        unfold pairsOf
        cases rule.atoms.filter fun atom => listed.contains atom with
        | nil => rfl
        | cons first others =>
            rw [List.foldl_map]
            rfl
      rw [List.flatMap_cons, List.foldl_append, ← head]
      exact ih _

theorem isSound_firstMoment (register : Register α) (indices : List Int) :
    (register.firstMoment indices).IsSound indices where
  spans := by
    have keys := Forest.keys_singletons indices.eraseDups
    refine (Forest.ranked_singletons _).spans ?_ ?_
    · rw [keys]
      exact nodup_eraseDups indices
    · rw [keys]
      exact fun key => List.mem_eraseDups
  pairs := by
    intro pair member
    obtain ⟨rule, _, paired⟩ := List.mem_flatMap.mp member
    obtain ⟨first, second⟩ := mem_listed_of_mem_pairsOf paired
    exact ⟨List.mem_eraseDups.mp first, List.mem_eraseDups.mp second⟩
  pending := fun _ member => List.mem_eraseDups.mp member
  search := by
    intro _ _ impossible
    cases impossible

/-- One moment is that at which the first so many rules have been united and no other one. -/
theorem reaches_uniteRules (register : Register α) (indices : List Int) (count : Nat) :
    Reaches Moment.step? (register.firstMoment indices)
      { register.firstMoment indices with
        forest := uniteRules indices.eraseDups (Forest.singletons indices.eraseDups)
          (register.rules.take count)
        pairs := (register.rules.drop count).flatMap (pairsOf indices.eraseDups) } := by
  rw [uniteRules_eq_foldl_pairs]
  have split : register.rules.flatMap (pairsOf indices.eraseDups) =
      (register.rules.take count).flatMap (pairsOf indices.eraseDups) ++
        (register.rules.drop count).flatMap (pairsOf indices.eraseDups) := by
    rw [← List.flatMap_append, List.take_append_drop]
  have members : ∀ pair ∈ (register.rules.take count).flatMap (pairsOf indices.eraseDups),
      pair.1 ∈ (Forest.singletons indices.eraseDups).keys ∧
        pair.2 ∈ (Forest.singletons indices.eraseDups).keys := by
    intro pair member
    obtain ⟨rule, _, paired⟩ := List.mem_flatMap.mp member
    rw [Forest.keys_singletons]
    exact mem_listed_of_mem_pairsOf paired
  have united := Moment.reaches_foldl_unite (register.firstMoment indices)
    (Forest.ranked_singletons indices.eraseDups) members
    ((register.rules.drop count).flatMap (pairsOf indices.eraseDups))
  rw [← split] at united
  exact united

/-- The steps come to an end with the components. -/
theorem exists_lastMoment (register : Register α) (indices : List Int) :
    ∃ last ∈ StateTransition.eval Moment.step? (register.firstMoment indices),
      last.groups.map (·.2) = register.components indices := by
  obtain ⟨joins, _⟩ := joins_uniteRules (Forest.ranked_singletons indices.eraseDups)
    (Forest.keys_singletons _) register.rules
  have united := reaches_uniteRules register indices register.rules.length
  rw [List.take_length, List.drop_length] at united
  obtain ⟨last, grouped⟩ := Moment.reaches_grouped joins.ranked indices.eraseDups []
  exact ⟨_, StateTransition.mem_eval.mpr ⟨united.trans grouped, rfl⟩, rfl⟩

/-- At every moment of the search for components the parent map is a forest over exactly the listed
variables, and each step keeps all roots or merges two classes; the map after each rule is among
these moments, and the steps come to an end with the components. In any forest the rounds of a
search keep the forest and all roots and come to an end with the root of the key, and uniting two
keys joins their classes and no others. -/
theorem components_pass_through_forests (register : Register α) (indices : List Int) :
    (∀ moment, Reaches Moment.step? (register.firstMoment indices) moment →
        moment.forest.Spans indices ∧ ∀ next, moment.step? = some next → moment.Changes next) ∧
      (∀ count, ∃ moment, Reaches Moment.step? (register.firstMoment indices) moment ∧
        moment.forest = uniteRules indices.eraseDups (Forest.singletons indices.eraseDups)
          (register.rules.take count)) ∧
      (∃ last ∈ StateTransition.eval Moment.step? (register.firstMoment indices),
        last.groups.map (·.2) = register.components indices) ∧
      ∀ (forest : Forest) (listed : List Int), forest.Spans listed → ∀ first ∈ listed,
        ((∀ state, Reaches Forest.climb? (forest, first) state →
              Forest.Climbed listed forest first state) ∧
            ((forest.find first).2, (forest.find first).1) ∈
              StateTransition.eval Forest.climb? (forest, first) ∧
            forest.Leads first (forest.find first).1) ∧
          ∀ second ∈ listed, (forest.unite first second).Spans listed ∧
            ∀ left right, (forest.unite first second).Together left right ↔
              forest.Together left right ∨
                (forest.Together left first ∧ forest.Together second right) ∨
                (forest.Together left second ∧ forest.Together first right) := by
  refine ⟨?_, fun count => ⟨_, reaches_uniteRules register indices count, rfl⟩,
    exists_lastMoment register indices, ?_⟩
  · intro moment reached
    have sound := (isSound_firstMoment register indices).of_reaches reached
    exact ⟨sound.spans, fun next step => (sound.step step).2⟩
  · intro forest listed spans first member
    have ranked := spans.ranked
    refine ⟨⟨fun state => spans.climbed_of_reaches member, ranked.find_mem_eval first,
      (ranked.find_spec first).1⟩, ?_⟩
    · intro second secondMember
      obtain ⟨rankedAfter, sameKeys, together⟩ := ranked.unite_spec
        ((spans.mem_keys_iff first).mpr member) ((spans.mem_keys_iff second).mpr secondMember)
      exact ⟨spans.of_ranked rankedAfter sameKeys, together⟩

/-- A search down a chain hangs the key it starts from below its grandparent. -/
example :
    (Forest.mk [(0, 0), (1, 0), (2, 1), (3, 2)]).find 3 =
      (0, Forest.mk [(0, 0), (1, 0), (2, 1), (3, 1)]) := by
  rfl

end Register

end HingeField
