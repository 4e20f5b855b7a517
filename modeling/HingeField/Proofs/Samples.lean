import HingeField.Proofs.Sequence
import HingeField.Sample
import Mathlib

/-!
Samples of a list. A choice of positions grows by one for each place, by the
candidate that is drawn or by the newest position if that is taken, and a
shuffle exchanges positions. Main statements: the seeded generator chooses
distinct positions below the population; with such choices a sample keeps items
in their order, and a stratified sample those of each name in ascending order of
the names, no place being used twice and as many items as asked for wherever
there are enough.
-/

namespace HingeField

namespace Random

namespace Generator

/-- Whatever is drawn again, the product is that of a word with the range. -/
theorem exists_word_of_redraw (range threshold tries : Nat) (drawn : Nat × Generator)
    (isProduct : ∃ word : UInt32, drawn.1 = word.toNat * range) :
    ∃ word : UInt32, (redraw range threshold tries drawn).1 = word.toNat * range := by
  induction tries generalizing drawn with
  | zero => exact isProduct
  | succ tries ih =>
      obtain ⟨product, generator⟩ := drawn
      unfold redraw
      split
      · exact ih _ ⟨_, rfl⟩
      · exact isProduct

theorem nextUpTo_le (most : Nat) (generator : Generator) : (generator.nextUpTo most).1 ≤ most := by
  have folded (word : UInt32) : word.toNat * (most + 1) / 0x100000000 ≤ most :=
    Nat.le_of_lt_succ (Nat.div_lt_of_lt_mul (Nat.mul_lt_mul_of_pos_right word.toNat_lt (by omega)))
  unfold nextUpTo
  split
  · exact Nat.zero_le most
  · dsimp only
    split
    · obtain ⟨word, product⟩ := exists_word_of_redraw (most + 1)
        ((0x100000000 - 1 - most) % (most + 1)) redrawLimit
        (generator.next32.1.toNat * (most + 1), generator.next32.2) ⟨_, rfl⟩
      rw [product]
      exact folded word
    · exact folded _

end Generator

/-- Distinct positions below a bound. -/
structure IsChoice (bound : Nat) (chosen : List Nat) : Prop where
  distinct : chosen.Nodup
  below : ∀ position ∈ chosen, position < bound

variable {bound : Nat} {chosen : List Nat}

theorem IsChoice.append (isChoice : IsChoice bound chosen) {position : Nat}
    (fresh : position ∉ chosen) (upper : position ≤ bound) :
    IsChoice (bound + 1) (chosen ++ [position]) := by
  constructor
  · exact List.nodup_append.mpr ⟨isChoice.distinct, List.nodup_singleton position, by
      intro earlier member other last same
      rw [List.mem_singleton.mp last] at same
      exact fresh (same ▸ member)⟩
  · intro other member
    rcases List.mem_append.mp member with early | last
    · have := isChoice.below other early
      omega
    · rw [List.mem_singleton.mp last]
      omega

theorem isChoice_chooseNext (isChoice : IsChoice bound chosen) (generator : Generator) :
    IsChoice (bound + 1) (chooseNext (chosen, generator) bound).1 ∧
      (chooseNext (chosen, generator) bound).1.length = chosen.length + 1 := by
  have upper := generator.nextUpTo_le bound
  unfold chooseNext
  dsimp only
  split
  · refine ⟨isChoice.append ?_ (Nat.le_refl bound), by simp⟩
    intro taken
    exact Nat.lt_irrefl bound (isChoice.below bound taken)
  · rename_i free
    refine ⟨isChoice.append ?_ upper, by simp⟩
    simpa using free

/-- A place for each position from some number on. -/
theorem isChoice_places (start count : Nat) (generator : Generator) :
    IsChoice (start + count)
        (((List.range count).map (start + ·)).foldl chooseNext ([], generator)).1 ∧
      (((List.range count).map (start + ·)).foldl chooseNext ([], generator)).1.length = count := by
  induction count with
  | zero => exact ⟨⟨List.nodup_nil, fun _ member => absurd member List.not_mem_nil⟩, rfl⟩
  | succ count ih =>
      rw [List.range_succ, List.map_append, List.foldl_append]
      obtain ⟨isChoice, length⟩ := ih
      obtain ⟨next, longer⟩ := isChoice_chooseNext isChoice _
      exact ⟨next, longer.trans (congrArg (· + 1) length)⟩

theorem exchange_perm (items : List Nat) (first second : Nat) :
    (exchange items first second).Perm items := by
  unfold exchange
  split
  · rename_i left right foundLeft foundRight
    obtain ⟨firstInside, rfl⟩ := List.getElem?_eq_some_iff.mp foundLeft
    obtain ⟨secondInside, rfl⟩ := List.getElem?_eq_some_iff.mp foundRight
    exact List.set_set_perm firstInside secondInside
  · exact List.Perm.refl items

theorem shuffle_perm (items : List Nat) (generator : Generator) :
    (shuffle items generator).1.Perm items := by
  have exchanged (places : List Nat) (state : List Nat × Generator) :
      (places.foldl (fun state below =>
        (exchange state.1 (below + 1) (state.2.nextUpTo (below + 1)).1,
          (state.2.nextUpTo (below + 1)).2)) state).1.Perm state.1 := by
    induction places generalizing state with
    | nil => exact List.Perm.refl _
    | cons place places ih => exact (ih _).trans (exchange_perm _ _ _)
  exact exchanged _ (items, generator)

theorem isChoice_choose {population count : Nat} (enough : count ≤ population)
    (generator : Generator) :
    IsChoice population (choose population count generator).1 ∧
      (choose population count generator).1.length = count := by
  obtain ⟨isChoice, length⟩ := isChoice_places (population - count) count generator
  rw [Nat.sub_add_cancel enough] at isChoice
  have perm := shuffle_perm
    (((List.range count).map (population - count + ·)).foldl chooseNext ([], generator)).1
    (((List.range count).map (population - count + ·)).foldl chooseNext ([], generator)).2
  refine ⟨⟨perm.nodup_iff.mpr isChoice.distinct, ?_⟩, perm.length_eq.trans length⟩
  intro position member
  exact isChoice.below position (perm.mem_iff.mp member)

end Random

namespace Sample

section Choices

/-- What is asked of choices: as many distinct positions as wanted, below a population that a machine
word counts. -/
def ChoosesDistinct {σ : Type} (choose : Chooser σ) : Prop :=
  ∀ (population count : Nat) (state : σ), count ≤ population → (population : Int) < wordBound →
    ∃ chosen next, choose population count state = .ok chosen next ∧ chosen.length = count ∧
      chosen.Nodup ∧ ∀ position ∈ chosen, 0 ≤ position ∧ position < population

/-- The seeded generator makes such choices. -/
theorem choosesDistinct_chooseRandomly : ChoosesDistinct chooseRandomly := by
  intro population count generator enough room
  obtain ⟨isChoice, length⟩ := Random.isChoice_choose enough generator
  have populated : ¬(population = 0 ∧ (count : Int) ≠ 0) := by omega
  have isWord : (!isWord count) = false := by
    unfold HingeField.isWord
    simp only [Bool.not_eq_false', Bool.and_eq_true, decide_eq_true_eq]
    unfold wordBound at room ⊢
    omega
  have nonnegative : ¬(count : Int) < 0 := by omega
  refine ⟨(Random.choose population count generator).1.map Int.ofNat,
    (Random.choose population count generator).2, ?_, ?_, ?_, ?_⟩
  · unfold chooseRandomly
    simp only [if_neg populated, isWord, if_neg nonnegative, Int.toNat_natCast]
    rfl
  · rw [List.length_map, length]
  · exact isChoice.distinct.map fun _ _ => Int.ofNat_inj.mp
  · intro position member
    obtain ⟨place, chosen, rfl⟩ := List.mem_map.mp member
    have below := isChoice.below place chosen
    exact ⟨Int.natCast_nonneg place, Int.ofNat_lt.mpr below⟩

end Choices

variable {σ β : Type} {choose : Chooser σ} {items : List β} {count : Int}

section Places

/-- In ascending order, distinct positions are the places of some of the items in their order. -/
theorem exists_places {chosen : List Int} (distinct : chosen.Nodup)
    (inside : ∀ position ∈ chosen, 0 ≤ position ∧ position < items.length) :
    ∃ kept : List (β × Nat), kept.Sublist items.zipIdx ∧
      chosen.mergeSort = kept.map fun pair => (pair.2 : Int) := by
  have perm : chosen.mergeSort.Perm chosen := List.mergeSort_perm _ _
  have subset : chosen.mergeSort ⊆ items.zipIdx.map fun pair => (pair.2 : Int) := by
    intro position member
    obtain ⟨lower, upper⟩ := inside position (perm.mem_iff.mp member)
    have small : position.toNat < items.length := by omega
    refine List.mem_map.mpr ⟨(items[position.toNat], position.toNat), ?_, by
      exact Int.toNat_of_nonneg lower⟩
    exact List.mem_zipIdx_iff_getElem?.mpr (List.getElem?_eq_getElem small)
  have ascending : (chosen.mergeSort).Pairwise (· ≤ ·) := by
    have sorted : chosen.mergeSort.Pairwise fun first second => decide (first ≤ second) = true :=
      List.pairwise_mergeSort (by simp only [decide_eq_true_eq]; omega)
        (by simp only [Bool.or_eq_true, decide_eq_true_eq]; omega) chosen
    exact sorted.imp of_decide_eq_true
  have places : (items.zipIdx.map fun pair => (pair.2 : Int)).Pairwise (· ≤ ·) := by
    have increasing := zipIdx_ascending items
    rw [List.pairwise_map] at increasing ⊢
    exact increasing.imp fun less => by omega
  have sublist := List.sublist_of_subperm_of_pairwise
    ((perm.nodup_iff.mpr distinct).subperm subset) ascending places
  exact List.sublist_map_iff.mp sublist

theorem pickAll_places {kept : List (β × Nat)} (places : kept.Sublist items.zipIdx)
    (room : (items.length : Int) < wordBound) (state : σ) :
    pickAll items (kept.map fun pair => (pair.2 : Int)) state = .ok (kept.map (·.1)) state := by
  have found : ∀ pair ∈ kept, items[pair.2]? = some pair.1 := fun pair member =>
    List.mem_zipIdx_iff_getElem?.mp (places.subset member)
  have words : (kept.map fun pair => (pair.2 : Int)).any isOverWord = false := by
    rw [List.any_eq_false]
    intro position member
    obtain ⟨pair, listed, rfl⟩ := List.mem_map.mp member
    obtain ⟨inside, _⟩ := List.getElem?_eq_some_iff.mp (found pair listed)
    unfold isOverWord
    simp only [Bool.and_eq_true, decide_eq_true_eq]
    omega
  unfold pickAll
  simp only [words, Bool.false_and, Bool.false_eq_true, if_false]
  clear words places
  induction kept with
  | nil => rfl
  | cons pair kept ih =>
      obtain ⟨first, others⟩ := List.forall_mem_cons.mp found
      obtain ⟨inside, _⟩ := List.getElem?_eq_some_iff.mp first
      have picked : pick items (pair.2 : Int) state = .ok pair.1 state := by
        unfold pick
        rw [elementAt?_natCast inside, first]
        rfl
      rw [List.map_cons, List.mapM_cons, Effect.run_bind, picked]
      dsimp only
      rw [Effect.run_bind, ih others]
      rfl

/-- A sample keeps as many of the items as asked for, or all of them, in their order. -/
theorem sample_places (distinct : ChoosesDistinct choose) (room : (items.length : Int) < wordBound)
    (nonnegative : 0 ≤ count) (state : σ) :
    ∃ (kept : List (β × Nat)) (next : σ), sample choose items count state = .ok (kept.map (·.1)) next ∧
      kept.Sublist items.zipIdx ∧ (kept.length : Int) = min count items.length := by
  unfold sample
  by_cases wanted : (items.length : Int) ≤ count
  · refine ⟨items.zipIdx, state, ?_, List.Sublist.refl _, ?_⟩
    · rw [if_pos wanted, List.zipIdx_map_fst]
      rfl
    · rw [List.length_zipIdx]
      omega
  · have asked : (count.toNat : Int) = count := Int.toNat_of_nonneg nonnegative
    obtain ⟨chosen, next, chose, length, isNodup, inside⟩ :=
      distinct items.length count.toNat state (by omega) room
    rw [asked] at chose
    obtain ⟨kept, places, sorted⟩ := exists_places isNodup inside
    refine ⟨kept, next, ?_, places, ?_⟩
    · rw [if_neg wanted, Effect.run_bind, chose]
      dsimp only
      rw [sorted]
      exact pickAll_places places room next
    · have same := congrArg List.length sorted
      rw [List.length_mergeSort, length, List.length_map] at same
      omega

end Places

section Strata

variable [Named β] {name : String} {listed : List String}

theorem mem_names_iff : name ∈ names items ↔ ∃ item ∈ items, Named.name item = name := by
  unfold names
  rw [List.mem_mergeSort, List.mem_eraseDups, List.mem_map]

theorem names_ascending (items : List β) : (names items).Pairwise (· < ·) := by
  have distinct : (names items).Nodup :=
    (List.mergeSort_perm _ _).nodup_iff.mpr (nodup_eraseDups (items.map Named.name))
  have sorted : (names items).Pairwise fun first second => (!decide (second < first)) = true := by
    apply List.pairwise_mergeSort
    · intro first second third early late
      simp only [Bool.not_eq_true', decide_eq_false_iff_not, not_lt] at early late ⊢
      exact early.trans late
    · intro first second
      simp only [Bool.or_eq_true, Bool.not_eq_true', decide_eq_false_iff_not, not_lt]
      exact le_total first second
  refine (sorted.and distinct).imp ?_
  rintro first second ⟨ordered, different⟩
  simp only [Bool.not_eq_true', decide_eq_false_iff_not, not_lt] at ordered
  exact lt_of_le_of_ne ordered different

/-- Some of the items of a name with their places, in their order: as many as asked for, or all of
them. -/
structure IsStratum (items : List β) (count : Int) (name : String) (group : List (β × Nat)) :
    Prop where
  places : group.Sublist items.zipIdx
  named : ∀ pair ∈ group, Named.name pair.1 = name
  length : (group.length : Int) = min count (withName items name).length

theorem withName_eq (items : List β) (name : String) :
    withName items name =
      (items.zipIdx.filter fun pair => Named.name pair.1 == name).map (·.1) := by
  have placed := List.filter_map (f := Prod.fst) (p := fun item => Named.name item == name)
    (l := items.zipIdx)
  rw [List.zipIdx_map_fst] at placed
  exact placed

theorem exists_stratum (distinct : ChoosesDistinct choose)
    (room : (items.length : Int) < wordBound) (nonnegative : 0 ≤ count) (name : String)
    (state : σ) :
    ∃ (group : List (β × Nat)) (next : σ),
      sample choose (withName items name) count state = .ok (group.map (·.1)) next ∧
        IsStratum items count name group := by
  have shorter : (withName items name).length ≤ items.length := List.length_filter_le _ _
  obtain ⟨kept, next, sampled, sublist, length⟩ :=
    sample_places distinct (lt_of_le_of_lt (Int.ofNat_le.mpr shorter) room) nonnegative state
  have among : (kept.map (·.1)).Sublist (withName items name) := by
    have mapped := sublist.map (·.1)
    rwa [List.zipIdx_map_fst] at mapped
  rw [withName_eq] at among
  obtain ⟨group, places, same⟩ := List.sublist_map_iff.mp among
  refine ⟨group, next, same ▸ sampled, places.trans List.filter_sublist, ?_, ?_⟩
  · intro pair member
    exact eq_of_beq (List.mem_filter.mp (places.subset member)).2
  · have sameLength := congrArg List.length same
    rw [List.length_map, List.length_map] at sameLength
    rw [← sameLength, length]

/-- Samples of one name after the other. -/
theorem exists_strata (distinct : ChoosesDistinct choose)
    (room : (items.length : Int) < wordBound) (nonnegative : 0 ≤ count) (listed : List String)
    (state : σ) :
    ∃ (groups : List (List (β × Nat))) (next : σ),
      (listed.mapM fun name => sample choose (withName items name) count) state =
          .ok (groups.map fun group => group.map (·.1)) next ∧
        List.Forall₂ (IsStratum items count) listed groups := by
  induction listed generalizing state with
  | nil => exact ⟨[], state, rfl, .nil⟩
  | cons name listed ih =>
      obtain ⟨group, middle, sampled, stratum⟩ :=
        exists_stratum distinct room nonnegative name state
      obtain ⟨groups, next, others, strata⟩ := ih middle
      refine ⟨group :: groups, next, ?_, .cons stratum strata⟩
      rw [List.mapM_cons, Effect.run_bind, sampled]
      dsimp only
      rw [Effect.run_bind, others]
      rfl

theorem named_of_strata {groups : List (List (β × Nat))}
    (strata : List.Forall₂ (IsStratum items count) listed groups) :
    ∀ pair ∈ groups.flatten, Named.name pair.1 ∈ listed ∧ items[pair.2]? = some pair.1 := by
  induction strata with
  | nil => exact fun _ member => absurd member List.not_mem_nil
  | cons stratum _ ih =>
      intro pair member
      rw [List.flatten_cons, List.mem_append] at member
      rcases member with first | later
      · rw [stratum.named pair first]
        exact ⟨List.mem_cons_self, List.mem_zipIdx_iff_getElem?.mp (stratum.places.subset first)⟩
      · exact ⟨List.mem_cons_of_mem _ (ih pair later).1, (ih pair later).2⟩

/-- Samples of distinct names have no place in common. -/
theorem places_nodup {groups : List (List (β × Nat))}
    (strata : List.Forall₂ (IsStratum items count) listed groups) (distinct : listed.Nodup) :
    (groups.flatten.map (·.2)).Nodup := by
  induction strata with
  | nil => exact List.nodup_nil
  | @cons name group listed groups stratum strata ih =>
      obtain ⟨absent, others⟩ := List.nodup_cons.mp distinct
      rw [List.flatten_cons, List.map_append, List.nodup_append]
      refine ⟨?_, ih others, ?_⟩
      · exact ((zipIdx_ascending items).sublist (stratum.places.map (·.2))).imp ne_of_lt
      · intro place placed other otherPlaced same
        obtain ⟨pair, member, rfl⟩ := List.mem_map.mp placed
        obtain ⟨later, among, rfl⟩ := List.mem_map.mp otherPlaced
        obtain ⟨named, stands⟩ := named_of_strata strata later among
        -- one place has one item, whose name would be both in front and behind
        rw [← same, List.mem_zipIdx_iff_getElem?.mp (stratum.places.subset member)] at stands
        rw [← Option.some.inj stands, stratum.named pair member] at named
        exact absent named

theorem length_of_strata {groups : List (List (β × Nat))}
    (strata : List.Forall₂ (IsStratum items count) listed groups) :
    (groups.flatten.length : Int) =
      (listed.map fun name => min count (withName items name).length).sum := by
  induction strata with
  | nil => rfl
  | cons stratum _ ih =>
      rw [List.flatten_cons, List.length_append, List.map_cons, List.sum_cons, ← ih,
        ← stratum.length]
      exact Int.natCast_add _ _

/-- Samples of each name, by ascending name. -/
structure IsStratified (items : List β) (count : Int) (groups : List (List (β × Nat))) : Prop where
  ascending : (names items).Pairwise (· < ·)
  named : ∀ name, name ∈ names items ↔ ∃ item ∈ items, Named.name item = name
  strata : List.Forall₂ (IsStratum items count) (names items) groups
  once : (groups.flatten.map (·.2)).Nodup
  length : (groups.flatten.length : Int) =
    ((names items).map fun name => min count (withName items name).length).sum

theorem stratified_places (distinct : ChoosesDistinct choose)
    (room : (items.length : Int) < wordBound) (nonnegative : 0 ≤ count) (state : σ) :
    ∃ (groups : List (List (β × Nat))) (next : σ),
      stratified choose items count state = .ok (groups.flatten.map (·.1)) next ∧
        IsStratified items count groups := by
  obtain ⟨groups, next, sampled, strata⟩ :=
    exists_strata distinct room nonnegative (names items) state
  have ascending := names_ascending items
  refine ⟨groups, next, ?_, ascending, fun _ => mem_names_iff, strata,
    places_nodup strata (ascending.imp ne_of_lt), length_of_strata strata⟩
  unfold stratified
  rw [Effect.run_bind, sampled]
  dsimp only
  rw [List.map_flatten]
  rfl

/-- Given distinct choices, a sample keeps items in their order and a stratified sample those of each
name, no place twice; and both have as many items as asked for wherever there are enough. -/
theorem samples_keep_places (distinct : ChoosesDistinct choose)
    (room : (items.length : Int) < wordBound) (nonnegative : 0 ≤ count) (state : σ) :
    (∃ (kept : List (β × Nat)) (next : σ),
        sample choose items count state = .ok (kept.map (·.1)) next ∧
          kept.Sublist items.zipIdx ∧ (kept.length : Int) = min count items.length) ∧
      ∃ (groups : List (List (β × Nat))) (next : σ),
        stratified choose items count state = .ok (groups.flatten.map (·.1)) next ∧
          IsStratified items count groups :=
  ⟨sample_places distinct room nonnegative state,
    stratified_places distinct room nonnegative state⟩

def namedRules : List (Rule Float) :=
  ["b", "a", "b", "b"].map fun name =>
    { weight := 1.0, name, body := .clause [⟨0, true⟩] false }

theorem samples_keep_places_named :
    ChoosesDistinct chooseRandomly ∧ (namedRules.length : Int) < wordBound ∧
      (∃ (kept : List (Rule Float × Nat)) (next : Random.Generator),
        sample chooseRandomly namedRules 2 (Random.Generator.ofSeed 0) =
            .ok (kept.map (·.1)) next ∧
          kept.Sublist namedRules.zipIdx ∧ kept.length = 2) ∧
      ∃ (groups : List (List (Rule Float × Nat))) (next : Random.Generator),
        stratified chooseRandomly namedRules 2 (Random.Generator.ofSeed 0) =
            .ok (groups.flatten.map (·.1)) next ∧
          IsStratified namedRules 2 groups := by
  have room : (namedRules.length : Int) < wordBound := by decide
  obtain ⟨⟨kept, next, sampled, places, length⟩, stratified⟩ :=
    samples_keep_places choosesDistinct_chooseRandomly room (show (0 : Int) ≤ 2 by decide)
      (Random.Generator.ofSeed 0)
  refine ⟨choosesDistinct_chooseRandomly, room, ⟨kept, next, sampled, places, ?_⟩, stratified⟩
  exact Int.natCast_inj.mp length

/-- Samples drawn with a seed keep the places too, whatever the seed. -/
theorem seeded_places (room : (items.length : Int) < wordBound) (nonnegative : 0 ≤ count)
    {seed : Int} (seeded : 0 ≤ seed) :
    (∃ kept : List (β × Nat), sampleSeeded items count seed = .ok (kept.map (·.1)) ∧
        kept.Sublist items.zipIdx ∧ (kept.length : Int) = min count items.length) ∧
      ∃ groups : List (List (β × Nat)),
        stratifiedSeeded items count seed = .ok (groups.flatten.map (·.1)) ∧
          IsStratified items count groups := by
  have generated : generatorOf seed = .ok (Random.Generator.ofSeed seed.toNat) := by
    unfold generatorOf
    rw [if_neg (Int.not_lt.mpr seeded)]
  obtain ⟨kept, _, sampled, places, length⟩ := sample_places choosesDistinct_chooseRandomly room
    nonnegative (Random.Generator.ofSeed seed.toNat)
  obtain ⟨groups, _, drawn, strata⟩ := stratified_places choosesDistinct_chooseRandomly room
    nonnegative (Random.Generator.ofSeed seed.toNat)
  refine ⟨?_, groups, ?_, strata⟩
  · unfold sampleSeeded
    by_cases wanted : (items.length : Int) ≤ count
    · refine ⟨items.zipIdx, ?_, List.Sublist.refl _, ?_⟩
      · rw [if_pos wanted, List.zipIdx_map_fst]
      · rw [List.length_zipIdx]
        omega
    · refine ⟨kept, ?_, places, length⟩
      rw [if_neg wanted, generated, Effect.ok_bind]
      unfold runFrom
      rw [sampled]
  · unfold stratifiedSeeded
    rw [generated, Effect.ok_bind]
    unfold runFrom
    rw [drawn]

end Strata

end Sample

end HingeField
