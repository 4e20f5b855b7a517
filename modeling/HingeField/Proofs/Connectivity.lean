import HingeField.Proofs.Components
import Mathlib.Data.List.Induction
import Mathlib.Logic.Relation

/-!
Components as connected components. Two listed variables meet when one rule
refers to both, and they are linked when a chain of listed variables leads from
one to the other in which each variable meets the next. Main statement: the
components of a register are the classes of linked variables, in the order in
which the variables are first listed, and they depend on nothing but which
variables meet.
-/

namespace HingeField

namespace Keyed

variable {κ ι : Type} [BEq κ] (label : ι → κ)

/-- Grouping again what is left behind the first group takes up all items. -/
theorem grouped_induction {motive : List ι → Prop} (nil : motive [])
    (cons : ∀ item items, motive (items.filter fun other => !(label other == label item)) →
      motive (item :: items)) (items : List ι) : motive items := by
  induction size : items.length using Nat.strongRecOn generalizing items with
  | ind length ih =>
      cases items with
      | nil => exact nil
      | cons item items =>
          have shorter := List.length_filter_le (fun other => !(label other == label item)) items
          rw [List.length_cons] at size
          exact cons item items (ih _ (by omega) _ rfl)

theorem sublist_of_mem_grouped {label : ι → κ} {items group : List ι}
    (member : group ∈ (grouped label items).map (·.2)) : group.Sublist items := by
  obtain ⟨entry, listed, rfl⟩ := List.mem_map.mp member
  obtain ⟨key, _, rfl⟩ := List.mem_map.mp listed
  exact List.filter_sublist

variable [LawfulBEq κ]

/-- The first item leads a group, and the items with other labels are grouped behind it. -/
theorem grouped_cons (item : ι) (items : List ι) :
    grouped label (item :: items) =
      (label item, item :: items.filter fun other => label other == label item) ::
        grouped label (items.filter fun other => !(label other == label item)) := by
  have labels : (items.map label).filter (fun key => !(key == label item)) =
      (items.filter fun other => !(label other == label item)).map label := List.filter_map
  unfold grouped
  rw [List.map_cons, List.eraseDups_cons, labels, List.map_cons, List.filter_cons,
    beq_self_eq_true, if_pos rfl]
  congr 1
  apply List.map_congr_left
  intro key member
  obtain ⟨other, kept, rfl⟩ := List.mem_map.mp (List.mem_eraseDups.mp member)
  have apart := (List.mem_filter.mp kept).2
  have different : (label item == label other) = false := by
    rw [Bool.not_eq_true', beq_eq_false_iff_ne] at apart
    exact beq_false_of_ne (Ne.symm apart)
  rw [List.filter_cons, different, if_neg Bool.false_ne_true, List.filter_filter]
  congr 1
  apply List.filter_congr
  intro asked _
  by_cases same : label asked = label other
  · rw [same, apart, Bool.and_true]
  · rw [beq_false_of_ne same, Bool.false_and]

theorem flatten_grouped (items : List ι) :
    ((grouped label items).map (·.2)).flatten.Perm items := by
  induction items using grouped_induction label with
  | nil => exact List.Perm.refl []
  | cons item items ih =>
      rw [grouped_cons, List.map_cons, List.flatten_cons, List.cons_append]
      exact ((ih.append_left _).trans (List.filter_append_perm _ items)).cons item

theorem heads_grouped (items : List ι) :
    (((grouped label items).map (·.2)).filterMap List.head?).Sublist items := by
  induction items using grouped_induction label with
  | nil => exact List.Sublist.refl []
  | cons item items ih =>
      rw [grouped_cons, List.map_cons, List.filterMap_cons]
      exact (ih.trans List.filter_sublist).cons_cons item

variable {label}

theorem nil_notMem_grouped (items : List ι) : [] ∉ (grouped label items).map (·.2) := by
  intro member
  obtain ⟨entry, listed, empty⟩ := List.mem_map.mp member
  obtain ⟨key, known, rfl⟩ := List.mem_map.mp listed
  obtain ⟨item, present, rfl⟩ := List.mem_map.mp (List.mem_eraseDups.mp known)
  have unfiled := List.filter_eq_nil_iff.mp empty item present
  exact unfiled (beq_self_eq_true _)

/-- Items are in one group exactly if they have one label. -/
theorem grouped_together_iff {items : List ι} {first second : ι} (memberFirst : first ∈ items)
    (memberSecond : second ∈ items) :
    (∃ group ∈ (grouped label items).map (·.2), first ∈ group ∧ second ∈ group) ↔
      label first = label second := by
  constructor
  · rintro ⟨group, member, inFirst, inSecond⟩
    obtain ⟨entry, listed, rfl⟩ := List.mem_map.mp member
    obtain ⟨key, _, rfl⟩ := List.mem_map.mp listed
    have labelFirst := eq_of_beq (List.mem_filter.mp inFirst).2
    have labelSecond := eq_of_beq (List.mem_filter.mp inSecond).2
    exact labelFirst.trans labelSecond.symm
  · intro same
    refine ⟨items.filter fun item => label item == label first, ?_, ?_, ?_⟩
    · refine List.mem_map_of_mem (List.mem_map_of_mem (f := fun key =>
        (key, items.filter fun item => label item == key)) (List.mem_eraseDups.mpr ?_))
      exact List.mem_map_of_mem memberFirst
    · exact List.mem_filter.mpr ⟨memberFirst, beq_self_eq_true _⟩
    · exact List.mem_filter.mpr ⟨memberSecond, beq_iff_eq.mpr same.symm⟩

/-- The groups depend on the labels only through which items have one label. -/
theorem grouped_congr {other : ι → κ} {items : List ι}
    (alike : ∀ first ∈ items, ∀ second ∈ items,
      label first = label second ↔ other first = other second) :
    (grouped label items).map (·.2) = (grouped other items).map (·.2) := by
  induction items using grouped_induction label with
  | nil => rfl
  | cons item items ih =>
      have sameTest : ∀ asked ∈ items,
          (label asked == label item) = (other asked == other item) := by
        intro asked member
        rw [Bool.eq_iff_iff, beq_iff_eq, beq_iff_eq]
        exact alike asked (List.mem_cons_of_mem item member) item List.mem_cons_self
      have sameRest : (items.filter fun asked => !(label asked == label item)) =
          items.filter fun asked => !(other asked == other item) :=
        List.filter_congr fun asked member => by rw [sameTest asked member]
      have later : ∀ asked ∈ items.filter (fun asked => !(label asked == label item)),
          asked ∈ item :: items := fun asked kept =>
        List.mem_cons_of_mem item (List.mem_filter.mp kept).1
      rw [grouped_cons, grouped_cons, List.map_cons, List.map_cons, List.filter_congr sameTest,
        ih fun first memberFirst second memberSecond =>
          alike first (later first memberFirst) second (later second memberSecond), sameRest]

end Keyed

/-- What is left without repetition is in the order of the first occurrences. -/
theorem eraseDups_ordered (items : List Int) :
    items.eraseDups.Pairwise fun first second => items.idxOf first < items.idxOf second := by
  induction items using List.reverseRecOn with
  | nil => exact List.Pairwise.nil
  | append_singleton items last ih =>
      have early : ∀ item ∈ items, (items ++ [last]).idxOf item = items.idxOf item :=
        fun item member => List.idxOf_append_of_mem member
      have kept : items.eraseDups.Pairwise fun first second =>
          (items ++ [last]).idxOf first < (items ++ [last]).idxOf second := by
        refine ih.imp_of_mem fun {first second} memberFirst memberSecond before => ?_
        rw [early first (List.mem_eraseDups.mp memberFirst),
          early second (List.mem_eraseDups.mp memberSecond)]
        exact before
      rw [List.eraseDups_append]
      by_cases known : last ∈ items
      · have nothingNew : [last].removeAll items = [] := by simpa [List.removeAll] using known
        rw [nothingNew, List.eraseDups_nil, List.append_nil]
        exact kept
      · have oneNew : [last].removeAll items = [last] := by simpa [List.removeAll] using known
        have single : [last].eraseDups = [last] := rfl
        rw [oneNew, single, List.pairwise_append]
        refine ⟨kept, List.pairwise_singleton _ last, ?_⟩
        intro first member second isLast
        have present := List.mem_eraseDups.mp member
        have small := List.idxOf_lt_length_of_mem present
        rw [List.mem_singleton.mp isLast, early first present, List.idxOf_append_of_notMem known]
        omega

namespace Forest

variable {forest : Forest} {related : Int → Int → Prop}

/-- Keys of one set are related. -/
def Within (forest : Forest) (related : Int → Int → Prop) : Prop :=
  ∀ left right, forest.Together left right → related left right

theorem within_singletons (keys : List Int) (reflexive : ∀ key, related key key) :
    (singletons keys).Within related := by
  rintro left right ⟨root, leadsLeft, leadsRight⟩
  have atLeft := (Leads.stay (parent_singletons keys left)).unique leadsLeft
  have atRight := (Leads.stay (parent_singletons keys right)).unique leadsRight
  rw [atLeft, atRight]
  exact reflexive root

variable (equivalence : Equivalence related)
include equivalence

theorem Ranked.within_unite (ranked : forest.Ranked) (within : forest.Within related)
    {first second : Int} (memberFirst : first ∈ forest.keys) (memberSecond : second ∈ forest.keys)
    (united : related first second) : (forest.unite first second).Within related := by
  intro left right together
  rcases ((ranked.unite_spec memberFirst memberSecond).2.2 left right).mp together with
    before | ⟨atFirst, atSecond⟩ | ⟨atSecond, atFirst⟩
  · exact within left right before
  · exact equivalence.trans (within left first atFirst)
      (equivalence.trans united (within second right atSecond))
  · exact equivalence.trans (within left second atSecond)
      (equivalence.trans (equivalence.symm united) (within first right atFirst))

theorem Ranked.within_foldl_unite (ranked : forest.Ranked) (within : forest.Within related)
    {first : Int} {others : List Int} (memberFirst : first ∈ forest.keys)
    (members : ∀ key ∈ others, key ∈ forest.keys) (united : ∀ key ∈ others, related first key) :
    (others.foldl (fun forest other => forest.unite first other) forest).Within related := by
  induction others generalizing forest with
  | nil => exact within
  | cons other others ih =>
      have memberOther := members other List.mem_cons_self
      obtain ⟨joins, _⟩ := ranked.joins_unite memberFirst memberOther
      refine ih joins.ranked ?_ (joins.keys ▸ memberFirst) ?_ fun key member =>
        united key (List.mem_cons_of_mem other member)
      · exact ranked.within_unite equivalence within memberFirst memberOther
          (united other List.mem_cons_self)
      · intro key member
        rw [joins.keys]
        exact members key (List.mem_cons_of_mem other member)

theorem Ranked.within_uniteAll (ranked : forest.Ranked) (within : forest.Within related)
    {listed : List Int} (members : ∀ key ∈ listed, key ∈ forest.keys)
    (united : ∀ left ∈ listed, ∀ right ∈ listed, related left right) :
    (forest.uniteAll listed).Within related := by
  cases listed with
  | nil => exact within
  | cons first others =>
      exact ranked.within_foldl_unite equivalence within (members first List.mem_cons_self)
        (fun key member => members key (List.mem_cons_of_mem first member)) fun key member =>
          united first List.mem_cons_self key (List.mem_cons_of_mem first member)

end Forest

namespace Register

variable {α : Type} {listed : List Int}

/-- One rule refers to both of two listed variables. -/
def Meet (rules : List (Rule α)) (listed : List Int) (first second : Int) : Prop :=
  first ∈ listed ∧ second ∈ listed ∧ ∃ rule ∈ rules, first ∈ rule.atoms ∧ second ∈ rule.atoms

/-- A chain of variables leads from one to the other, each of which meets the next. -/
def Linked (rules : List (Rule α)) (listed : List Int) : Int → Int → Prop :=
  Relation.ReflTransGen (Meet rules listed)

/-- The rules of each list refer to the same atoms as rules of the other one. Their order does not
matter, nor how often and in what order a rule mentions its atoms. -/
def SameAtoms (rules others : List (Rule α)) : Prop :=
  (∀ rule ∈ rules, ∃ other ∈ others, ∀ atom, atom ∈ rule.atoms ↔ atom ∈ other.atoms) ∧
    ∀ other ∈ others, ∃ rule ∈ rules, ∀ atom, atom ∈ rule.atoms ↔ atom ∈ other.atoms

theorem linked_equivalence (rules : List (Rule α)) (listed : List Int) :
    Equivalence (Linked rules listed) := by
  have symmetric : Std.Symm (Meet rules listed) := by
    refine ⟨?_⟩
    rintro first second ⟨listedFirst, listedSecond, rule, member, inFirst, inSecond⟩
    exact ⟨listedSecond, listedFirst, rule, member, inSecond, inFirst⟩
  exact ⟨fun _ => .refl, fun linked => Relation.ReflTransGen.stdSymm.symm _ _ linked,
    fun before after => before.trans after⟩

theorem SameAtoms.meet_iff {rules others : List (Rule α)} (same : SameAtoms rules others)
    (first second : Int) : Meet rules listed first second ↔ Meet others listed first second := by
  constructor
  · rintro ⟨listedFirst, listedSecond, rule, member, inFirst, inSecond⟩
    obtain ⟨other, otherMember, atoms⟩ := same.1 rule member
    exact ⟨listedFirst, listedSecond, other, otherMember, (atoms first).mp inFirst,
      (atoms second).mp inSecond⟩
  · rintro ⟨listedFirst, listedSecond, other, member, inFirst, inSecond⟩
    obtain ⟨rule, ruleMember, atoms⟩ := same.2 other member
    exact ⟨listedFirst, listedSecond, rule, ruleMember, (atoms first).mpr inFirst,
      (atoms second).mpr inSecond⟩

/-- Uniting rule after rule puts nothing together that is not linked. -/
theorem within_uniteRules {rules : List (Rule α)} {forest : Forest} {related : Int → Int → Prop}
    (equivalence : Equivalence related) (ranked : forest.Ranked) (sameKeys : forest.keys = listed)
    (within : forest.Within related)
    (meets : ∀ first second, Meet rules listed first second → related first second) :
    (uniteRules listed forest rules).Within related := by
  induction rules generalizing forest with
  | nil => exact within
  | cons rule rules ih =>
      have kept : ∀ atom ∈ rule.atoms.filter (fun atom => listed.contains atom),
          atom ∈ rule.atoms ∧ atom ∈ listed := by
        intro atom member
        rw [List.mem_filter, List.contains_iff_mem] at member
        exact member
      have members : ∀ atom ∈ rule.atoms.filter (fun atom => listed.contains atom),
          atom ∈ forest.keys := fun atom member => sameKeys ▸ (kept atom member).2
      obtain ⟨joins, _⟩ := ranked.joins_uniteAll members
      refine ih joins.ranked (joins.keys.trans sameKeys) ?_ ?_
      · refine ranked.within_uniteAll equivalence within members ?_
        intro left memberLeft right memberRight
        obtain ⟨inLeft, listedLeft⟩ := kept left memberLeft
        obtain ⟨inRight, listedRight⟩ := kept right memberRight
        exact meets left right
          ⟨listedLeft, listedRight, rule, List.mem_cons_self, inLeft, inRight⟩
      · rintro first second ⟨listedFirst, listedSecond, other, member, inFirst, inSecond⟩
        exact meets first second ⟨listedFirst, listedSecond, other,
          List.mem_cons_of_mem rule member, inFirst, inSecond⟩

/-- In the united forest the keys of one set are the linked variables. -/
theorem together_uniteRules_iff (rules : List (Rule α)) (listed : List Int) (first second : Int) :
    (uniteRules listed (Forest.singletons listed) rules).Together first second ↔
      Linked rules listed first second := by
  have ranked := Forest.ranked_singletons listed
  have keys := Forest.keys_singletons listed
  constructor
  · refine within_uniteRules (linked_equivalence rules listed) ranked keys ?_ (fun _ _ => .single)
      first second
    exact Forest.within_singletons listed fun _ => .refl
  · obtain ⟨joins, united⟩ := joins_uniteRules ranked keys rules
    intro linked
    induction linked with
    | refl => exact joins.ranked.together_refl first
    | tail _ meet ih =>
        obtain ⟨listedLeft, listedRight, rule, member, inLeft, inRight⟩ := meet
        exact ih.trans (united rule member _ inLeft _ inRight listedLeft listedRight)

/-- The components are the groups of a labelling by linked variables. -/
theorem components_eq_grouped (rules : List (Rule α)) (indices : List Int) :
    ∃ label : Int → Int,
      (ofList rules).components indices = (Keyed.grouped label indices.eraseDups).map (·.2) ∧
      ∀ first second, label first = label second ↔ Linked rules indices first second := by
  have sameMeet : Meet rules indices.eraseDups = Meet rules indices := by
    funext first second
    unfold Meet
    simp only [List.mem_eraseDups]
  obtain ⟨joins, _⟩ := joins_uniteRules (Forest.ranked_singletons indices.eraseDups)
    (Forest.keys_singletons _) rules
  have leads := fun key => (joins.ranked.find_spec key).1
  refine ⟨fun key =>
    ((uniteRules indices.eraseDups (Forest.singletons indices.eraseDups) rules).find key).1,
    ?_, ?_⟩
  · rw [← joins.ranked.groupsOf_eq]
    unfold components
    rw [rules_ofList]
    rfl
  · intro first second
    have linkedIff := together_uniteRules_iff rules indices.eraseDups first second
    unfold Linked at linkedIff ⊢
    rw [sameMeet] at linkedIff
    rw [← linkedIff]
    constructor
    · intro same
      have leadsSecond := leads second
      dsimp only at same
      rw [← same] at leadsSecond
      exact ⟨_, leads first, leadsSecond⟩
    · rintro ⟨root, leadsFirst, leadsSecond⟩
      exact ((leads first).unique leadsFirst).trans (leadsSecond.unique (leads second))

/-- The components are the classes of linked variables, without repetition and none of them empty;
they follow one another by the first occurrences of their first members, as do the members of each,
and any rules that mention the same atoms have the same components. -/
theorem components_are_linked_classes (rules : List (Rule α)) (indices : List Int) :
    let groups := (ofList rules).components indices
    (groups.flatten.Nodup ∧ (∀ index, index ∈ groups.flatten ↔ index ∈ indices) ∧
        [] ∉ groups) ∧
      (∀ first ∈ indices, ∀ second ∈ indices,
        (∃ group ∈ groups, first ∈ group ∧ second ∈ group) ↔ Linked rules indices first second) ∧
      groups.Pairwise (fun group later => ∀ first ∈ group.head?, ∀ second ∈ later.head?,
        indices.idxOf first < indices.idxOf second) ∧
      (∀ group ∈ groups, group.Pairwise fun first second =>
        indices.idxOf first < indices.idxOf second) ∧
      ∀ others, SameAtoms rules others → (ofList others).components indices = groups := by
  intro groups
  obtain ⟨label, groupsAre, labelIff⟩ := components_eq_grouped rules indices
  have listing : groups.flatten.Perm indices.eraseDups := by
    change ((ofList rules).components indices).flatten.Perm _
    rw [groupsAre]
    exact Keyed.flatten_grouped label indices.eraseDups
  refine ⟨⟨?_, ?_, ?_⟩, ?_, ?_, ?_, ?_⟩
  · exact listing.nodup_iff.mpr (nodup_eraseDups indices)
  · intro index
    rw [listing.mem_iff, List.mem_eraseDups]
  · change [] ∉ (ofList rules).components indices
    rw [groupsAre]
    exact Keyed.nil_notMem_grouped indices.eraseDups
  · intro first memberFirst second memberSecond
    change (∃ group ∈ (ofList rules).components indices, _) ↔ _
    rw [groupsAre, Keyed.grouped_together_iff (List.mem_eraseDups.mpr memberFirst)
      (List.mem_eraseDups.mpr memberSecond), labelIff]
  · have heads := (eraseDups_ordered indices).sublist
      (Keyed.heads_grouped label indices.eraseDups)
    rw [← groupsAre] at heads
    exact List.pairwise_filterMap.mp heads
  · intro group member
    change group ∈ (ofList rules).components indices at member
    rw [groupsAre] at member
    exact (eraseDups_ordered indices).sublist (Keyed.sublist_of_mem_grouped member)
  · intro others same
    obtain ⟨other, othersAre, otherIff⟩ := components_eq_grouped others indices
    have sameMeet : Meet rules indices = Meet others indices := by
      funext first second
      exact propext (same.meet_iff first second)
    have sameLinks : Linked rules indices = Linked others indices := by
      unfold Linked
      rw [sameMeet]
    change _ = (ofList rules).components indices
    rw [groupsAre, othersAre]
    refine Keyed.grouped_congr fun first _ second _ => ?_
    rw [otherIff, labelIff, sameLinks]

/-- A variable that is not listed does not link those that meet it. -/
example :
    (ofList [⟨(), "", .clause [⟨3, true⟩, ⟨1, true⟩] false⟩,
      ⟨(), "", .clause [⟨1, true⟩, ⟨2, false⟩, ⟨1, false⟩] false⟩,
      ⟨(), "", .clause [⟨4, true⟩, ⟨3, true⟩] false⟩]).components [2, 4, 3, 2, 9] =
        [[2], [4, 3], [9]] := by
  decide

end Register

end HingeField
