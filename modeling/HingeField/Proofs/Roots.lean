import HingeField.Forest

/-!
Roots in a forest of parent links. In a ranked forest every parent of a key
that is no root ranks below it, so that every path ends, in as many links as
there are keys at most. Main statements: a search returns the root of its key
and leaves all roots as they were, and uniting two keys joins their two sets
and no others.
-/

namespace HingeField.Forest

/-- Following parents from a key ends at a root. -/
inductive Leads (forest : Forest) : Int → Int → Prop where
  | stay {key : Int} (isRoot : forest.parent key = key) : Leads forest key key
  | climb {key root : Int} (below : forest.parent key ≠ key)
      (rest : Leads forest (forest.parent key) root) : Leads forest key root

/-- All parents are keys, and parents rank below their children. -/
structure RankedBy (forest : Forest) (rank : Int → Nat) : Prop where
  parent_mem : ∀ key ∈ forest.keys, forest.parent key ∈ forest.keys
  parent_lt : ∀ key, forest.parent key ≠ key → rank (forest.parent key) < rank key

def Ranked (forest : Forest) : Prop :=
  ∃ rank, forest.RankedBy rank

section Links

theorem parent_of_notMem {forest : Forest} {key : Int} (absent : key ∉ forest.keys) :
    forest.parent key = key := by
  have missing : forest.links.lookup key = none := by
    rw [List.lookup_eq_none_iff]
    intro link member
    have different : key ≠ link.1 := fun same => absent (same ▸ List.mem_map_of_mem member)
    exact bne_iff_ne.mpr different
  unfold parent
  rw [missing]
  rfl

theorem mem_keys_of_parent_ne {forest : Forest} {key : Int} (below : forest.parent key ≠ key) :
    key ∈ forest.keys := by
  apply Classical.byContradiction
  intro absent
  exact below (parent_of_notMem absent)

theorem keys_hang (forest : Forest) (key below : Int) :
    (forest.hang key below).keys = forest.keys := by
  unfold hang keys
  rw [List.map_map]
  apply List.map_congr_left
  intro link _
  simp only [Function.comp]
  split
  · rename_i same
    exact same.symm
  · rfl

private theorem lookup_redirect (links : List (Int × Int)) (key below asked : Int) :
    (links.map fun link => if link.1 = key then (key, below) else link).lookup asked =
      if asked = key then (links.lookup key).map fun _ => below else links.lookup asked := by
  induction links with
  | nil => exact (ite_self _).symm
  | cons link links ih =>
      obtain ⟨head, parent⟩ := link
      rw [List.map_cons]
      by_cases here : head = key
      · subst here
        rw [if_pos rfl, List.lookup_cons, ih]
        by_cases same : asked = head
        · subst same
          simp
        · rw [beq_false_of_ne same, if_neg same, if_neg same, List.lookup_cons,
            beq_false_of_ne same]
      · rw [if_neg here, List.lookup_cons, ih]
        by_cases same : asked = key
        · subst same
          rw [beq_false_of_ne (Ne.symm here), if_pos rfl, if_pos rfl, List.lookup_cons,
            beq_false_of_ne (Ne.symm here)]
        · rw [if_neg same, if_neg same, List.lookup_cons]

theorem parent_hang {forest : Forest} {key : Int} (member : key ∈ forest.keys)
    (below asked : Int) :
    (forest.hang key below).parent asked = if asked = key then below else forest.parent asked := by
  unfold hang parent
  rw [lookup_redirect]
  by_cases same : asked = key
  · obtain ⟨link, listed, rfl⟩ := List.mem_map.mp member
    have known : (forest.links.lookup link.1).isSome = true := by
      rw [List.lookup_isSome_iff]
      exact ⟨link, listed, beq_self_eq_true _⟩
    obtain ⟨value, found⟩ := Option.isSome_iff_exists.mp known
    rw [if_pos same, if_pos same, found]
    rfl
  · rw [if_neg same, if_neg same]

end Links

section Roots

variable {forest : Forest}

theorem Leads.isRoot {key root : Int} (leads : forest.Leads key root) :
    forest.parent root = root := by
  induction leads with
  | stay isRoot => exact isRoot
  | climb _ _ ih => exact ih

theorem Leads.unique {key first second : Int} (leadsFirst : forest.Leads key first)
    (leadsSecond : forest.Leads key second) : first = second := by
  induction leadsFirst with
  | stay isRoot =>
      cases leadsSecond with
      | stay _ => rfl
      | climb below _ => exact absurd isRoot below
  | climb below _ ih =>
      cases leadsSecond with
      | stay isRoot => exact absurd isRoot below
      | climb _ rest => exact ih rest

/-- A key and its parent have one root. -/
theorem leads_parent_iff {key root : Int} :
    forest.Leads (forest.parent key) root ↔ forest.Leads key root := by
  by_cases isRoot : forest.parent key = key
  · rw [isRoot]
  · constructor
    · exact Leads.climb isRoot
    · intro leads
      cases leads with
      | stay same => exact absurd same isRoot
      | climb _ rest => exact rest

theorem RankedBy.exists_root {rank : Int → Nat} (ranked : forest.RankedBy rank) (key : Int) :
    ∃ root, forest.Leads key root := by
  induction size : rank key using Nat.strongRecOn generalizing key with
  | ind value ih =>
      by_cases isRoot : forest.parent key = key
      · exact ⟨key, Leads.stay isRoot⟩
      · have lower := ranked.parent_lt key isRoot
        obtain ⟨root, leads⟩ := ih (rank (forest.parent key)) (by omega) _ rfl
        exact ⟨root, Leads.climb isRoot leads⟩

theorem Ranked.exists_root (ranked : forest.Ranked) (key : Int) :
    ∃ root, forest.Leads key root := by
  obtain ⟨rank, rankedBy⟩ := ranked
  exact rankedBy.exists_root key

/-- A forest has the roots of another one already if it keeps them, both being ranked. -/
theorem leads_iff_of_keeps {other : Forest} (ranked : forest.Ranked)
    (keeps : ∀ key root, forest.Leads key root → other.Leads key root) (key root : Int) :
    other.Leads key root ↔ forest.Leads key root := by
  constructor
  · intro leads
    obtain ⟨own, leadsOwn⟩ := ranked.exists_root key
    rw [leads.unique (keeps key own leadsOwn)]
    exact leadsOwn
  · exact keeps key root

theorem Leads.mem_keys {rank : Int → Nat} (ranked : forest.RankedBy rank) {key root : Int}
    (member : key ∈ forest.keys) (leads : forest.Leads key root) : root ∈ forest.keys := by
  induction leads with
  | stay _ => exact member
  | climb _ _ ih => exact ih (ranked.parent_mem _ member)

end Roots

/-- The same keys with the same roots. -/
def SameRoots (forest other : Forest) : Prop :=
  other.keys = forest.keys ∧ ∀ key root, other.Leads key root ↔ forest.Leads key root

theorem SameRoots.refl (forest : Forest) : SameRoots forest forest :=
  ⟨rfl, fun _ _ => Iff.rfl⟩

theorem SameRoots.isRoot {forest other : Forest} {root : Int} (same : SameRoots forest other)
    (isRoot : forest.parent root = root) : other.parent root = root :=
  ((same.2 root root).mpr (Leads.stay isRoot)).isRoot

theorem SameRoots.trans {first second third : Forest} (left : SameRoots first second)
    (right : SameRoots second third) : SameRoots first third :=
  ⟨right.1.trans left.1, fun key root => (right.2 key root).trans (left.2 key root)⟩

section Search

variable {forest : Forest} {rank : Int → Nat}

theorem RankedBy.parent_le (ranked : forest.RankedBy rank) (key : Int) :
    rank (forest.parent key) ≤ rank key := by
  by_cases isRoot : forest.parent key = key
  · exact Nat.le_of_eq (congrArg rank isRoot)
  · exact Nat.le_of_lt (ranked.parent_lt key isRoot)

/-- Hanging a key below its grandparent keeps the ranks. -/
theorem RankedBy.halve (ranked : forest.RankedBy rank) {key : Int}
    (below : forest.parent key ≠ key) :
    (forest.hang key (forest.parent (forest.parent key))).RankedBy rank := by
  have member := mem_keys_of_parent_ne below
  refine ⟨?_, ?_⟩
  · intro asked listed
    rw [keys_hang] at listed ⊢
    rw [parent_hang member]
    split
    · exact ranked.parent_mem _ (ranked.parent_mem key member)
    · exact ranked.parent_mem asked listed
  · intro asked moved
    rw [parent_hang member] at moved ⊢
    split
    · rename_i same
      rw [same]
      exact Nat.lt_of_le_of_lt (ranked.parent_le _) (ranked.parent_lt key below)
    · rename_i different
      rw [if_neg different] at moved
      exact ranked.parent_lt asked moved

/-- Hanging a key below its grandparent keeps the roots. -/
theorem RankedBy.sameRoots_halve (ranked : forest.RankedBy rank) {key : Int}
    (below : forest.parent key ≠ key) :
    SameRoots forest (forest.hang key (forest.parent (forest.parent key))) := by
  have member := mem_keys_of_parent_ne below
  refine ⟨keys_hang forest key _, leads_iff_of_keeps ⟨rank, ranked⟩ ?_⟩
  intro asked root leads
  induction leads with
  | @stay asked isRoot =>
      apply Leads.stay
      rw [parent_hang member, if_neg]
      · exact isRoot
      · rintro rfl
        exact below isRoot
  | @climb asked root moved rest ih =>
      by_cases same : asked = key
      · subst same
        rw [← leads_parent_iff, parent_hang member, if_pos rfl]
        rw [← leads_parent_iff, parent_hang member, if_neg] at ih
        · exact ih
        · exact moved
      · rw [← leads_parent_iff, parent_hang member, if_neg same]
        exact ih

/-- How many keys rank below a key. -/
def height (forest : Forest) (rank : Int → Nat) (key : Int) : Nat :=
  forest.keys.countP fun other => rank other < rank key

private theorem countP_lt_countP {keys : List Int} {first second : Int → Bool}
    (weaker : ∀ key, first key = true → second key = true) {key : Int} (member : key ∈ keys)
    (new : second key = true) (old : first key = false) :
    keys.countP first < keys.countP second := by
  induction keys with
  | nil => cases member
  | cons head keys ih =>
      have rest := List.countP_mono_left (l := keys) fun other _ => weaker other
      rw [List.countP_cons, List.countP_cons]
      rcases List.mem_cons.mp member with same | later
      · subst same
        rw [new, old]
        simp only [if_true, Bool.false_eq_true, if_false]
        omega
      · have less := ih later
        cases atHead : first head with
        | true =>
            rw [weaker head atHead]
            omega
        | false =>
            simp only [Bool.false_eq_true, if_false]
            omega

theorem height_lt_height {first second : Int} (member : first ∈ forest.keys)
    (lower : rank first < rank second) : forest.height rank first < forest.height rank second := by
  refine countP_lt_countP ?_ member (decide_eq_true lower) (decide_eq_false (Nat.lt_irrefl _))
  intro key below
  exact decide_eq_true (Nat.lt_trans (of_decide_eq_true below) lower)

/-- A search with enough steps finds the root and keeps all roots. -/
theorem RankedBy.follow_spec (ranked : forest.RankedBy rank) {steps : Nat} {key : Int}
    (enough : forest.height rank key ≤ steps) :
    forest.Leads key (follow steps forest key).1 ∧
      (follow steps forest key).2.RankedBy rank ∧
      SameRoots forest (follow steps forest key).2 := by
  induction steps generalizing forest key with
  | zero =>
      have isRoot : forest.parent key = key := by
        apply Classical.byContradiction
        intro below
        have lower := height_lt_height
          (ranked.parent_mem key (mem_keys_of_parent_ne below)) (ranked.parent_lt key below)
        omega
      exact ⟨Leads.stay isRoot, ranked, rfl, fun _ _ => Iff.rfl⟩
  | succ steps ih =>
      unfold follow
      by_cases isRoot : forest.parent key = key
      · rw [if_pos isRoot]
        exact ⟨Leads.stay isRoot, ranked, rfl, fun _ _ => Iff.rfl⟩
      · rw [if_neg isRoot]
        have parentMember := ranked.parent_mem key (mem_keys_of_parent_ne isRoot)
        have lower := height_lt_height
          (ranked.parent_mem _ parentMember)
          (Nat.lt_of_le_of_lt (ranked.parent_le _) (ranked.parent_lt key isRoot))
        have same := ranked.sameRoots_halve isRoot
        have enoughAfter : (forest.hang key (forest.parent (forest.parent key))).height rank
            (forest.parent (forest.parent key)) ≤ steps := by
          unfold height at lower enough ⊢
          rw [keys_hang]
          omega
        obtain ⟨leads, rankedAfter, sameAfter⟩ := ih (ranked.halve isRoot) enoughAfter
        refine ⟨?_, rankedAfter, same.trans sameAfter⟩
        rw [same.2, leads_parent_iff, leads_parent_iff] at leads
        exact leads

theorem Ranked.find_spec (ranked : forest.Ranked) (key : Int) :
    forest.Leads key (forest.find key).1 ∧ (forest.find key).2.Ranked ∧
      SameRoots forest (forest.find key).2 := by
  obtain ⟨rank, rankedBy⟩ := ranked
  have enough : forest.height rank key ≤ forest.links.length := by
    have bound := List.countP_le_length (p := fun other => decide (rank other < rank key))
      (l := forest.keys)
    unfold keys at bound
    rw [List.length_map] at bound
    exact bound
  obtain ⟨leads, rankedAfter, same⟩ := rankedBy.follow_spec enough
  exact ⟨leads, ⟨rank, rankedAfter⟩, same⟩

end Search

/-- Two keys of one set. -/
def Together (forest : Forest) (first second : Int) : Prop :=
  ∃ root, forest.Leads first root ∧ forest.Leads second root

section Union

variable {forest : Forest}

theorem SameRoots.together_iff {other : Forest} (same : SameRoots forest other)
    (first second : Int) : other.Together first second ↔ forest.Together first second := by
  unfold Together
  simp only [same.2]

theorem Ranked.together_refl (ranked : forest.Ranked) (key : Int) : forest.Together key key := by
  obtain ⟨root, leads⟩ := ranked.exists_root key
  exact ⟨root, leads, leads⟩

theorem Together.symm {first second : Int} (together : forest.Together first second) :
    forest.Together second first := by
  obtain ⟨root, leadsFirst, leadsSecond⟩ := together
  exact ⟨root, leadsSecond, leadsFirst⟩

theorem Together.trans {first second third : Int} (left : forest.Together first second)
    (right : forest.Together second third) : forest.Together first third := by
  obtain ⟨root, leadsFirst, leadsSecond⟩ := left
  obtain ⟨other, leadsOther, leadsThird⟩ := right
  rw [leadsOther.unique leadsSecond] at leadsThird
  exact ⟨root, leadsFirst, leadsThird⟩

theorem Together.congr_right {first second : Int} (alike : forest.Together first second)
    (left : Int) : forest.Together left first ↔ forest.Together left second :=
  ⟨fun together => together.trans alike, fun together => together.trans alike.symm⟩

theorem Together.congr_left {first second : Int} (alike : forest.Together first second)
    (right : Int) : forest.Together first right ↔ forest.Together second right :=
  ⟨alike.symm.trans, alike.trans⟩

/-- The forest with the root of one set hung below the root of another is ranked. -/
theorem Ranked.link (ranked : forest.Ranked) {first second : Int}
    (rootFirst : forest.parent first = first) (rootSecond : forest.parent second = second)
    (different : first ≠ second) (memberFirst : first ∈ forest.keys)
    (memberSecond : second ∈ forest.keys) : (forest.hang second first).Ranked := by
  obtain ⟨rank, rankedBy⟩ := ranked
  have onlyItself : ¬forest.Leads first second := fun leads =>
    different ((Leads.stay rootFirst).unique leads)
  classical
  -- the whole set of the second root moves up past the first root
  refine ⟨fun key => if forest.Leads key second then rank key + rank first + 1 else rank key,
    ?_, ?_⟩
  · intro key member
    rw [keys_hang] at member ⊢
    rw [parent_hang memberSecond]
    split
    · exact memberFirst
    · exact rankedBy.parent_mem key member
  · intro key moved
    rw [parent_hang memberSecond] at moved ⊢
    by_cases same : key = second
    · subst same
      simp only [if_pos, if_neg onlyItself, if_pos (Leads.stay rootSecond)]
      omega
    · rw [if_neg same] at moved ⊢
      have lower := rankedBy.parent_lt key moved
      simp only [leads_parent_iff]
      split
      · omega
      · exact lower

theorem Ranked.leads_link_iff (ranked : forest.Ranked) {first second : Int}
    (rootFirst : forest.parent first = first) (rootSecond : forest.parent second = second)
    (different : first ≠ second)
    (memberSecond : second ∈ forest.keys) (key root : Int) :
    (forest.hang second first).Leads key root ↔
      ∃ old, forest.Leads key old ∧ root = if old = second then first else old := by
  have keeps (key old : Int) (leads : forest.Leads key old) :
      (forest.hang second first).Leads key (if old = second then first else old) := by
    induction leads with
    | @stay key isRoot =>
        by_cases same : key = second
        · subst same
          rw [if_pos rfl, ← leads_parent_iff, parent_hang memberSecond, if_pos rfl]
          apply Leads.stay
          rw [parent_hang memberSecond, if_neg different]
          exact rootFirst
        · rw [if_neg same]
          apply Leads.stay
          rw [parent_hang memberSecond, if_neg same]
          exact isRoot
    | @climb key old moved rest ih =>
        have same : key ≠ second := by
          rintro rfl
          exact moved rootSecond
        rw [← leads_parent_iff, parent_hang memberSecond, if_neg same]
        exact ih
  constructor
  · intro leads
    obtain ⟨old, leadsOld⟩ := ranked.exists_root key
    exact ⟨old, leadsOld, leads.unique (keeps key old leadsOld)⟩
  · rintro ⟨old, leadsOld, rfl⟩
    exact keeps key old leadsOld

theorem Ranked.together_link_iff (ranked : forest.Ranked) {first second : Int}
    (rootFirst : forest.parent first = first) (rootSecond : forest.parent second = second)
    (different : first ≠ second) (memberSecond : second ∈ forest.keys) (left right : Int) :
    (forest.hang second first).Together left right ↔
      forest.Together left right ∨
        (forest.Together left first ∧ forest.Together second right) ∨
        (forest.Together left second ∧ forest.Together first right) := by
  have stayFirst := Leads.stay rootFirst
  have staySecond := Leads.stay rootSecond
  have leadsIff := ranked.leads_link_iff rootFirst rootSecond different memberSecond
  constructor
  · rintro ⟨root, newLeft, newRight⟩
    obtain ⟨oldLeft, leadsLeft, sameLeft⟩ := (leadsIff left root).mp newLeft
    obtain ⟨oldRight, leadsRight, sameRight⟩ := (leadsIff right root).mp newRight
    rw [sameLeft] at sameRight
    by_cases movedLeft : oldLeft = second
    · subst movedLeft
      by_cases movedRight : oldRight = oldLeft
      · subst movedRight
        exact Or.inl ⟨oldRight, leadsLeft, leadsRight⟩
      · rw [if_pos rfl, if_neg movedRight] at sameRight
        subst sameRight
        exact Or.inr (Or.inr ⟨⟨oldLeft, leadsLeft, staySecond⟩, ⟨first, stayFirst, leadsRight⟩⟩)
    · by_cases movedRight : oldRight = second
      · subst movedRight
        rw [if_neg movedLeft, if_pos rfl] at sameRight
        subst sameRight
        exact Or.inr (Or.inl ⟨⟨oldLeft, leadsLeft, stayFirst⟩, ⟨oldRight, staySecond, leadsRight⟩⟩)
      · rw [if_neg movedLeft, if_neg movedRight] at sameRight
        subst sameRight
        exact Or.inl ⟨oldLeft, leadsLeft, leadsRight⟩
  · have moved {key old : Int} (leads : forest.Leads key old) :
        (forest.hang second first).Leads key (if old = second then first else old) :=
      (leadsIff key _).mpr ⟨old, leads, rfl⟩
    rintro (⟨root, leadsLeft, leadsRight⟩ | ⟨⟨root, leadsLeft, same⟩, other, sameOther, leadsRight⟩ |
      ⟨⟨root, leadsLeft, same⟩, other, sameOther, leadsRight⟩)
    · exact ⟨_, moved leadsLeft, moved leadsRight⟩
    · rw [same.unique stayFirst] at leadsLeft
      rw [sameOther.unique staySecond] at leadsRight
      have atLeft := moved leadsLeft
      have atRight := moved leadsRight
      rw [if_neg different] at atLeft
      rw [if_pos rfl] at atRight
      exact ⟨first, atLeft, atRight⟩
    · rw [same.unique staySecond] at leadsLeft
      rw [sameOther.unique stayFirst] at leadsRight
      have atLeft := moved leadsLeft
      have atRight := moved leadsRight
      rw [if_pos rfl] at atLeft
      rw [if_neg different] at atRight
      exact ⟨first, atLeft, atRight⟩

/-- Uniting two keys joins their sets and no others. -/
theorem Ranked.unite_spec (ranked : forest.Ranked) {first second : Int}
    (memberFirst : first ∈ forest.keys) (memberSecond : second ∈ forest.keys) :
    (forest.unite first second).Ranked ∧
      (forest.unite first second).keys = forest.keys ∧
      ∀ left right, (forest.unite first second).Together left right ↔
        forest.Together left right ∨
          (forest.Together left first ∧ forest.Together second right) ∨
          (forest.Together left second ∧ forest.Together first right) := by
  obtain ⟨leadsFirst, rankedFirst, sameFirst⟩ := ranked.find_spec first
  obtain ⟨leadsSecond, rankedBoth, sameSecond⟩ := rankedFirst.find_spec second
  have same := sameFirst.trans sameSecond
  rw [sameFirst.2] at leadsSecond
  unfold unite
  simp only
  by_cases united : (forest.find first).1 = ((forest.find first).2.find second).1
  · rw [if_pos united]
    refine ⟨rankedBoth, same.1, fun left right => (same.together_iff left right).trans ?_⟩
    have alike : forest.Together first second := ⟨_, leadsFirst, united ▸ leadsSecond⟩
    constructor
    · exact Or.inl
    · rintro (together | ⟨leftFirst, secondRight⟩ | ⟨leftSecond, firstRight⟩)
      · exact together
      · exact (leftFirst.trans alike).trans secondRight
      · exact (leftSecond.trans alike.symm).trans firstRight
  · rw [if_neg united]
    obtain ⟨rank, rankedBy⟩ := ranked
    have rootFirst := ((same.2 _ _).mpr (Leads.stay leadsFirst.isRoot)).isRoot
    have rootSecond := ((same.2 _ _).mpr (Leads.stay leadsSecond.isRoot)).isRoot
    have inFirst := leadsFirst.mem_keys rankedBy memberFirst
    have inSecond := leadsSecond.mem_keys rankedBy memberSecond
    rw [← same.1] at inFirst inSecond
    refine ⟨rankedBoth.link rootFirst rootSecond united inFirst inSecond, ?_, ?_⟩
    · rw [keys_hang, same.1]
    · intro left right
      rw [rankedBoth.together_link_iff rootFirst rootSecond united inSecond]
      have atFirst : forest.Together (forest.find first).1 first :=
        ⟨_, Leads.stay leadsFirst.isRoot, leadsFirst⟩
      have atSecond : forest.Together ((forest.find first).2.find second).1 second :=
        ⟨_, Leads.stay leadsSecond.isRoot, leadsSecond⟩
      simp only [same.together_iff, atFirst.congr_right, atFirst.congr_left,
        atSecond.congr_right, atSecond.congr_left]

end Union

end HingeField.Forest
