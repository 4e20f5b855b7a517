import HingeField.Proofs.Roots
import Mathlib.Computability.StateTransition
import Mathlib.Data.Nat.Find
import Mathlib.Dynamics.PeriodicPts.Defs

/-!
Forests over given variables, said through their parents alone: the parents of
variables are variables, following them ends at a root, and no variable comes
back to itself unless it is a root. Main statements: these are the ranked
forests, and on each of them the loop of a search, taken round by round, ends
with the root of its key and with what `find` returns, whereby no round changes
the keys or the root of any variable.
-/

namespace HingeField.Forest

variable {forest other : Forest} {listed : List Int} {key root : Int}

section Ancestors

theorem leads_iff_iterate :
    forest.Leads key root ↔ (∃ count, forest.parent^[count] key = root) ∧
      forest.parent root = root := by
  constructor
  · intro leads
    refine ⟨?_, leads.isRoot⟩
    induction leads with
    | stay _ => exact ⟨0, rfl⟩
    | climb _ _ ih =>
        obtain ⟨count, reached⟩ := ih
        exact ⟨count + 1, reached⟩
  · rintro ⟨⟨count, reached⟩, isRoot⟩
    induction count generalizing key with
    | zero =>
        rw [Function.iterate_zero_apply] at reached
        subst reached
        exact Leads.stay isRoot
    | succ count ih =>
        rw [Function.iterate_succ_apply] at reached
        exact leads_parent_iff.mp (ih reached)

/-- A key from which a root is reached lies on no cycle, unless it is that root. -/
theorem Leads.acyclic (leads : forest.Leads key root) {count : Nat} (positive : 0 < count)
    (cycle : forest.parent^[count] key = key) : forest.parent key = key := by
  obtain ⟨⟨steps, reached⟩, isRoot⟩ := leads_iff_iterate.mp leads
  have around : forest.parent^[count * steps] key = key :=
    Function.IsPeriodicPt.mul_const cycle steps
  have enough : steps ≤ count * steps := Nat.le_mul_of_pos_left steps positive
  -- so many times around the cycle is past the root, where parents stay
  have atRoot : forest.parent^[count * steps] key = root := by
    rw [← Nat.sub_add_cancel enough, Function.iterate_add_apply, reached]
    exact Function.iterate_fixed isRoot _
  rw [← around, atRoot]
  exact isRoot

end Ancestors

/-- A parent map over exactly the given variables in which following parents ends at a root and
nothing but the roots lies on a cycle. -/
structure Spans (forest : Forest) (listed : List Int) : Prop where
  nodup : forest.keys.Nodup
  mem_keys_iff : ∀ key, key ∈ forest.keys ↔ key ∈ listed
  parent_mem : ∀ key ∈ listed, forest.parent key ∈ listed
  ends : ∀ key ∈ listed, ∃ count,
    forest.parent (forest.parent^[count] key) = forest.parent^[count] key
  acyclic : ∀ key ∈ listed, ∀ count, 0 < count → forest.parent^[count] key = key →
    forest.parent key = key

section Spans

theorem Ranked.spans (ranked : forest.Ranked) (nodup : forest.keys.Nodup)
    (mem_keys_iff : ∀ key, key ∈ forest.keys ↔ key ∈ listed) : forest.Spans listed where
  nodup := nodup
  mem_keys_iff := mem_keys_iff
  parent_mem := by
    obtain ⟨rank, rankedBy⟩ := ranked
    intro key member
    exact (mem_keys_iff _).mp (rankedBy.parent_mem key ((mem_keys_iff key).mpr member))
  ends := by
    intro key _
    obtain ⟨root, leads⟩ := ranked.exists_root key
    obtain ⟨⟨count, reached⟩, isRoot⟩ := leads_iff_iterate.mp leads
    exact ⟨count, reached ▸ isRoot⟩
  acyclic := by
    intro key _ count positive cycle
    obtain ⟨root, leads⟩ := ranked.exists_root key
    exact leads.acyclic positive cycle

/-- The rank of a key is the number of parents to follow until they stay. -/
theorem Spans.ranked (spans : forest.Spans listed) : forest.Ranked := by
  have ends (key : Int) :
      ∃ count, forest.parent (forest.parent^[count] key) = forest.parent^[count] key := by
    by_cases member : key ∈ forest.keys
    · exact spans.ends key ((spans.mem_keys_iff key).mp member)
    · exact ⟨0, parent_of_notMem member⟩
  classical
  refine ⟨fun key => Nat.find (ends key), ?_, ?_⟩
  · intro key member
    rw [spans.mem_keys_iff] at member ⊢
    exact spans.parent_mem key member
  · intro key moved
    have stays := Nat.find_spec (ends key)
    obtain ⟨count, atLast⟩ : ∃ count, Nat.find (ends key) = count + 1 := by
      refine Nat.exists_eq_add_one_of_ne_zero fun none => ?_
      rw [none] at stays
      exact moved stays
    rw [atLast, Function.iterate_succ_apply] at stays
    have early : Nat.find (ends (forest.parent key)) ≤ count := Nat.find_min' _ stays
    change Nat.find (ends (forest.parent key)) < Nat.find (ends key)
    omega

theorem Spans.of_ranked (spans : forest.Spans listed) (ranked : other.Ranked)
    (sameKeys : other.keys = forest.keys) : other.Spans listed := by
  refine ranked.spans ?_ ?_
  · rw [sameKeys]
    exact spans.nodup
  · rw [sameKeys]
    exact spans.mem_keys_iff

end Spans

/-- One round of a search: unless the key it has come to is a root, this key is hung below its
grandparent and the search goes on from there. -/
def climb? (state : Forest × Int) : Option (Forest × Int) :=
  if state.1.parent state.2 = state.2 then none
  else
    let grandparent := state.1.parent (state.1.parent state.2)
    some (state.1.hang state.2 grandparent, grandparent)

section Search

open StateTransition (Reaches)

theorem climb?_eq_none_iff : climb? (forest, key) = none ↔ forest.parent key = key := by
  unfold climb?
  split
  · rename_i isRoot
    exact iff_of_true rfl isRoot
  · rename_i below
    exact iff_of_false (Option.some_ne_none _) below

theorem climb?_eq_some_iff {next : Forest × Int} :
    climb? (forest, key) = some next ↔ forest.parent key ≠ key ∧
      next = (forest.hang key (forest.parent (forest.parent key)),
        forest.parent (forest.parent key)) := by
  unfold climb?
  split
  · rename_i isRoot
    exact iff_of_false (Option.some_ne_none _).symm fun both => both.1 isRoot
  · rename_i below
    rw [Option.some.injEq]
    exact ⟨fun same => ⟨below, same.symm⟩, fun both => both.2.symm⟩

/-- What the rounds of a search keep: the variables with their roots, and the root sought. -/
structure Climbed (listed : List Int) (forest : Forest) (key : Int) (state : Forest × Int) :
    Prop where
  spans : state.1.Spans listed
  sameRoots : SameRoots forest state.1
  member : state.2 ∈ listed
  leads_iff : ∀ root, forest.Leads state.2 root ↔ forest.Leads key root

theorem Spans.climbed_self (spans : forest.Spans listed) (member : key ∈ listed) :
    Climbed listed forest key (forest, key) :=
  ⟨spans, SameRoots.refl forest, member, fun _ => Iff.rfl⟩

theorem Spans.climbed_round (spans : forest.Spans listed) (member : key ∈ listed)
    {next : Forest × Int} (round : climb? (forest, key) = some next) :
    Climbed listed forest key next := by
  obtain ⟨below, rfl⟩ := climb?_eq_some_iff.mp round
  obtain ⟨rank, rankedBy⟩ := spans.ranked
  have halved := rankedBy.sameRoots_halve below
  refine ⟨spans.of_ranked ⟨rank, rankedBy.halve below⟩ halved.1, halved,
    spans.parent_mem _ (spans.parent_mem key member), ?_⟩
  intro root
  rw [leads_parent_iff, leads_parent_iff]

theorem Climbed.trans {first second : Forest × Int}
    (before : Climbed listed forest key first)
    (after : Climbed listed first.1 first.2 second) :
    Climbed listed forest key second where
  spans := after.spans
  sameRoots := before.sameRoots.trans after.sameRoots
  member := after.member
  leads_iff := by
    intro root
    rw [← before.leads_iff, ← before.sameRoots.2, ← before.sameRoots.2]
    exact after.leads_iff root

/-- In a forest every round of a search, and so every number of them, keeps the roots. -/
theorem Spans.climbed_of_reaches (spans : forest.Spans listed) (member : key ∈ listed)
    {state : Forest × Int} (reached : Reaches climb? (forest, key) state) :
    Climbed listed forest key state := by
  induction reached with
  | refl => exact spans.climbed_self member
  | tail _ round ih => exact ih.trans (ih.spans.climbed_round ih.member round)

theorem reaches_follow (steps : Nat) (forest : Forest) (key : Int) :
    Reaches climb? (forest, key) ((follow steps forest key).2, (follow steps forest key).1) := by
  induction steps generalizing forest key with
  | zero => exact Relation.ReflTransGen.refl
  | succ steps ih =>
      unfold follow
      split
      · exact Relation.ReflTransGen.refl
      · rename_i below
        exact (ih _ _).head (climb?_eq_some_iff.mpr ⟨below, rfl⟩)

/-- The rounds of a search come to an end in every forest, with the result of `find`. -/
theorem Ranked.find_mem_eval (ranked : forest.Ranked) (key : Int) :
    ((forest.find key).2, (forest.find key).1) ∈ StateTransition.eval climb? (forest, key) := by
  obtain ⟨leads, _, same⟩ := ranked.find_spec key
  refine StateTransition.mem_eval.mpr ⟨reaches_follow _ forest key, ?_⟩
  exact climb?_eq_none_iff.mpr (same.isRoot leads.isRoot)

end Search

/-- The map after the root of one class has been hung below the root of another one: what had the
former has the latter, and all other keys keep their roots. -/
structure MergesRoots (forest joined : Forest) (first second : Int) : Prop where
  isFirstRoot : forest.parent first = first
  isSecondRoot : forest.parent second = second
  different : first ≠ second
  sameKeys : joined.keys = forest.keys
  leads_iff : ∀ key root, joined.Leads key root ↔
    ∃ old, forest.Leads key old ∧ root = if old = second then first else old

theorem Spans.mergesRoots {first second : Int} (spans : forest.Spans listed)
    (isFirstRoot : forest.parent first = first) (isSecondRoot : forest.parent second = second)
    (different : first ≠ second) (firstMember : first ∈ listed)
    (secondMember : second ∈ listed) :
    (forest.hang second first).Spans listed ∧
      MergesRoots forest (forest.hang second first) first second := by
  have firstKey := (spans.mem_keys_iff first).mpr firstMember
  have secondKey := (spans.mem_keys_iff second).mpr secondMember
  have sameKeys := keys_hang forest second first
  have ranked := spans.ranked
  have linked := ranked.link isFirstRoot isSecondRoot different firstKey secondKey
  exact ⟨spans.of_ranked linked sameKeys, isFirstRoot, isSecondRoot, different, sameKeys,
    ranked.leads_link_iff isFirstRoot isSecondRoot different secondKey⟩

end HingeField.Forest
