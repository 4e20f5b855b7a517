import HingeField.Effect

/-!
Runs over a list of items. A run that may fail succeeds exactly if every item
does, and its results stand at the places of their items; from the items in
another order it computes the same results in this order. A run of steps on a
state of which each computes the same value in every state of an invariant
computes all these values, and the invariant holds where it ends; a run fails
at the first item whose step does. Dropping repetitions leaves every item once,
and ascending lists are told apart by their members.
-/

namespace HingeField

section Results

variable {α β γ ε : Type}

theorem bind_return_eq_ok_iff {computed : Except ε α} {change : α → β} {result : β} :
    (do let value ← computed; return change value) = .ok result ↔
      ∃ value, computed = .ok value ∧ result = change value := by
  cases computed with
  | error fault =>
      constructor
      · intro impossible
        cases impossible
      · rintro ⟨_, impossible, _⟩
        cases impossible
  | ok value =>
      constructor
      · intro success
        cases success
        exact ⟨value, rfl, rfl⟩
      · rintro ⟨_, same, rfl⟩
        cases same
        rfl

theorem mapM_cons_eq_ok_iff {f : α → Except ε β} {x : α} {xs : List α} {results : List β} :
    (x :: xs).mapM f = .ok results ↔
      ∃ first rest, f x = .ok first ∧ xs.mapM f = .ok rest ∧ results = first :: rest := by
  rw [List.mapM_cons]
  cases head : f x with
  | error fault =>
      constructor
      · intro impossible
        cases impossible
      · rintro ⟨_, _, impossible, _⟩
        cases impossible
  | ok first =>
      cases tail : xs.mapM f with
      | error fault =>
          constructor
          · intro impossible
            cases impossible
          · rintro ⟨_, _, _, impossible, _⟩
            cases impossible
      | ok rest =>
          constructor
          · intro success
            cases success
            exact ⟨first, rest, rfl, rfl, rfl⟩
          · rintro ⟨_, _, same, others, rfl⟩
            cases same
            cases others
            rfl

/-- A fold of computed results, when it adds one item to those behind it. -/
theorem mapM_fold_cons_eq_ok_iff {f : α → Except ε β} {fold : List β → γ} {combine : β → γ → γ}
    (adds : ∀ first rest, fold (first :: rest) = combine first (fold rest)) {x : α} {xs : List α}
    {result : γ} :
    (do let results ← (x :: xs).mapM f; return fold results) = .ok result ↔
      ∃ first rest, f x = .ok first ∧ (do let results ← xs.mapM f; return fold results) = .ok rest ∧
        result = combine first rest := by
  rw [bind_return_eq_ok_iff]
  constructor
  · rintro ⟨results, computed, rfl⟩
    obtain ⟨first, rest, head, tail, rfl⟩ := mapM_cons_eq_ok_iff.mp computed
    exact ⟨first, fold rest, head, bind_return_eq_ok_iff.mpr ⟨rest, tail, rfl⟩, adds first rest⟩
  · rintro ⟨first, _, head, others, rfl⟩
    obtain ⟨rest, tail, rfl⟩ := bind_return_eq_ok_iff.mp others
    exact ⟨first :: rest, mapM_cons_eq_ok_iff.mpr ⟨first, rest, head, tail, rfl⟩,
      (adds first rest).symm⟩

theorem mapM_nil_eq_ok_iff {f : α → Except ε β} {results : List β} :
    ([] : List α).mapM f = .ok results ↔ results = [] := by
  rw [List.mapM_nil]
  constructor
  · intro success
    cases success
    rfl
  · rintro rfl
    rfl

theorem length_of_mapM {f : α → Except ε β} {xs : List α} {results : List β}
    (success : xs.mapM f = .ok results) : results.length = xs.length := by
  induction xs generalizing results with
  | nil =>
      rw [mapM_nil_eq_ok_iff.mp success]
      rfl
  | cons x xs ih =>
      obtain ⟨first, rest, _, others, rfl⟩ := mapM_cons_eq_ok_iff.mp success
      rw [List.length_cons, List.length_cons, ih others]

theorem getElem?_of_mapM {f : α → Except ε β} {xs : List α} {results : List β}
    (success : xs.mapM f = .ok results) {place : Nat} {x : α} (found : xs[place]? = some x) :
    ∃ result, results[place]? = some result ∧ f x = .ok result := by
  induction xs generalizing results place with
  | nil => cases found
  | cons head xs ih =>
      obtain ⟨first, rest, computed, others, rfl⟩ := mapM_cons_eq_ok_iff.mp success
      cases place with
      | zero =>
          cases found
          exact ⟨first, rfl, computed⟩
      | succ place =>
          rw [List.getElem?_cons_succ] at found ⊢
          exact ih others found

theorem exists_of_getElem?_mapM {f : α → Except ε β} {xs : List α} {results : List β}
    (success : xs.mapM f = .ok results) {place : Nat} {result : β}
    (stands : results[place]? = some result) :
    ∃ x, xs[place]? = some x ∧ f x = .ok result := by
  have inside : place < xs.length := by
    rw [← length_of_mapM success]
    exact (List.getElem?_eq_some_iff.mp stands).choose
  obtain ⟨other, same, computed⟩ := getElem?_of_mapM success (List.getElem?_eq_getElem inside)
  rw [stands] at same
  cases same
  exact ⟨xs[place], List.getElem?_eq_getElem inside, computed⟩

theorem exists_of_mem_mapM {f : α → Except ε β} {xs : List α} {results : List β}
    (success : xs.mapM f = .ok results) {result : β} (member : result ∈ results) :
    ∃ x ∈ xs, f x = .ok result := by
  obtain ⟨place, found⟩ := List.getElem?_of_mem member
  obtain ⟨x, stands, computed⟩ := exists_of_getElem?_mapM success found
  exact ⟨x, List.mem_of_getElem? stands, computed⟩

theorem mapM_eq_ok_iff_map {f : α → Except ε β} {xs : List α} {results : List β} :
    xs.mapM f = .ok results ↔ xs.map f = results.map .ok := by
  induction xs generalizing results with
  | nil =>
      rw [mapM_nil_eq_ok_iff]
      cases results <;> simp
  | cons x xs ih =>
      rw [mapM_cons_eq_ok_iff]
      cases results with
      | nil => simp
      | cons first rest =>
          rw [List.map_cons, List.map_cons, List.cons.injEq, ← ih]
          constructor
          · rintro ⟨_, _, head, tail, same⟩
            cases same
            exact ⟨head, tail⟩
          · rintro ⟨head, tail⟩
            exact ⟨first, rest, head, tail, rfl⟩

theorem exists_of_mapM_error {f : α → Except ε β} {xs : List α} {fault : ε}
    (failure : xs.mapM f = .error fault) : ∃ x ∈ xs, f x = .error fault := by
  induction xs with
  | nil => cases failure
  | cons x xs ih =>
      rw [List.mapM_cons] at failure
      cases head : f x with
      | error early =>
          rw [head] at failure
          cases failure
          exact ⟨x, List.mem_cons_self, head⟩
      | ok first =>
          cases tail : xs.mapM f with
          | error late =>
              rw [head, tail] at failure
              cases failure
              obtain ⟨y, member, refused⟩ := ih tail
              exact ⟨y, List.mem_cons_of_mem x member, refused⟩
          | ok rest =>
              rw [head, tail] at failure
              cases failure

theorem mapM_total {f : α → Except ε β} {xs : List α}
    (each : ∀ x ∈ xs, ∃ result, f x = .ok result) : ∃ results, xs.mapM f = .ok results := by
  induction xs with
  | nil => exact ⟨[], List.mapM_nil⟩
  | cons x xs ih =>
      obtain ⟨first, computed⟩ := each x List.mem_cons_self
      obtain ⟨rest, others⟩ := ih fun y member => each y (List.mem_cons_of_mem x member)
      exact ⟨first :: rest, mapM_cons_eq_ok_iff.mpr ⟨first, rest, computed, others, rfl⟩⟩

theorem mapM_congr {f g : α → Except ε β} {xs : List α} (same : ∀ x ∈ xs, f x = g x) :
    xs.mapM f = xs.mapM g := by
  induction xs with
  | nil => rfl
  | cons x xs ih =>
      rw [List.mapM_cons, List.mapM_cons, same x List.mem_cons_self,
        ih fun y member => same y (List.mem_cons_of_mem x member)]

theorem mapM_map {change : α → β} {f : β → Except ε γ} (xs : List α) :
    (xs.map change).mapM f = xs.mapM fun x => f (change x) := by
  induction xs with
  | nil => rfl
  | cons x xs ih => rw [List.map_cons, List.mapM_cons, List.mapM_cons, ih]

/-- In another order the same results are computed, in this order. -/
theorem mapM_perm {f : α → Except ε β} {xs ys : List α} (perm : xs.Perm ys) {results : List β}
    (success : xs.mapM f = .ok results) :
    ∃ others, ys.mapM f = .ok others ∧ results.Perm others := by
  induction perm generalizing results with
  | nil => exact ⟨results, success, List.Perm.refl results⟩
  | cons x perm ih =>
      obtain ⟨first, rest, head, tail, rfl⟩ := mapM_cons_eq_ok_iff.mp success
      obtain ⟨others, computed, permuted⟩ := ih tail
      exact ⟨first :: others, mapM_cons_eq_ok_iff.mpr ⟨first, others, head, computed, rfl⟩,
        permuted.cons first⟩
  | swap x y xs =>
      obtain ⟨first, behind, head, tail, rfl⟩ := mapM_cons_eq_ok_iff.mp success
      obtain ⟨second, rest, next, others, rfl⟩ := mapM_cons_eq_ok_iff.mp tail
      have swapped : (y :: xs).mapM f = .ok (first :: rest) :=
        mapM_cons_eq_ok_iff.mpr ⟨first, rest, head, others, rfl⟩
      exact ⟨second :: first :: rest,
        mapM_cons_eq_ok_iff.mpr ⟨second, first :: rest, next, swapped, rfl⟩,
        List.Perm.swap second first rest⟩
  | trans _ _ ih ihLater =>
      obtain ⟨middle, computed, earlier⟩ := ih success
      obtain ⟨others, computedLater, later⟩ := ihLater computed
      exact ⟨others, computedLater, earlier.trans later⟩

end Results

theorem nodup_eraseDups {α : Type} [BEq α] [LawfulBEq α] (items : List α) :
    items.eraseDups.Nodup := by
  match items with
  | [] => exact List.nodup_nil
  | item :: others =>
      rw [List.eraseDups_cons, List.nodup_cons]
      have shorter := List.length_filter_le (fun other => !other == item) others
      refine ⟨?_, nodup_eraseDups _⟩
      intro repeated
      have kept := (List.mem_filter.mp (List.mem_eraseDups.mp repeated)).2
      simp at kept
termination_by items.length
decreasing_by
  rw [List.length_cons]
  omega

theorem eraseDups_of_nodup {α : Type} [BEq α] [LawfulBEq α] {items : List α}
    (distinct : items.Nodup) : items.eraseDups = items := by
  induction items with
  | nil => rfl
  | cons item items ih =>
      obtain ⟨absent, others⟩ := List.nodup_cons.mp distinct
      have unfiltered : (items.filter fun other => !other == item) = items := by
        apply List.filter_eq_self.mpr
        intro other member
        have different : other ≠ item := fun same => absent (same ▸ member)
        simp only [beq_false_of_ne different, Bool.not_false]
      rw [List.eraseDups_cons, unfiltered, ih others]

theorem eq_of_ascending {first second : List Nat} (ascending : first.Pairwise (· < ·))
    (otherAscending : second.Pairwise (· < ·))
    (sameMembers : ∀ number, number ∈ first ↔ number ∈ second) : first = second := by
  have perm : first.Perm second :=
    (List.perm_ext_iff_of_nodup (ascending.imp Nat.ne_of_lt)
      (otherAscending.imp Nat.ne_of_lt)).mpr sameMembers
  exact perm.eq_of_pairwise (fun _ _ _ _ less greater => absurd greater (Nat.lt_asymm less))
    ascending otherAscending

section Places

variable {α : Type}

/-- The places at which a list has the items that are kept. -/
theorem mem_places_iff {items : List α} {keep : α × Nat → Bool} {place : Nat} :
    place ∈ (items.zipIdx.filter keep).map (·.2) ↔
      ∃ item, items[place]? = some item ∧ keep (item, place) = true := by
  rw [List.mem_map]
  constructor
  · rintro ⟨⟨item, other⟩, member, rfl⟩
    obtain ⟨listed, kept⟩ := List.mem_filter.mp member
    exact ⟨item, List.mem_zipIdx_iff_getElem?.mp listed, kept⟩
  · rintro ⟨item, found, kept⟩
    exact ⟨(item, place), List.mem_filter.mpr ⟨List.mem_zipIdx_iff_getElem?.mpr found, kept⟩, rfl⟩

theorem zipIdx_ascending (items : List α) : (items.zipIdx.map (·.2)).Pairwise (· < ·) := by
  rw [List.zipIdx_map_snd]
  exact List.pairwise_lt_range'

theorem places_ascending (items : List α) (keep : α × Nat → Bool) :
    ((items.zipIdx.filter keep).map (·.2)).Pairwise (· < ·) :=
  (zipIdx_ascending items).sublist (List.Sublist.map _ List.filter_sublist)

end Places

namespace Effect

variable {σ α β : Type}

/-- Steps of which each computes its value in every state of an invariant, which it keeps, compute
the values of all items. -/
theorem mapM_of_invariant {invariant : σ → Prop} {step : α → Effect σ β}
    {value : α → Except Fault β} {xs : List α}
    (each : ∀ x ∈ xs, ∀ state, invariant state →
      ∃ finish, invariant finish ∧ step x state = ofExcept (value x) finish)
    {start : σ} (holds : invariant start) :
    ∃ finish, invariant finish ∧ xs.mapM step start = ofExcept (xs.mapM value) finish := by
  induction xs generalizing start with
  | nil => exact ⟨start, holds, by rw [List.mapM_nil, List.mapM_nil]; rfl⟩
  | cons x xs ih =>
      obtain ⟨middle, holdsMiddle, head⟩ := each x List.mem_cons_self start holds
      cases computed : value x with
      | error fault =>
          refine ⟨middle, holdsMiddle, ?_⟩
          rw [List.mapM_cons, List.mapM_cons, run_bind, head, computed]
          rfl
      | ok first =>
          obtain ⟨finish, holdsFinish, tail⟩ :=
            ih (fun y member => each y (List.mem_cons_of_mem x member)) holdsMiddle
          refine ⟨finish, holdsFinish, ?_⟩
          rw [List.mapM_cons, List.mapM_cons, run_bind, head, computed, run_ofExcept_ok]
          change (xs.mapM step >>= fun rest => pure (first :: rest)) middle = _
          rw [run_bind, tail]
          cases xs.mapM value with
          | error fault => rfl
          | ok rest => rfl

/-- A run over a list fails at the first item whose step does. -/
theorem forM_eq_error_iff {items : List α} {step : α → Effect σ PUnit} {start finish : σ}
    {fault : Fault} :
    items.forM step start = .error fault finish ↔
      ∃ before item after middle, items = before ++ item :: after ∧
        before.forM step start = .ok ⟨⟩ middle ∧ step item middle = .error fault finish := by
  induction items generalizing start with
  | nil =>
      constructor
      · intro impossible
        cases impossible
      · rintro ⟨before, item, after, _, split, _⟩
        cases before with
        | nil => cases split
        | cons head before => cases split
  | cons first items ih =>
      refine bind_eq_error_iff.trans ?_
      constructor
      · rintro (failure | ⟨_, middle, success, failure⟩)
        · exact ⟨[], first, items, start, rfl, rfl, failure⟩
        · obtain ⟨before, item, after, last, rfl, passed, failed⟩ := ih.mp failure
          exact ⟨first :: before, item, after, last, rfl,
            bind_eq_ok_iff.mpr ⟨⟨⟩, middle, success, passed⟩, failed⟩
      · rintro ⟨before, item, after, middle, split, passed, failed⟩
        cases before with
        | nil =>
            cases split
            cases passed
            exact Or.inl failed
        | cons head before =>
            cases split
            obtain ⟨_, next, success, later⟩ := bind_eq_ok_iff.mp passed
            exact Or.inr ⟨⟨⟩, next, success,
              ih.mpr ⟨before, item, after, middle, rfl, later, failed⟩⟩

end Effect

end HingeField
