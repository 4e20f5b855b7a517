import HingeField.Proofs.Components
import Mathlib.Data.List.Induction

/-!
Histories of a register: rules are registered, and questions are asked in
between. Main statement: every question is answered from the registrations
before it alone, as though none had been asked; the rules filed under an atom
are the registered ones that mention it, each as often as it was registered and
in this order, and only mentioned atoms have an entry.
-/

namespace HingeField.Register

variable {α : Type}

/-- What is asked of a register. -/
inductive Call (α : Type) where
  | insert (rule : Rule α)
  | rulesFor (atom : Int)
  | rules
  | size
  | components (indices : List Int)

inductive Answer (α : Type) where
  | inserted
  | rules (rules : List (Rule α))
  | size (count : Nat)
  | components (groups : List (List Int))

/-- The answer to a call, and the register behind it. -/
def answer (register : Register α) : Call α → Answer α × Register α
  | .insert rule => (.inserted, register.insert rule)
  | .rulesFor atom => (.rules (register.rulesFor atom), register)
  | .rules => (.rules register.rules, register)
  | .size => (.size register.size, register)
  | .components indices => (.components (register.components indices), register)

/-- The answers to calls one after the other, and the register behind the last one. -/
def answers (register : Register α) : List (Call α) → List (Answer α) × Register α
  | [] => ([], register)
  | call :: calls =>
      let (first, next) := register.answer call
      let (others, last) := answers next calls
      (first :: others, last)

/-- The rule that a call registers. -/
def Call.rule? : Call α → Option (Rule α)
  | .insert rule => some rule
  | _ => none

/-- The rules that a history registers, each as often as it does. -/
def registered (calls : List (Call α)) : List (Rule α) :=
  calls.filterMap Call.rule?

/-- The answer to a call after some registrations, said through membership. -/
def expected (rules : List (Rule α)) : Call α → Answer α
  | .insert _ => .inserted
  | .rulesFor atom => .rules (rules.filter fun rule => rule.atoms.contains atom)
  | .rules => .rules rules
  | .size => .size rules.length
  | .components indices => .components ((ofList rules).components indices)

section Filed

theorem ofList_append_singleton (rules : List (Rule α)) (rule : Rule α) :
    ofList (rules ++ [rule]) = (ofList rules).insert rule := by
  unfold ofList
  rw [List.foldl_append]
  rfl

/-- An atom has the places of the registered rules that mention it, each once. -/
theorem positionsFor_ofList (rules : List (Rule α)) (asked : Int) :
    (ofList rules).positionsFor asked =
      (rules.zipIdx.filter fun entry => entry.1.atoms.contains asked).map (·.2) := by
  induction rules using List.reverseRecOn with
  | nil => rfl
  | append_singleton rules rule ih =>
      rw [ofList_append_singleton, positionsFor_insert, ih, rules_ofList, List.zipIdx_append,
        List.filter_append, List.map_append, Nat.zero_add]
      congr 1
      rw [List.zipIdx_singleton]
      by_cases mentioned : asked ∈ rule.atoms
      · rw [if_pos mentioned, List.filter_singleton, List.contains_iff_mem.mpr mentioned]
        rfl
      · have apart : rule.atoms.contains asked = false := by simpa using mentioned
        rw [if_neg mentioned, List.filter_singleton, apart]
        rfl

theorem mem_keys_foldl_append (entries : List (Int × List Nat)) (position : Nat)
    (atoms : List Int) (asked : Int) :
    asked ∈ (atoms.foldl (fun byAtom atom => Keyed.append byAtom atom position) entries).map (·.1) ↔
      asked ∈ entries.map (·.1) ∨ asked ∈ atoms := by
  induction atoms generalizing entries with
  | nil => simp
  | cons atom atoms ih =>
      have added : asked ∈ (Keyed.append entries atom position).map (·.1) ↔
          asked ∈ entries.map (·.1) ∨ asked = atom := by
        unfold Keyed.append
        rw [Keyed.keys_alter]
        split
        · rename_i known
          have member := List.contains_iff_mem.mp known
          exact ⟨Or.inl, fun either => either.elim id fun same => same ▸ member⟩
        · rw [List.mem_append, List.mem_singleton]
      rw [List.foldl_cons, ih, added, List.mem_cons, or_assoc]

/-- The atoms with an entry are those that a registered rule mentions. -/
theorem mem_keys_ofList (rules : List (Rule α)) (asked : Int) :
    asked ∈ (ofList rules).byAtom.map (·.1) ↔ ∃ rule ∈ rules, asked ∈ rule.atoms := by
  induction rules using List.reverseRecOn with
  | nil => simp [ofList]
  | append_singleton rules rule ih =>
      rw [ofList_append_singleton]
      change asked ∈ (rule.atoms.eraseDups.foldl _ (ofList rules).byAtom).map (·.1) ↔ _
      rw [mem_keys_foldl_append, ih, List.mem_eraseDups]
      simp only [List.mem_append, List.mem_singleton, or_and_right, exists_or, exists_eq_left]

end Filed

section Histories

/-- A register that has taken some registrations gives the expected answer to a call, and only
a registration changes it. -/
theorem answer_ofList (rules : List (Rule α)) (call : Call α) :
    (ofList rules).answer call =
      (expected rules call, ofList (rules ++ (call.rule?).toList)) := by
  have kept : ofList rules = ofList (rules ++ []) := by rw [List.append_nil]
  cases call with
  | insert rule => exact Prod.ext rfl (ofList_append_singleton rules rule).symm
  | rulesFor atom => exact Prod.ext (congrArg Answer.rules (rulesFor_ofList rules atom)) kept
  | rules => exact Prod.ext (congrArg Answer.rules (rules_ofList rules)) kept
  | size =>
      have count := congrArg List.length (rules_ofList rules)
      exact Prod.ext (congrArg Answer.size count) kept
  | components indices => exact Prod.ext rfl kept

theorem registered_cons (call : Call α) (calls : List (Call α)) :
    registered (call :: calls) = (call.rule?).toList ++ registered calls := by
  unfold registered
  rw [List.filterMap_cons]
  cases call.rule? with
  | none => rfl
  | some rule => rfl

theorem answers_cons (register : Register α) (call : Call α) (calls : List (Call α)) :
    answers register (call :: calls) =
      ((register.answer call).1 :: (answers (register.answer call).2 calls).1,
        (answers (register.answer call).2 calls).2) :=
  rfl

/-- From a register that has taken some registrations, a history leads to that with its own ones
behind them, and each call is answered from those before it. -/
theorem answers_ofList (rules : List (Rule α)) (calls : List (Call α)) :
    (answers (ofList rules) calls).2 = ofList (rules ++ registered calls) ∧
      ∀ place, (answers (ofList rules) calls).1[place]? =
        calls[place]?.map (expected (rules ++ registered (calls.take place))) := by
  -- the calls still to come start from what those before them have registered
  induction calls generalizing rules with
  | nil =>
      refine ⟨?_, fun place => rfl⟩
      change ofList rules = ofList (rules ++ [])
      rw [List.append_nil]
  | cons call calls ih =>
      obtain ⟨last, others⟩ := ih (rules ++ (call.rule?).toList)
      rw [answers_cons, answer_ofList]
      refine ⟨?_, ?_⟩
      · rw [last, registered_cons, List.append_assoc]
      · intro place
        cases place with
        | zero =>
            change some (expected rules call) = some (expected (rules ++ []) call)
            rw [List.append_nil]
        | succ place =>
            rw [List.getElem?_cons_succ, others, List.getElem?_cons_succ, List.take_succ_cons,
              registered_cons, List.append_assoc]

/-- Every call of a history is answered from the registrations before it, whatever has been asked in
between. In the end the register is that of the registrations alone: it lists them all, under each
atom it has the places, and so the rules, of those that mention the atom, each registration once,
and it has entries for no other atoms. -/
theorem calls_answered_by_membership (calls : List (Call α)) :
    let last := (answers {} calls).2
    (∀ place, (answers {} calls).1[place]? =
        calls[place]?.map (expected (registered (calls.take place)))) ∧
      last = ofList (registered calls) ∧
      (last.rules = registered calls ∧ last.size = (registered calls).length) ∧
      (∀ atom,
        last.positionsFor atom = ((registered calls).zipIdx.filter fun entry =>
            entry.1.atoms.contains atom).map (·.2) ∧
          last.rulesFor atom = (registered calls).filter fun rule => rule.atoms.contains atom) ∧
      ∀ atom, atom ∈ last.byAtom.map (·.1) ↔ ∃ rule ∈ registered calls, atom ∈ rule.atoms := by
  intro last
  obtain ⟨lastIs, answered⟩ := answers_ofList [] calls
  have built : last = ofList (registered calls) := lastIs
  have rules := rules_ofList (registered calls)
  rw [built]
  refine ⟨answered, rfl, ⟨rules, congrArg List.length rules⟩, ?_, mem_keys_ofList _⟩
  exact fun atom => ⟨positionsFor_ofList _ atom, rulesFor_ofList _ atom⟩

/-- A rule that mentions an atom twice is filed once under it, and once more if it is registered
once more; the last variable under its negative index is another atom. -/
example :
    let clause : Rule Unit := ⟨(), "", .clause [⟨2, true⟩, ⟨-1, true⟩, ⟨2, false⟩] false⟩
    let unit : Rule Unit := ⟨(), "", .clause [⟨-1, false⟩] true⟩
    ([2, -1, 5].map fun atom =>
      (answers {} [.insert clause, .rulesFor 5, .insert unit, .insert clause]).2.positionsFor
        atom) = [[0, 2], [0, 1, 2], []] := by
  decide

end Histories

end HingeField.Register
