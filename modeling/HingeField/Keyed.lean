/-!
Keyed lists: one value per key, in the order in which the keys were first
entered. Main statements: a key that is altered has the new value, all other
keys keep theirs, and keys keep their places.
-/

namespace HingeField.Keyed

variable {κ ν : Type} [BEq κ]

/-- Replaces the value of a key, given its old value; a new key goes to the end. -/
def alter (change : Option ν → ν) (key : κ) : List (κ × ν) → List (κ × ν)
  | [] => [(key, change none)]
  | (other, value) :: rest =>
      if key == other then (key, change (some value)) :: rest
      else (other, value) :: alter change key rest

/-- Enters a value for a key. -/
def put (entries : List (κ × ν)) (key : κ) (value : ν) : List (κ × ν) :=
  alter (fun _ => value) key entries

/-- Appends an item to the items of a key. -/
def append {ι : Type} (entries : List (κ × List ι)) (key : κ) (item : ι) :
    List (κ × List ι) :=
  alter (fun items => items.getD [] ++ [item]) key entries

variable [LawfulBEq κ]

theorem lookup_alter_self (change : Option ν → ν) (key : κ) (entries : List (κ × ν)) :
    (alter change key entries).lookup key = some (change (entries.lookup key)) := by
  induction entries with
  | nil => simp [alter]
  | cons entry rest ih =>
      obtain ⟨other, value⟩ := entry
      cases same : key == other with
      | true => simp [alter, same, List.lookup_cons]
      | false => simp [alter, same, List.lookup_cons, ih]

theorem lookup_alter_of_ne (change : Option ν → ν) {key asked : κ} (different : asked ≠ key)
    (entries : List (κ × ν)) :
    (alter change key entries).lookup asked = entries.lookup asked := by
  have apart : (asked == key) = false := by simpa using different
  induction entries with
  | nil => simp [alter, List.lookup_cons, apart]
  | cons entry rest ih =>
      obtain ⟨other, value⟩ := entry
      cases same : key == other with
      | true =>
          have equal : key = other := eq_of_beq same
          subst equal
          simp [alter, List.lookup_cons, apart]
      | false => simp [alter, same, List.lookup_cons, ih]

theorem lookup_put_self (entries : List (κ × ν)) (key : κ) (value : ν) :
    (put entries key value).lookup key = some value :=
  lookup_alter_self _ key entries

theorem lookup_put_of_ne (entries : List (κ × ν)) {key asked : κ} (different : asked ≠ key)
    (value : ν) : (put entries key value).lookup asked = entries.lookup asked :=
  lookup_alter_of_ne _ different entries

/-- Entering what a key has already changes nothing. -/
theorem put_of_lookup {entries : List (κ × ν)} {key : κ} {value : ν}
    (found : entries.lookup key = some value) : put entries key value = entries := by
  unfold put
  induction entries with
  | nil => cases found
  | cons entry rest ih =>
      obtain ⟨other, held⟩ := entry
      rw [List.lookup_cons] at found
      cases same : key == other with
      | true =>
          rw [same] at found
          cases found
          rw [alter, same, if_pos rfl, eq_of_beq same]
      | false =>
          rw [same] at found
          rw [alter, same, if_neg Bool.false_ne_true, ih found]

/-- A known key keeps its place and a new one comes last. -/
theorem keys_alter (change : Option ν → ν) (key : κ) (entries : List (κ × ν)) :
    (alter change key entries).map (·.1) =
      if (entries.map (·.1)).contains key then entries.map (·.1)
      else entries.map (·.1) ++ [key] := by
  induction entries with
  | nil => simp [alter]
  | cons entry rest ih =>
      obtain ⟨other, value⟩ := entry
      cases same : key == other with
      | true =>
          have equal : key = other := eq_of_beq same
          subst equal
          simp [alter]
      | false =>
          rw [alter, same]
          simp only [Bool.false_eq_true, if_false, List.map_cons, List.contains_cons, same,
            Bool.false_or, ih]
          split
          · rfl
          · rfl

end HingeField.Keyed
