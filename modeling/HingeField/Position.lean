/-!
Positions in a sequence. A negative position counts from the end, so that -1
is the last one; it names the same element as the position it resolves to, but
stays a key of its own wherever positions are used as keys.
-/

namespace HingeField

/-- One more than the greatest number of a machine word; its negation is the least one. -/
def wordBound : Int := 0x8000000000000000

/-- Whether an index is a machine word. No sequence has an element at another one. -/
def isWord (index : Int) : Bool :=
  -wordBound ≤ index && index < wordBound

/-- Whether an index has the bits of a machine word without being one, as words without a sign have
that stand for more than half of their range. -/
def isOverWord (index : Int) : Bool :=
  wordBound ≤ index && index < 2 * wordBound

/-- The offset from the start that a position names in a sequence of the given size. -/
def resolvePosition? (size : Nat) (position : Int) : Option Nat :=
  if 0 ≤ position ∧ position < size then some position.toNat
  else if position < 0 ∧ 0 ≤ size + position then some (size + position).toNat
  else none

/-- The element at a position, if the sequence has it. -/
def elementAt? {α : Type} (items : List α) (position : Int) : Option α :=
  (resolvePosition? items.length position).bind fun offset => items[offset]?

theorem resolvePosition?_lt {size : Nat} {position : Int} {offset : Nat}
    (resolved : resolvePosition? size position = some offset) : offset < size := by
  unfold resolvePosition? at resolved
  split at resolved
  · rename_i inside
    have equal := Option.some.inj resolved
    omega
  · split at resolved
    · rename_i inside
      have equal := Option.some.inj resolved
      omega
    · cases resolved

theorem resolvePosition?_natCast {size offset : Nat} (inside : offset < size) :
    resolvePosition? size (offset : Int) = some offset := by
  unfold resolvePosition?
  rw [if_pos ⟨Int.natCast_nonneg offset, Int.ofNat_lt.mpr inside⟩]
  rfl

theorem elementAt?_natCast {α : Type} {items : List α} {offset : Nat}
    (inside : offset < items.length) : elementAt? items (offset : Int) = items[offset]? := by
  unfold elementAt?
  rw [resolvePosition?_natCast inside]
  rfl

/-- The part before an end position; a negative one drops elements from the end. -/
def takeUntil {α : Type} (items : List α) (stop : Int) : List α :=
  items.take (if 0 ≤ stop then stop.toNat else (items.length + stop).toNat)

end HingeField
