import HingeField.Random.Seed

/-!
A permuted congruential generator: a 128-bit linear congruential state, of
which each step gives out a rotated fold of the two halves.

A 32-bit word is the low half of a fresh 64-bit word; the high half is kept
for the next one. Doubles always take a fresh word.

Distinct positions are chosen by it at random. Each place draws one candidate,
from a range that grows by one position a place, and falls back on the newest
position when the candidate is taken; the chosen ones are then shuffled from
the end.
-/

namespace HingeField.Random

structure Generator where
  state : Nat
  increment : Nat
  kept : Option UInt32 := none

namespace Generator

def stateSize : Nat := 0x100000000000000000000000000000000

def multiplier : Nat := 0x2360ed051fc65da44385df649fccf645

def step (generator : Generator) : Generator :=
  { generator with
    state := (generator.state * multiplier + generator.increment) % stateSize }

/-- Two words start the state and two choose the increment, which is odd. -/
def ofWords (words : List UInt64) : Generator :=
  let word := fun place : Nat => (words.getD place 0).toNat
  let increment := ((word 2 * 0x10000000000000000 + word 3) * 2 + 1) % stateSize
  let opened := ({ state := 0, increment } : Generator).step
  { opened with state := (opened.state + (word 0 * 0x10000000000000000 + word 1)) % stateSize }.step

def ofSeed (seed : Nat) : Generator :=
  ofWords (seedWords seed)

/-- Turns a word to the right. -/
def rotateRight (word : UInt64) (amount : Nat) : UInt64 :=
  let turn := (amount % 64).toUInt64
  if turn = 0 then word else (word >>> turn) ||| (word <<< (64 - turn))

/-- Steps, then gives out the fold of the halves, turned by the top bits of the state. -/
def next64 (generator : Generator) : UInt64 × Generator :=
  let stepped := generator.step
  let high := (stepped.state / 0x10000000000000000).toUInt64
  let low := (stepped.state % 0x10000000000000000).toUInt64
  (rotateRight (high ^^^ low) (stepped.state >>> 122), stepped)

def next32 (generator : Generator) : UInt32 × Generator :=
  match generator.kept with
  | some word => (word, { generator with kept := none })
  | none =>
      let (word, stepped) := generator.next64
      (word.toUInt32, { stepped with kept := some (word >>> 32).toUInt32 })

/-- A double of the half-open unit interval, from the upper 53 bits of a word. -/
def nextUnit (generator : Generator) : Float × Generator :=
  let (word, stepped) := generator.next64
  ((word >>> 11).toFloat * (1.0 / 9007199254740992.0), stepped)

/-- Several doubles in a row. -/
def units : Nat → Generator → List Float
  | 0, _ => []
  | count + 1, generator =>
      let (unit, generator) := generator.nextUnit
      unit :: units count generator

/-- How often a word that would favour small results is drawn again. Each draw is refused with a
probability below one half. -/
def redrawLimit : Nat := 1024

/-- Draws again until the low half of the product reaches the threshold. -/
def redraw (range threshold : Nat) : Nat → Nat × Generator → Nat × Generator
  | 0, drawn => drawn
  | tries + 1, (product, generator) =>
      if product % 0x100000000 < threshold then
        let (word, generator) := generator.next32
        redraw range threshold tries (word.toNat * range, generator)
      else (product, generator)

/-- A uniform number from 0 to the given one; zero alone takes no draw. -/
def nextUpTo (most : Nat) (generator : Generator) : Nat × Generator :=
  if most = 0 then (0, generator)
  else
    let range := most + 1
    let (word, generator) := generator.next32
    let product := word.toNat * range
    if product % 0x100000000 < range then
      let threshold := (0x100000000 - 1 - most) % range
      let (product, generator) := redraw range threshold redrawLimit (product, generator)
      (product / 0x100000000, generator)
    else (product / 0x100000000, generator)

end Generator

/-- Chooses for one place: positions up to `newest` may be chosen, and `newest` is not yet. -/
def chooseNext (state : List Nat × Generator) (newest : Nat) : List Nat × Generator :=
  let (candidate, generator) := state.2.nextUpTo newest
  if state.1.contains candidate then (state.1 ++ [newest], generator)
  else (state.1 ++ [candidate], generator)

/-- Exchanges two places; places outside the list leave it alone. -/
def exchange (items : List Nat) (first second : Nat) : List Nat :=
  match items[first]?, items[second]? with
  | some left, some right => (items.set first right).set second left
  | _, _ => items

/-- Exchanges the places from the last one down to the second with random earlier ones. -/
def shuffle (items : List Nat) (generator : Generator) : List Nat × Generator :=
  (List.range (items.length - 1)).reverse.foldl
    (fun state below =>
      let place := below + 1
      let (other, generator) := state.2.nextUpTo place
      (exchange state.1 place other, generator))
    (items, generator)

/-- As many distinct positions below `population` as asked for, in random order. -/
def choose (population count : Nat) (generator : Generator) : List Nat × Generator :=
  let newest := (List.range count).map fun turn => population - count + turn
  let (chosen, generator) := newest.foldl chooseNext ([], generator)
  shuffle chosen generator

end HingeField.Random
