/-!
Seeding: an integer of any size is spread over four words of entropy, from
which the starting words of a generator are drawn. All arithmetic is modulo
2 ^ 32.
-/

namespace HingeField.Random

/-- The 32-bit words of a natural number, least significant first; zero has one word. -/
def wordsOf (seed : Nat) : List UInt32 :=
  if seed < 0x100000000 then [seed.toUInt32]
  else (seed % 0x100000000).toUInt32 :: wordsOf (seed / 0x100000000)
termination_by seed
decreasing_by omega

/-- The multipliers of a hashing chain: how its constant evolves. -/
structure HashChain where
  constant : UInt32
  multiplier : UInt32

/-- Hashes one word and moves the chain on. -/
def HashChain.hash (chain : HashChain) (word : UInt32) : UInt32 × HashChain :=
  let constant := chain.constant * chain.multiplier
  let product := (word ^^^ chain.constant) * constant
  (product ^^^ (product >>> 16), { chain with constant })

def entropyChain : HashChain := ⟨0x43b0d7e5, 0x931e8875⟩

def outputChain : HashChain := ⟨0x8b51f9dd, 0x58f38ded⟩

/-- Combines a word of the pool with a hashed word. -/
def combine (first second : UInt32) : UInt32 :=
  let difference := first * 0xca01f9dd - second * 0x4973f715
  difference ^^^ (difference >>> 16)

/-- The number of words in the pool. -/
def poolSize : Nat := 4

structure Mixing where
  pool : List UInt32
  chain : HashChain

/-- Hashes a word into the pool at one place. -/
def Mixing.absorb (mixing : Mixing) (word : UInt32) (place : Nat) : Mixing :=
  let (hashed, chain) := mixing.chain.hash word
  { pool := mixing.pool.modify place fun old => combine old hashed, chain }

/-- Fills the pool with the hashes of the first words, missing ones counting as zero. -/
def Mixing.start (entropy : List UInt32) : Mixing :=
  (List.range poolSize).foldl
    (fun mixing place =>
      let (hashed, chain) := mixing.chain.hash (entropy.getD place 0)
      { pool := mixing.pool ++ [hashed], chain })
    { pool := [], chain := entropyChain }

/-- Mixes every word of the pool into every other one. -/
def Mixing.stir (mixing : Mixing) : Mixing :=
  (List.range poolSize).foldl
    (fun mixing source =>
      (List.range poolSize).foldl
        (fun mixing place =>
          if place = source then mixing
          else mixing.absorb (mixing.pool.getD source 0) place)
        mixing)
    mixing

/-- The pool after all words of entropy. -/
def poolOf (entropy : List UInt32) : List UInt32 :=
  let stirred := (Mixing.start entropy).stir
  let mixed :=
    (entropy.drop poolSize).foldl
      (fun mixing word =>
        (List.range poolSize).foldl (fun mixing place => mixing.absorb word place) mixing)
      stirred
  mixed.pool

/-- The first words that a pool gives out, going round it. -/
def outputWords (pool : List UInt32) (count : Nat) : List UInt32 :=
  ((List.range count).foldl
    (fun (state : List UInt32 × HashChain) turn =>
      let (word, chain) := state.2.hash (pool.getD (turn % poolSize) 0)
      (state.1 ++ [word], chain))
    ([], outputChain)).1

/-- Joins pairs of words, the low one first. -/
def joinPairs : List UInt32 → List UInt64
  | low :: high :: rest => (low.toUInt64 ||| (high.toUInt64 <<< 32)) :: joinPairs rest
  | _ => []

/-- The four 64-bit words that start a generator. -/
def seedWords (seed : Nat) : List UInt64 :=
  joinPairs (outputWords (poolOf (wordsOf seed)) 8)

end HingeField.Random
