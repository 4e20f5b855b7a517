/-!
Digests: numbers of a fixed size that are computed from any bytes. The bytes are
padded to whole blocks, which are mixed into a state one after another. Most of
the constants are digits of roots of the first primes.
-/

namespace HingeField.Shell.Utility.Digest

/-! ### Constants -/

/-- The first primes, as many as are asked for. -/
def primes (count : Nat) : List Nat :=
  ((List.range 500).filter fun number =>
    2 ≤ number && (List.range number).all fun divisor => divisor < 2 || number % divisor ≠ 0).take
    count

/-- The greatest number below a power of two whose power is not greater than a value. -/
def root (power value : Nat) : Nat → Nat → Nat
  | 0, found => found
  | bit + 1, found =>
      let next := found + Nat.pow 2 bit
      root power value bit (if Nat.pow next power ≤ value then next else found)

/-- So many binary digits behind the point of the square or cube root of a number. -/
def rootDigits (power digits number : Nat) : Nat :=
  root power (number * Nat.pow 2 (power * digits)) (digits + 8) 0 % Nat.pow 2 digits

/-! ### Blocks -/

/-- Bytes padded to whole blocks: behind a mark and zeros stands the length in bits. -/
def padded (blockSize lengthSize : Nat) (isLittle : Bool) (content : ByteArray) : ByteArray :=
  let used := (content.size + 1 + lengthSize) % blockSize
  let zeros := (blockSize - used) % blockSize
  let bits := 8 * content.size
  let length := (List.range lengthSize).map fun place =>
    let shift := if isLittle then place else lengthSize - 1 - place
    (bits / Nat.pow 256 shift % 256).toUInt8
  content.push 0x80 ++ ⟨(List.replicate zeros 0 ++ length).toArray⟩

/-- The number that some bytes stand for, the first one being the greatest. -/
def bigNumber (content : ByteArray) (start size : Nat) : Nat :=
  (List.range size).foldl
    (fun value place => value * 256 + (content.data.getD (start + place) 0).toNat) 0

/-- The number that some bytes stand for, the first one being the least. -/
def littleNumber (content : ByteArray) (start size : Nat) : Nat :=
  (List.range size).foldr
    (fun place value => value * 256 + (content.data.getD (start + place) 0).toNat) 0

/-- A number in so many base sixteen digits. -/
def hexDigits (width value : Nat) : String :=
  let digits := Nat.toDigits 16 value
  String.ofList (List.replicate (width - digits.length) '0' ++ digits)

/-- A number of four bytes with its bytes in the other order. -/
def swapped (word : UInt32) : Nat :=
  let value := word.toNat
  (List.range 4).foldl (fun found place => found * 256 + value / Nat.pow 256 place % 256) 0

def rotateLeft (word : UInt32) (count : UInt32) : UInt32 :=
  (word <<< count) ||| (word >>> (32 - count))

def rotateRight (word : UInt32) (count : UInt32) : UInt32 :=
  (word >>> count) ||| (word <<< (32 - count))

def rotateRight64 (word : UInt64) (count : UInt64) : UInt64 :=
  (word >>> count) ||| (word <<< (64 - count))

/-- A state after all blocks of some bytes. -/
def overBlocks {α : Type} (size : Nat) (mix : α → Nat → α) (start : α) (content : ByteArray) : α :=
  (List.range (content.size / size)).foldl (fun state block => mix state (block * size)) start

/-! ### 128 and 160 bits -/

def sineTable : Array UInt32 :=
  #[
    0xd76aa478, 0xe8c7b756, 0x242070db, 0xc1bdceee, 0xf57c0faf, 0x4787c62a,
    0xa8304613, 0xfd469501, 0x698098d8, 0x8b44f7af, 0xffff5bb1, 0x895cd7be,
    0x6b901122, 0xfd987193, 0xa679438e, 0x49b40821, 0xf61e2562, 0xc040b340,
    0x265e5a51, 0xe9b6c7aa, 0xd62f105d, 0x02441453, 0xd8a1e681, 0xe7d3fbc8,
    0x21e1cde6, 0xc33707d6, 0xf4d50d87, 0x455a14ed, 0xa9e3e905, 0xfcefa3f8,
    0x676f02d9, 0x8d2a4c8a, 0xfffa3942, 0x8771f681, 0x6d9d6122, 0xfde5380c,
    0xa4beea44, 0x4bdecfa9, 0xf6bb4b60, 0xbebfbc70, 0x289b7ec6, 0xeaa127fa,
    0xd4ef3085, 0x04881d05, 0xd9d4d039, 0xe6db99e5, 0x1fa27cf8, 0xc4ac5665,
    0xf4292244, 0x432aff97, 0xab9423a7, 0xfc93a039, 0x655b59c3, 0x8f0ccc92,
    0xffeff47d, 0x85845dd1, 0x6fa87e4f, 0xfe2ce6e0, 0xa3014314, 0x4e0811a1,
    0xf7537e82, 0xbd3af235, 0x2ad7d2bb, 0xeb86d391]

def sineShifts : Array UInt32 :=
  #[7, 12, 17, 22, 5, 9, 14, 20, 4, 11, 16, 23, 6, 10, 15, 21]

/-- The digest of 128 bits. -/
def md5 (content : ByteArray) : String :=
  let content := padded 64 8 true content
  let mix := fun (state : UInt32 × UInt32 × UInt32 × UInt32) (start : Nat) =>
    let words := (Array.range 16).map fun place =>
      (littleNumber content (start + 4 * place) 4).toUInt32
    let (a, b, c, d) := (List.range 64).foldl
      (fun (a, b, c, d) step =>
        let (mixed, place) : UInt32 × Nat :=
          match step / 16 with
          | 0 => ((b &&& c) ||| (~~~b &&& d), step)
          | 1 => ((d &&& b) ||| (~~~d &&& c), (5 * step + 1) % 16)
          | 2 => (b ^^^ c ^^^ d, (3 * step + 5) % 16)
          | _ => (c ^^^ (b ||| ~~~d), 7 * step % 16)
        let sum := mixed + a + sineTable.getD step 0 + words.getD place 0
        let shift := sineShifts.getD (step / 16 * 4 + step % 4) 0
        (d, b + rotateLeft sum shift, b, c))
      state
    (state.1 + a, state.2.1 + b, state.2.2.1 + c, state.2.2.2 + d)
  let (a, b, c, d) :=
    overBlocks 64 mix (0x67452301, 0xefcdab89, 0x98badcfe, 0x10325476) content
  String.join ([a, b, c, d].map fun word => hexDigits 8 (swapped word))

/-- The digest of 160 bits. -/
def sha1 (content : ByteArray) : String :=
  let content := padded 64 8 false content
  let mix := fun (state : UInt32 × UInt32 × UInt32 × UInt32 × UInt32) (start : Nat) =>
    let first := (Array.range 16).map fun place =>
      (bigNumber content (start + 4 * place) 4).toUInt32
    let words := (List.range 64).foldl
      (fun (words : Array UInt32) place =>
        let back := fun count : Nat => words.getD (place + 16 - count) 0
        words.push (rotateLeft (back 3 ^^^ back 8 ^^^ back 14 ^^^ back 16) 1))
      first
    let (a, b, c, d, e) := (List.range 80).foldl
      (fun (a, b, c, d, e) step =>
        let (mixed, constant) : UInt32 × UInt32 :=
          match step / 20 with
          | 0 => ((b &&& c) ||| (~~~b &&& d), 0x5a827999)
          | 1 => (b ^^^ c ^^^ d, 0x6ed9eba1)
          | 2 => ((b &&& c) ||| (b &&& d) ||| (c &&& d), 0x8f1bbcdc)
          | _ => (b ^^^ c ^^^ d, 0xca62c1d6)
        let next := rotateLeft a 5 + mixed + e + constant + words.getD step 0
        (next, a, rotateLeft b 30, c, d))
      state
    (state.1 + a, state.2.1 + b, state.2.2.1 + c, state.2.2.2.1 + d, state.2.2.2.2 + e)
  let (a, b, c, d, e) :=
    overBlocks 64 mix (0x67452301, 0xefcdab89, 0x98badcfe, 0x10325476, 0xc3d2e1f0) content
  String.join ([a, b, c, d, e].map fun word => hexDigits 8 word.toNat)

/-! ### 224 to 512 bits -/

def cubeTable32 : Array UInt32 :=
  ((primes 64).map fun prime => (rootDigits 3 32 prime).toUInt32).toArray

def cubeTable64 : Array UInt64 :=
  ((primes 80).map fun prime => (rootDigits 3 64 prime).toUInt64).toArray

/-- The state of eight words after some bytes, in words of 32 bits. -/
def mix32 (start : Array UInt32) (content : ByteArray) : Array UInt32 :=
  let content := padded 64 8 false content
  let mix := fun (state : Array UInt32) (offset : Nat) =>
    let first := (Array.range 16).map fun place =>
      (bigNumber content (offset + 4 * place) 4).toUInt32
    let words := (List.range 48).foldl
      (fun (words : Array UInt32) place =>
        let back := fun count : Nat => words.getD (place + 16 - count) 0
        let near := back 2
        let far := back 15
        let sum := (rotateRight near 17 ^^^ rotateRight near 19 ^^^ (near >>> 10)) + back 7 +
          (rotateRight far 7 ^^^ rotateRight far 18 ^^^ (far >>> 3)) + back 16
        words.push sum)
      first
    let mixed := (List.range 64).foldl
      (fun (state : Array UInt32) step =>
        let get := fun place : Nat => state.getD place 0
        let (a, b, c, e, f, g) := (get 0, get 1, get 2, get 4, get 5, get 6)
        let first := get 7 + (rotateRight e 6 ^^^ rotateRight e 11 ^^^ rotateRight e 25) +
          ((e &&& f) ^^^ (~~~e &&& g)) + cubeTable32.getD step 0 + words.getD step 0
        let second := (rotateRight a 2 ^^^ rotateRight a 13 ^^^ rotateRight a 22) +
          ((a &&& b) ^^^ (a &&& c) ^^^ (b &&& c))
        #[first + second, a, b, c, get 3 + first, e, f, g])
      state
    state.zipWith (· + ·) mixed
  overBlocks 64 mix start content

/-- The state of eight words after some bytes, in words of 64 bits. -/
def mix64 (start : Array UInt64) (content : ByteArray) : Array UInt64 :=
  let content := padded 128 16 false content
  let mix := fun (state : Array UInt64) (offset : Nat) =>
    let first := (Array.range 16).map fun place =>
      (bigNumber content (offset + 8 * place) 8).toUInt64
    let words := (List.range 64).foldl
      (fun (words : Array UInt64) place =>
        let back := fun count : Nat => words.getD (place + 16 - count) 0
        let near := back 2
        let far := back 15
        let sum := (rotateRight64 near 19 ^^^ rotateRight64 near 61 ^^^ (near >>> 6)) + back 7 +
          (rotateRight64 far 1 ^^^ rotateRight64 far 8 ^^^ (far >>> 7)) + back 16
        words.push sum)
      first
    let mixed := (List.range 80).foldl
      (fun (state : Array UInt64) step =>
        let get := fun place : Nat => state.getD place 0
        let (a, b, c, e, f, g) := (get 0, get 1, get 2, get 4, get 5, get 6)
        let first := get 7 + (rotateRight64 e 14 ^^^ rotateRight64 e 18 ^^^ rotateRight64 e 41) +
          ((e &&& f) ^^^ (~~~e &&& g)) + cubeTable64.getD step 0 + words.getD step 0
        let second := (rotateRight64 a 28 ^^^ rotateRight64 a 34 ^^^ rotateRight64 a 39) +
          ((a &&& b) ^^^ (a &&& c) ^^^ (b &&& c))
        #[first + second, a, b, c, get 3 + first, e, f, g])
      state
    state.zipWith (· + ·) mixed
  overBlocks 128 mix start content

/-- Digits of the square roots of some primes. -/
def squareTable (skipped digits kept : Nat) : List Nat :=
  (((primes 16).drop skipped).take 8).map fun prime => rootDigits 2 digits prime % Nat.pow 2 kept

/-- The digest of 224 or 256 bits, in so many words. -/
def sha32 (start : List Nat) (words : Nat) (content : ByteArray) : String :=
  let state := mix32 (start.map Nat.toUInt32).toArray content
  String.join ((state.toList.take words).map fun word => hexDigits 8 word.toNat)

/-- The digest of 384 or 512 bits, in so many words. -/
def sha64 (start : List Nat) (words : Nat) (content : ByteArray) : String :=
  let state := mix64 (start.map Nat.toUInt64).toArray content
  String.join ((state.toList.take words).map fun word => hexDigits 16 word.toNat)

def sha224 : ByteArray → String := sha32 (squareTable 8 64 32) 7
def sha256 : ByteArray → String := sha32 (squareTable 0 32 32) 8
def sha384 : ByteArray → String := sha64 (squareTable 8 64 64) 6
def sha512 : ByteArray → String := sha64 (squareTable 0 64 64) 8

/-! ### Rounds of words in pairs -/

/-- The order in which the words of a block are taken in each of ten rounds. -/
def wordOrders : Array (Array Nat) :=
  #[#[0, 1, 2, 3, 4, 5, 6, 7, 8, 9, 10, 11, 12, 13, 14, 15],
    #[14, 10, 4, 8, 9, 15, 13, 6, 1, 12, 0, 2, 11, 7, 5, 3],
    #[11, 8, 12, 0, 5, 2, 15, 13, 10, 14, 3, 6, 7, 1, 9, 4],
    #[7, 9, 3, 1, 13, 12, 11, 14, 2, 6, 5, 10, 4, 0, 15, 8],
    #[9, 0, 5, 7, 2, 4, 10, 15, 14, 1, 11, 12, 6, 8, 3, 13],
    #[2, 12, 6, 10, 0, 11, 8, 3, 4, 13, 7, 5, 15, 14, 1, 9],
    #[12, 5, 1, 15, 14, 13, 4, 10, 0, 7, 6, 3, 9, 2, 8, 11],
    #[13, 11, 7, 14, 12, 1, 3, 9, 5, 0, 15, 4, 8, 6, 2, 10],
    #[6, 15, 14, 9, 11, 3, 0, 8, 12, 2, 13, 7, 1, 4, 10, 5],
    #[10, 2, 8, 4, 7, 6, 1, 5, 15, 11, 9, 14, 3, 12, 13, 0]]

/-- The four places of a state that are mixed together, in the order of the mixing. -/
def mixedPlaces : List (Nat × Nat × Nat × Nat) :=
  [(0, 4, 8, 12), (1, 5, 9, 13), (2, 6, 10, 14), (3, 7, 11, 15),
    (0, 5, 10, 15), (1, 6, 11, 12), (2, 7, 8, 13), (3, 4, 9, 14)]

/-- Mixes four words of a state with two of a block. -/
def mixFour (state : Array UInt64) (places : Nat × Nat × Nat × Nat) (x y : UInt64) :
    Array UInt64 :=
  let (i, j, k, l) := places
  let get := fun place : Nat => state.getD place 0
  let half := fun (a b c d x : UInt64) (first second : UInt64) =>
    let a := a + b + x
    let d := rotateRight64 (d ^^^ a) first
    let c := c + d
    (a, rotateRight64 (b ^^^ c) second, c, d)
  let (a, b, c, d) := half (get i) (get j) (get k) (get l) x 32 24
  let (a, b, c, d) := half a b c d y 16 63
  (((state.setIfInBounds i a).setIfInBounds j b).setIfInBounds k c).setIfInBounds l d

/-- The digest of 512 bits by pairs of words. -/
def blake2b (content : ByteArray) : String :=
  let initial := ((squareTable 0 64 64).map Nat.toUInt64).toArray
  let start := initial.setIfInBounds 0 (initial.getD 0 0 ^^^ 0x01010040)
  let blocks := max 1 ((content.size + 127) / 128)
  let state := (List.range blocks).foldl
    (fun (state : Array UInt64) block =>
      let isLast := block + 1 = blocks
      let count := (min content.size ((block + 1) * 128)).toUInt64
      let words := (Array.range 16).map fun place =>
        (littleNumber content (block * 128 + 8 * place) 8).toUInt64
      let flip := fun (whole : Array UInt64) (place : Nat) (word : UInt64) =>
        whole.setIfInBounds place (whole.getD place 0 ^^^ word)
      let whole := flip (state ++ initial) 12 count
      let whole := if isLast then flip whole 14 0xffffffffffffffff else whole
      let mixed := (List.range 12).foldl
        (fun whole round =>
          let order := wordOrders.getD (round % 10) #[]
          let word := fun place : Nat => words.getD (order.getD place 0) 0
          mixedPlaces.zipIdx.foldl
            (fun whole (places, number) =>
              mixFour whole places (word (2 * number)) (word (2 * number + 1)))
            whole)
        whole
      (Array.range 8).map fun place =>
        state.getD place 0 ^^^ mixed.getD place 0 ^^^ mixed.getD (place + 8) 0)
    start
  String.join <| state.toList.map fun word =>
    let value := word.toNat
    hexDigits 16 ((List.range 8).foldl
      (fun found place => found * 256 + value / Nat.pow 256 place % 256) 0)

/-! ### Remainders -/

/-- One bit of the division by the polynomial of the checksum. -/
def divisionStep (word : UInt32) : UInt32 :=
  if word &&& 0x80000000 != 0 then (word <<< 1) ^^^ 0x04c11db7 else word <<< 1

def divisionTable : Array UInt32 :=
  (Array.range 256).map fun byte =>
    let start := (byte * 0x1000000).toUInt32
    (List.range 8).foldl (fun word _ => divisionStep word) start

def divide (word : UInt32) (byte : UInt8) : UInt32 :=
  (word <<< 8) ^^^ divisionTable.getD ((word >>> 24) ^^^ byte.toUInt32).toNat 0

/-- The bytes of a number, the least one first, without zeros at the end. -/
def lengthBytes : Nat → Nat → List UInt8
  | 0, _ => []
  | fuel + 1, value =>
      if value = 0 then [] else (value % 256).toUInt8 :: lengthBytes fuel (value / 256)

/-- The checksum of bytes with their length behind them. -/
def checksum (content : ByteArray) : Nat :=
  let word := content.foldl divide 0
  (~~~(lengthBytes 16 content.size).foldl divide word).toNat

/-- The sum of bytes, rotated before each. -/
def rotatedSum (content : ByteArray) : Nat :=
  content.foldl (fun sum byte => ((sum / 2 + sum % 2 * 32768) + byte.toNat) % 65536) 0

/-- The sum of bytes, folded to sixteen bits. -/
def foldedSum (content : ByteArray) : Nat :=
  let sum := content.foldl (fun sum byte => sum + byte.toNat) 0 % 0x100000000
  let once := sum % 65536 + sum / 65536
  once % 65536 + once / 65536

end HingeField.Shell.Utility.Digest
