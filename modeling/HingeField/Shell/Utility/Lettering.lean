import HingeField.Shell.Utility.Checksum

/-!
Bytes written with few letters: each letter stands for so many bits, and whole
groups of letters for whole bytes.
-/

namespace HingeField.Shell.Utility

/-- Letters for all values of so many bits, and how many of them make a group. -/
structure Lettering where
  letters : List Char
  bits : Nat
  group : Nat

namespace Lettering

def base64 : Lettering :=
  { letters := "ABCDEFGHIJKLMNOPQRSTUVWXYZabcdefghijklmnopqrstuvwxyz0123456789+/".toList
    bits := 6, group := 4 }

def base64Url : Lettering :=
  { base64 with
    letters := "ABCDEFGHIJKLMNOPQRSTUVWXYZabcdefghijklmnopqrstuvwxyz0123456789-_".toList }

def base32 : Lettering :=
  { letters := "ABCDEFGHIJKLMNOPQRSTUVWXYZ234567".toList, bits := 5, group := 8 }

def base32Hex : Lettering :=
  { base32 with letters := "0123456789ABCDEFGHIJKLMNOPQRSTUV".toList }

def base16 : Lettering :=
  { letters := "0123456789ABCDEF".toList, bits := 4, group := 2 }

/-- The bytes that a group of letters stands for. -/
def groupBytes (lettering : Lettering) : Nat :=
  lettering.group * lettering.bits / 8

/-- The letters for up to a group of bytes; equals signs fill up the group. -/
def encodeGroup (lettering : Lettering) (bytes : List UInt8) : List Char :=
  let size := lettering.groupBytes
  let value := (bytes ++ List.replicate (size - bytes.length) 0).foldl
    (fun (value : Nat) (byte : UInt8) => value * 256 + byte.toNat) 0
  let used := (8 * bytes.length + lettering.bits - 1) / lettering.bits
  (List.range lettering.group).map fun place =>
    if place < used then
      let shift := lettering.bits * (lettering.group - 1 - place)
      lettering.letters.getD (value / Nat.pow 2 shift % Nat.pow 2 lettering.bits) '='
    else '='

/-- The letters for bytes. -/
def encode (lettering : Lettering) : Nat → List UInt8 → List Char
  | 0, _ => []
  | _ + 1, [] => []
  | fuel + 1, bytes =>
      lettering.encodeGroup (bytes.take lettering.groupBytes) ++
        lettering.encode fuel (bytes.drop lettering.groupBytes)

/-- The bytes that a group of letters stands for, which equals signs may fill up; `none` if it
stands for none. -/
def decodeGroup? (lettering : Lettering) (group : List Char) : Option (List UInt8) := do
  let used := group.takeWhile (· != '=')
  guard (group.length = lettering.group)
  guard ((group.drop used.length).all (· == '='))
  let places ← used.mapM fun c =>
    lettering.letters.idxOf? c
  let size := used.length * lettering.bits / 8
  guard (0 < size)
  guard ((8 * size + lettering.bits - 1) / lettering.bits = used.length)
  let value := (places ++ List.replicate (lettering.group - used.length) 0).foldl
    (fun value place => value * Nat.pow 2 lettering.bits + place) 0
  return (List.range size).map fun place =>
    (value / Nat.pow 256 (lettering.groupBytes - 1 - place) % 256).toUInt8

/-- The bytes of the groups that letters start with, and whether they are letters throughout. -/
def decode (lettering : Lettering) : Nat → List Char → List UInt8 × Bool
  | 0, _ => ([], true)
  | _ + 1, [] => ([], true)
  | fuel + 1, letters =>
      match lettering.decodeGroup? (letters.take lettering.group) with
      | some bytes =>
          let (later, isWhole) := lettering.decode fuel (letters.drop lettering.group)
          (bytes ++ later, isWhole)
      | none =>
          let whole := (letters.take lettering.group).takeWhile lettering.letters.contains
          let size := whole.length * lettering.bits / 8
          let filled := whole ++ List.replicate (lettering.group - whole.length)
            (lettering.letters.headD '=')
          (((lettering.decodeGroup? filled).getD []).take size, false)

end Lettering

/-- Lines of a width, the last of which may be shorter. -/
def wrapped (width : Nat) : Nat → List Char → String
  | 0, _ => ""
  | _ + 1, [] => ""
  | fuel + 1, letters =>
      String.ofList (letters.take width) ++ "\n" ++ wrapped width fuel (letters.drop width)

def letteringNames : LongNames :=
  [("decode", 'd'), ("ignore-garbage", 'i'), ("wrap", 'w')]

/-- Writes bytes with letters, or letters as bytes. -/
def showLettered (lettering : Lettering) (options : Options) : Work Unit := do
  let width ←
    match options.argument? 'w' with
    | none => pure 76
    | some text =>
        match text.toNat? with
        | some width => pure width
        | none => refuse 1 ("invalid wrap size: " ++ inCurlyQuotes text)
  match options.operands with
  | _ :: extra :: _ => misuse 1 ("extra operand " ++ inCurlyQuotes extra)
  | names =>
      let name := names.headD "-"
      match ← contentOf name with
      | .error fault =>
          let phrase := if fault == .isDirectory then "read error" else shownName name
          warn 1 (phrase ++ ": " ++ faultText fault)
      | .ok content =>
          if options.has 'd' then
            let letters := (contentOctets content).toList.filter fun c =>
              if options.has 'i' then lettering.letters.contains c || c == '=' else c != '\n'
            let (bytes, isWhole) := lettering.decode (letters.length + 1) letters
            put (octetsOf bytes)
            unless isWhole do warn 1 "invalid input"
          else
            let letters := lettering.encode (content.size + 1) content.data.toList
            if width = 0 then put (String.ofList letters)
            else put (wrapped width (letters.length + 1) letters)

def showLetters (lettering : Lettering) (operands : List String) : Work Unit :=
  withOptions "diw:" letteringNames 1 operands (showLettered lettering)

/-- The letterings that can be chosen, with the letters for their options. -/
def letterings : List (String × Char × Lettering) :=
  [("base64", '1', .base64), ("base64url", '2', .base64Url), ("base32", '3', .base32),
    ("base32hex", '4', .base32Hex), ("base16", '5', .base16)]

def showChosenLetters (operands : List String) : Work Unit :=
  let names : LongNames := letterings.map fun (name, letter, _) => (name, letter)
  withOptions "diw:12345" (letteringNames ++ names) 1 operands fun options => do
    match letterings.find? fun (_, letter, _) => options.has letter with
    | some (_, _, lettering) => showLettered lettering options
    | none => misuse 1 "missing encoding type"

end HingeField.Shell.Utility
