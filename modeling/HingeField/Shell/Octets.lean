import HingeField.Text.Utf8

/-!
Byte texts. Scripts and the commands they call work on bytes; here a text of
theirs is a string all of whose characters are below 256, one for each byte.
Reading and writing bytes takes such a text to them and back; names of files
and messages, which are Unicode, are encoded on the way in.
-/

namespace HingeField.Shell

def octetsOf (bytes : List UInt8) : String :=
  String.ofList (bytes.map fun byte => Char.ofNat byte.toNat)

def bytesOf (octets : String) : List UInt8 :=
  octets.toList.map fun c => c.toNat.toUInt8

/-- The byte text of a Unicode text. -/
def encode (text : String) : String :=
  octetsOf text.toUTF8.toList

/-- The Unicode text of a byte text; one that encodes no text stands for itself. -/
def decode (octets : String) : String :=
  match Text.decode (bytesOf octets) with
  | .ok text => text
  | .error _ => octets

def contentOctets (content : ByteArray) : String :=
  content.foldl (fun octets byte => octets.push (Char.ofNat byte.toNat)) ""

def octetsContent (octets : String) : ByteArray :=
  octets.foldl (fun content c => content.push c.toNat.toUInt8) ByteArray.empty

/-! ### Characters among other bytes -/

/-- What stands for a byte that is part of no character: one of the last private code points. -/
def byteSign (byte : Char) : Char :=
  Char.ofNat (0x10ff00 + byte.toNat)

def isByteSign (c : Char) : Bool :=
  0x10ff80 ≤ c.toNat

/-- The character at the start of some bytes, and how many bytes encode it. -/
def firstSign (first : Char) (rest : List Char) : Char × Nat :=
  let size :=
    if first < '\x80' then 1
    else if first < '\xc2' then 0
    else if first < '\xe0' then 2
    else if first < '\xf0' then 3
    else if first < '\xf5' then 4
    else 0
  if size = 1 then (first, 1)
  else
    match size, Text.decode (bytesOf (String.ofList (first :: rest.take (size - 1)))) with
    | _ + 1, .ok text =>
        match text.toList with
        | [c] => if isByteSign c then (byteSign first, 1) else (c, size)
        | _ => (byteSign first, 1)
    | _, _ => (byteSign first, 1)

/-- The characters of a byte text, with a sign for each byte that is part of none. -/
def signsOf (octets : String) : List Char :=
  if octets.toList.all (· < '\x80') then octets.toList else signs octets.toList.length octets.toList
where
  signs : Nat → List Char → List Char
    | 0, _ => []
    | _ + 1, [] => []
    | fuel + 1, first :: rest =>
        let (sign, size) := firstSign first rest
        sign :: signs fuel (rest.drop (size - 1))

/-- The byte text of characters and of signs for other bytes. -/
def signOctets (signs : List Char) : String :=
  if signs.all (· < '\x80') then String.ofList signs
  else String.join (signs.map fun sign =>
    if isByteSign sign then String.singleton (Char.ofNat (sign.toNat - 0x10ff00))
    else encode (String.singleton sign))

/-- A text in typographic quotes, as bytes. -/
def inCurlyQuotes (text : String) : String :=
  encode "‘" ++ text ++ encode "’"

end HingeField.Shell
