/-!
UTF-8: which sequences of bytes are texts, and where the first sequence that is
none starts and ends. A byte that cannot go on the character before it ends the
defect in front of that byte.
-/

namespace HingeField.Text

inductive DecodeReason where
  | badStart
  | badContinuation
  | endOfData
deriving DecidableEq

/-- The bytes that stand where no character can be read, and the position of the first. -/
structure DecodeDefect where
  position : Nat
  bytes : List UInt8
  reason : DecodeReason

/-- A character that has been started: its bytes so far, how many are still owed, and the bounds of
the next one. -/
structure StartedCharacter where
  bytes : List UInt8
  owed : Nat
  low : UInt8 := 0x80
  high : UInt8 := 0xbf

/-- The character that a byte starts, if it can start one of several bytes. -/
def StartedCharacter.ofByte? (byte : UInt8) : Option StartedCharacter :=
  if byte < 0xc2 then none
  else if byte < 0xe0 then some { bytes := [byte], owed := 1 }
  else if byte = 0xe0 then some { bytes := [byte], owed := 2, low := 0xa0 }
  else if byte = 0xed then some { bytes := [byte], owed := 2, high := 0x9f }
  else if byte < 0xf0 then some { bytes := [byte], owed := 2 }
  else if byte = 0xf0 then some { bytes := [byte], owed := 3, low := 0x90 }
  else if byte < 0xf4 then some { bytes := [byte], owed := 3 }
  else if byte = 0xf4 then some { bytes := [byte], owed := 3, high := 0x8f }
  else none

/-- The first defect of bytes that start at a position, behind a started character if there is
one. -/
def findDefect (position : Nat) : Option StartedCharacter → List UInt8 → Option DecodeDefect
  | none, [] => none
  | some started, [] =>
      some ⟨position - started.bytes.length, started.bytes, .endOfData⟩
  | none, byte :: rest =>
      if byte < 0x80 then findDefect (position + 1) none rest
      else match StartedCharacter.ofByte? byte with
        | some started => findDefect (position + 1) (some started) rest
        | none => some ⟨position, [byte], .badStart⟩
  | some started, byte :: rest =>
      if started.low ≤ byte ∧ byte ≤ started.high then
        if started.owed ≤ 1 then findDefect (position + 1) none rest
        else
          let longer := { bytes := started.bytes ++ [byte], owed := started.owed - 1 }
          findDefect (position + 1) (some longer) rest
      else some ⟨position - started.bytes.length, started.bytes, .badContinuation⟩

/-- The text that bytes encode. -/
def decode (bytes : List UInt8) : Except DecodeDefect String :=
  match findDefect 0 none bytes with
  | some defect => .error defect
  | none => .ok ((String.fromUTF8? ⟨bytes.toArray⟩).getD "")

def DecodeReason.message : DecodeReason → String
  | .badStart => "invalid start byte"
  | .badContinuation => "invalid continuation byte"
  | .endOfData => "unexpected end of data"

/-- The two lower-case hexadecimal digits of a byte. -/
def hexByte (byte : UInt8) : String :=
  String.ofList [Nat.digitChar (byte.toNat / 16), Nat.digitChar (byte.toNat % 16)]

def DecodeDefect.message (defect : DecodeDefect) : String :=
  let place :=
    match defect.bytes with
    | [byte] => "byte 0x" ++ hexByte byte ++ " in position " ++ toString defect.position
    | bytes =>
        "bytes in position " ++ toString defect.position ++ "-" ++
          toString (defect.position + bytes.length - 1)
  "'utf-8' codec can't decode " ++ place ++ ": " ++ defect.reason.message

end HingeField.Text
