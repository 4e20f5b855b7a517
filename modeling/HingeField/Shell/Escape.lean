/-!
Escapes of output texts: a backslash and what stands behind it are a control
character, a byte given in octal digits, or the backslash itself.
-/

namespace HingeField.Shell

/-- A text with one of its escapes read: the character it stands for, and the rest. -/
abbrev Escaped := Char × List Char

def octalDigit? (c : Char) : Option Nat :=
  if '0' ≤ c ∧ c ≤ '7' then some (c.toNat - '0'.toNat) else none

/-- The byte of up to so many octal digits, and the rest. -/
def readOctal (most : Nat) (text : List Char) : Escaped :=
  let digits := (text.take most).takeWhile fun c => (octalDigit? c).isSome
  let value := (digits.filterMap octalDigit?).foldl (fun total digit => 8 * total + digit) 0
  (Char.ofNat (value % 256), text.drop digits.length)

/-- What a letter behind a backslash stands for. -/
def controlOf? (c : Char) : Option Char :=
  match c with
  | 'a' => some '\x07'
  | 'b' => some '\x08'
  | 'e' => some '\x1b'
  | 'f' => some '\x0c'
  | 'n' => some '\n'
  | 'r' => some '\r'
  | 't' => some '\t'
  | 'v' => some '\x0b'
  | '\\' => some '\\'
  | _ => none

/-- What stands behind a backslash. -/
def readEscape (text : List Char) : Escaped :=
  match text with
  | [] => ('\\', [])
  | c :: rest =>
      match controlOf? c with
      | some control => (control, rest)
      | none => if (octalDigit? c).isSome then readOctal 3 text else ('\\', text)

/-- A text with its escapes read, and whether one of them ends all output. An octal number may have
a zero in front of its three digits. -/
def unescape : Nat → List Char → List Char × Bool
  | 0, _ => ([], false)
  | _ + 1, [] => ([], false)
  | _ + 1, '\\' :: 'c' :: _ => ([], true)
  | fuel + 1, '\\' :: '0' :: rest =>
      let (c, rest) := readOctal 3 rest
      let (later, ends) := unescape fuel rest
      (c :: later, ends)
  | fuel + 1, '\\' :: rest =>
      let (c, rest) := readEscape rest
      let (later, ends) := unescape fuel rest
      (c :: later, ends)
  | fuel + 1, c :: rest =>
      let (later, ends) := unescape fuel rest
      (c :: later, ends)

def unescaped (text : String) : String × Bool :=
  let (chars, ends) := unescape (text.length + 1) text.toList
  (String.ofList chars, ends)

end HingeField.Shell
