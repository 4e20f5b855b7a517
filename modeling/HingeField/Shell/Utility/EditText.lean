import HingeField.Shell.Integer
import HingeField.Shell.Octets

/-!
The texts in a script of edits: what stands between delimiters, and what escapes
in it stand for.
-/

namespace HingeField.Shell.Utility

/-- Where a text stands with regard to brackets of an expression. -/
inductive BracketState where
  | outside
  | opened
  | negated
  | inside
  | named (sign : Char)

/-- What a character makes of a place among brackets; the character in front of it is given. -/
def BracketState.next (state : BracketState) (before c : Char) : BracketState :=
  match state with
  | .outside => if c == '[' then .opened else .outside
  | .opened => if c == '^' then .negated else .inside
  | .negated => .inside
  | .inside =>
      if c == ']' then .outside
      else if before == '[' && ":.=".toList.contains c then .named c
      else .inside
  | .named sign => if c == ']' && before == sign then .inside else .named sign

def BracketState.isOutside : BracketState → Bool
  | .outside => true
  | _ => false

/-- The text up to a delimiter, and what stands behind that. A line feed must stand behind a
backslash. A delimiter behind one is a character of the text; in an expression, delimiters between
brackets are so too, and the letter for a line feed stands for one. -/
def upToDelimiter (delimiter : Char) (isRegex : Bool) :
    BracketState → Char → List Char → Option (List Char × List Char)
  | _, _, [] => none
  | _, _, '\n' :: _ => none
  | _, _, ['\\'] => none
  | state, before, '\\' :: c :: rest =>
      let state := if isRegex then state else .outside
      if c == '\n' || (c == 'n' && isRegex) then
        (upToDelimiter delimiter isRegex (state.next before '\n') '\n' rest).map
          fun (text, behind) => ('\n' :: text, behind)
      else if state.isOutside then
        let kept := if c == delimiter && (isRegex || c != '&') then [c] else ['\\', c]
        (upToDelimiter delimiter isRegex state c rest).map
          fun (text, behind) => (kept ++ text, behind)
      else
        let state := (state.next before '\\').next '\\' c
        (upToDelimiter delimiter isRegex state c rest).map
          fun (text, behind) => ('\\' :: c :: text, behind)
  | state, before, c :: rest =>
      if c == delimiter && state.isOutside then some ([], rest)
      else
        let state := if isRegex then state.next before c else .outside
        (upToDelimiter delimiter isRegex state c rest).map
          fun (text, behind) => (c :: text, behind)

/-- The byte that digits behind a letter write, of which there may be so many, and the rest; `none`
if there are no digits. -/
def writtenByte? (base most : Nat) (text : List Char) : Option (Char × List Char) :=
  let (number?, behind) :=
    match readDigits base (text.take most) with
    | some (number, rest) => (some number, rest ++ text.drop most)
    | none => (none, text)
  number?.map fun number => (Char.ofNat (number % 256), behind)

/-- The character that a backslash and the text behind it stand for as an escape, and the rest. -/
def editEscape? (text : List Char) : Option (Char × List Char) :=
  match text with
  | 'a' :: rest => some ('\x07', rest)
  | 'f' :: rest => some ('\x0c', rest)
  | 'n' :: rest => some ('\n', rest)
  | 'r' :: rest => some ('\r', rest)
  | 't' :: rest => some ('\t', rest)
  | 'v' :: rest => some ('\x0b', rest)
  | 'c' :: '\\' :: '\\' :: rest => some ('\x1c', rest)
  | 'c' :: c :: rest => some (Char.ofNat (c.toUpper.toNat ^^^ 64), rest)
  | 'd' :: rest => writtenByte? 10 3 rest
  | 'o' :: rest => writtenByte? 8 3 rest
  | 'x' :: rest => writtenByte? 16 2 rest
  | _ => none

/-- A text with the characters that escapes stand for. In a replacement, those with a meaning of
their own stay behind a backslash. -/
def withEscapes (isReplacement : Bool) : Nat → List Char → List Char
  | 0, _ => []
  | _ + 1, [] => []
  | fuel + 1, '\\' :: rest =>
      match editEscape? rest with
      | some (c, rest) =>
          if isReplacement && (c == '\\' || c == '&') then
            '\\' :: c :: withEscapes isReplacement fuel rest
          else c :: withEscapes isReplacement fuel rest
      | none =>
          match rest with
          | c :: rest => '\\' :: c :: withEscapes isReplacement fuel rest
          | [] => ['\\']
  | fuel + 1, c :: rest => c :: withEscapes isReplacement fuel rest

/-- A text without the backslashes in front of characters that are no escapes. -/
def plainText : Nat → List Char → List Char
  | 0, _ => []
  | _ + 1, [] => []
  | fuel + 1, '\\' :: rest =>
      match editEscape? rest, rest with
      | some (c, rest), _ => c :: plainText fuel rest
      | none, c :: rest => c :: plainText fuel rest
      | none, [] => []
  | fuel + 1, c :: rest => c :: plainText fuel rest

/-- The text of a command up to the end of its line, what stands behind it, and whether a backslash
at the end of all has it go on elsewhere. -/
def readTextLines : List Char → List Char × List Char × Bool
  | [] => ([], [], false)
  | '\n' :: rest => ([], rest, false)
  | ['\\'] => ([], [], true)
  | '\\' :: c :: rest =>
      let (text, behind, isOpen) := readTextLines rest
      ('\\' :: c :: text, behind, isOpen)
  | c :: rest =>
      let (text, behind, isOpen) := readTextLines rest
      (c :: text, behind, isOpen)

end HingeField.Shell.Utility
