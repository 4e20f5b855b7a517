/-!
Patterns over names and texts: a star stands for any text, a question mark for
any character, and brackets for any character of a set. Each of these signs
counts only where it is active; quoting makes it stand for itself, and so does
an active backslash in front of it.
-/

namespace HingeField.Shell

/-- Characters, each with whether it may act as a sign of a pattern. -/
abbrev Pattern := List (Char × Bool)

namespace Pattern

def ofText (isActive : Bool) (text : String) : Pattern :=
  text.toList.map fun c => (c, isActive)

/-- The text that a pattern consists of. -/
def text (pattern : Pattern) : String :=
  String.ofList (pattern.map (·.1))

/-- The text without the backslashes that keep the sign behind them from its meaning. -/
def plainText : Pattern → List Char
  | ('\\', true) :: (c, _) :: rest => c :: plainText rest
  | (c, _) :: rest => c :: plainText rest
  | [] => []

/-- Whether some sign of a pattern is active. -/
def isSelective (pattern : Pattern) : Bool :=
  pattern.any fun (c, isActive) => isActive && "*?[".toList.contains c

end Pattern

/-- Whether a character belongs to a named class; only unaccented letters do. -/
def inClass? (name : String) (c : Char) : Option Bool :=
  let isGraphic := '\x21' ≤ c && c ≤ '\x7e'
  match name with
  | "alpha" => some c.isAlpha
  | "digit" => some c.isDigit
  | "alnum" => some c.isAlphanum
  | "upper" => some c.isUpper
  | "lower" => some c.isLower
  | "space" => some (c == ' ' || ('\x09' ≤ c && c ≤ '\x0d'))
  | "blank" => some (c == ' ' || c == '\t')
  | "punct" => some (isGraphic && !c.isAlphanum)
  | "print" => some (isGraphic || c == ' ')
  | "graph" => some isGraphic
  | "cntrl" => some (c < ' ' || c == '\x7f')
  | "xdigit" => some (c.isDigit || ('a' ≤ c && c ≤ 'f') || ('A' ≤ c && c ≤ 'F'))
  | _ => none

/-- The name of a class that a set goes on with, behind its first bracket, and the rest. -/
def classStart? : Pattern → Option (String × Pattern)
  | (':', _) :: rest =>
      let name := rest.takeWhile fun (c, _) => c != ':'
      match rest.drop name.length with
      | (':', _) :: (']', _) :: behind => some (Pattern.text name, behind)
      | _ => none
  | _ => none

/-- The character at the start of a set, past a backslash that quotes it. -/
def member : Pattern → Option (Char × Pattern)
  | ('\\', true) :: (c, _) :: rest => some (c, rest)
  | (c, _) :: rest => some (c, rest)
  | [] => none

/-- Whether a character is in a set up to its closing bracket, which does not count as such where
the set starts; and the pattern behind the set. -/
def searchSet (c : Char) : Nat → Bool → Bool → Pattern → Option (Bool × Pattern)
  | 0, _, _, _ => none
  | _ + 1, _, _, [] => none
  | fuel + 1, isStart, found, (own, isActive) :: rest =>
      if own == ']' && isActive && !isStart then some (found, rest)
      else
        let class? := if own == '[' && isActive then classStart? rest else none
        match class? with
        | some (name, behind) =>
            searchSet c fuel false (found || (inClass? name c).getD false) behind
        | none =>
            match member ((own, isActive) :: rest) with
            | none => none
            | some (low, behind) =>
                match behind with
                | ('-', true) :: (next, isSign) :: later =>
                    if next == ']' && isSign then
                      searchSet c fuel false (found || c == low) behind
                    else match member ((next, isSign) :: later) with
                      | some (high, behind) =>
                          searchSet c fuel false (found || (low ≤ c && c ≤ high)) behind
                      | none => none
                | behind => searchSet c fuel false (found || c == low) behind

/-- Whether a character is in the set that a bracket has started, which a leading exclamation mark
turns around; and the pattern behind it. Without a closing bracket there is no set. -/
def inSet? (c : Char) (pattern : Pattern) : Option (Bool × Pattern) :=
  match pattern with
  | ('!', true) :: rest =>
      (searchSet c (rest.length + 1) true false rest).map fun (found, behind) => (!found, behind)
  | rest => searchSet c (rest.length + 1) true false rest

/-- Whether a text as a whole fits a pattern. -/
def fits : Nat → Pattern → List Char → Bool
  | 0, _, _ => false
  | _ + 1, [], text => text.isEmpty
  | fuel + 1, ('*', true) :: pattern, text =>
      fits fuel pattern text ||
        (match text with
        | [] => false
        | _ :: rest => fits fuel (('*', true) :: pattern) rest)
  | _ + 1, _ :: _, [] => false
  | fuel + 1, ('?', true) :: pattern, _ :: rest => fits fuel pattern rest
  | fuel + 1, ('[', true) :: pattern, c :: rest =>
      match inSet? c pattern with
      | some (found, behind) => found && fits fuel behind rest
      | none => c == '[' && fits fuel pattern rest
  | fuel + 1, ('\\', true) :: (own, _) :: pattern, c :: rest => own == c && fits fuel pattern rest
  | fuel + 1, (own, _) :: pattern, c :: rest => own == c && fits fuel pattern rest

def Pattern.fitsText (pattern : Pattern) (text : List Char) : Bool :=
  fits (pattern.length + text.length + 1) pattern text

/-- The shortest or longest beginning that fits a pattern, taken off a text. -/
def dropBeginning (isLongest : Bool) (pattern : Pattern) (text : List Char) : List Char :=
  let lengths := List.range (text.length + 1)
  let tried := if isLongest then lengths.reverse else lengths
  match tried.find? fun length => pattern.fitsText (text.take length) with
  | some length => text.drop length
  | none => text

/-- The shortest or longest end that fits a pattern, taken off a text. -/
def dropEnd (isLongest : Bool) (pattern : Pattern) (text : List Char) : List Char :=
  let lengths := List.range (text.length + 1)
  let tried := if isLongest then lengths else lengths.reverse
  match tried.find? fun length => pattern.fitsText (text.drop length) with
  | some length => text.take length
  | none => text

end HingeField.Shell
