import HingeField.Shell.Integer
import HingeField.Shell.Utility.Expression

/-!
Reading regular expressions of the kind that knows looks ahead and behind, named
groups, and repetitions that are sparing or settled.
-/

namespace HingeField.Shell.Utility

structure LookSource where
  text : List Char
  groups : Nat := 0
  names : List (String × Nat) := []
  depth : Nat := 0
  ignoresCase : Bool := false
  /-- Whether blanks and comments count for nothing. -/
  isSpaced : Bool := false

abbrev LookReading := StateT LookSource (Except String)

namespace LookReading

def peek : LookReading (Option Char) := do
  return (← get).text.head?

def goTo (rest : List Char) : LookReading Unit :=
  modify fun source => { source with text := rest }

/-- The part that stands for a character, in either case if that counts. -/
def charPart (c : Char) : LookReading Regex := do
  if (← get).ignoresCase then
    return .set { isNegated := false, members := [.range c c], ignoresCase := true }
  else return .char c

def digitMembers : List Member := [.range '0' '9']

def sidewaysMembers : List Member := [.range ' ' ' ', .range '\t' '\t', .range '\u00a0' '\u00a0']

def downwardMembers : List Member := [.range '\n' '\r', .range '\u0085' '\u0085']

/-- The characters that a backslash and a letter stand for, and whether all others are meant. -/
def classOf? (c : Char) : Option (Bool × List Member) :=
  match c with
  | 'd' => some (false, digitMembers)
  | 'D' => some (true, digitMembers)
  | 'w' => some (false, (CharSet.wordSet false).members)
  | 'W' => some (true, (CharSet.wordSet false).members)
  | 's' => some (false, [.named "space"])
  | 'S' => some (true, [.named "space"])
  | 'h' => some (false, sidewaysMembers)
  | 'H' => some (true, sidewaysMembers)
  | 'v' => some (false, downwardMembers)
  | 'V' => some (true, downwardMembers)
  | _ => none

/-- The character with a code in some base, of at most so many digits, and the rest. -/
def coded (base most : Nat) (text : List Char) : Char × List Char :=
  let digits := (text.take most).takeWhile fun c => (digitOf? base c).isSome
  (Char.ofNat (((readDigits base digits).map (·.1)).getD 0), text.drop digits.length)

/-- The character that a backslash, and a letter behind it, stand for, and the rest. -/
def escapedChar (c : Char) (rest : List Char) : Except String (Char × List Char) := do
  match c with
  | 'a' => return ('\x07', rest)
  | 'e' => return ('\x1b', rest)
  | 'f' => return ('\x0c', rest)
  | 'n' => return ('\n', rest)
  | 'r' => return ('\r', rest)
  | 't' => return ('\t', rest)
  | 'c' =>
      match rest with
      | c :: rest => return (Char.ofNat (c.toUpper.toNat ^^^ 64), rest)
      | [] => throw "\\c at end of pattern"
  | 'x' =>
      match rest with
      | '\x7b' :: inside => do
          let (c, rest) := coded 16 8 inside
          return (c, rest.drop 1)
      | _ => return coded 16 2 rest
  | 'o' =>
      let (c, rest) := coded 8 11 (rest.drop 1)
      return (c, rest.drop 1)
  | '0' => return coded 8 2 rest
  | c =>
      if c.isAlpha then throw "unrecognized character follows \\"
      else return (c, rest)

/-- A part of a set: a character, or characters that a letter stands for. -/
def readMember (text : List Char) : Except String ((Char ⊕ List Member) × List Char) := do
  match text with
  | '[' :: ':' :: rest =>
      match bracketName? ':' rest with
      | none => return (.inl '[', ':' :: rest)
      | some (name, rest) =>
          let (isOutside, name) :=
            match name.toList with
            | '^' :: name => (true, String.ofList name)
            | _ => (false, name)
          let isWord := name = "word"
          if (inClass? name 'a').isNone && !isWord then throw "unknown POSIX class name"
          let members : List Member :=
            if isWord then (CharSet.wordSet false).members
            else if isOutside then [.outside name]
            else [.named name]
          return (.inr members, rest)
  | '[' :: '.' :: rest | '[' :: '=' :: rest =>
      if (bracketName? '.' rest).isSome || (bracketName? '=' rest).isSome then
        throw "POSIX collating elements are not supported"
      else return (.inl '[', text.drop 1)
  | '\\' :: 'b' :: rest => return (.inl '\x08', rest)
  | '\\' :: c :: rest =>
      match c, classOf? c with
      | 'd', _ => return (.inr digitMembers, rest)
      | 'D', _ => return (.inr [.range '\x00' '/', .range ':' '\uffff'], rest)
      | 'S', _ => return (.inr [.outside "space"], rest)
      | 'W', _ =>
          return (.inr [.range '\x00' '/', .range ':' '@', .range '[' '^', .range '\x60' '\x60',
            .range '\x7b' '\x7f'], rest)
      | _, some (_, members) => return (.inr members, rest)
      | _, none =>
          let (c, rest) ← escapedChar c rest
          return (.inl c, rest)
  | c :: rest => return (.inl c, rest)
  | [] => throw "missing terminating ] for character class"

/-- The members of a set up to its closing bracket, and the rest. -/
def readMembers : Nat → Bool → List Char → Except String (List Member × List Char)
  | 0, _, _ => .error "missing terminating ] for character class"
  | fuel + 1, isStart, text => do
      if !isStart && text.head? == some ']' then return ([], text.drop 1)
      let (part, behind) ← readMember text
      let goOn := fun (members : List Member) (rest : List Char) => do
        let (others, rest) ← readMembers fuel false rest
        return (members ++ others, rest)
      match part, behind with
      | .inr members, '-' :: next :: rest =>
          if next == ']' then goOn members behind
          else if rest.isEmpty then throw "missing terminating ] for character class"
          else throw "invalid range in character class"
      | .inr members, _ => goOn members behind
      | .inl low, '-' :: next :: rest =>
          if next == ']' then goOn [.range low low] behind
          else
            match ← readMember (next :: rest) with
            | (.inl high, rest) =>
                if high < low then throw "range out of order in character class"
                goOn [.range low high] rest
            | _ => throw "invalid range in character class"
      | .inl c, _ => goOn [.range c c] behind

/-- The bounds of a repetition up to the brace that closes them; `none` if they are none. -/
def readBounds? (text : List Char) : Except String (Option (Nat × Option Nat × List Char)) := do
  let number := fun text : List Char =>
    let digits := text.takeWhile Char.isDigit
    ((readDigits 10 digits).map (·.1), text.drop digits.length)
  let bounds := fun (least : Nat) (most : Option Nat) (rest : List Char) =>
    if 65535 < most.getD least then .error "number too big in \x7b\x7d quantifier"
    else if most.any (· < least) then .error "numbers out of order in \x7b\x7d quantifier"
    else .ok (some (least, most, rest))
  let (least?, rest) := number text
  match if text.head?.any Char.isDigit then least? else none with
  | none => return none
  | some least =>
      match rest with
      | '\x7d' :: rest => bounds least (some least) rest
      | ',' :: rest =>
          let (most?, behind) := number rest
          match behind with
          | '\x7d' :: behind =>
              bounds least (if rest.head?.any Char.isDigit then most? else none) behind
          | _ => return none
      | _ => return none

/-- A repetition with the manner that the sign behind it asks for. -/
def inManner (part : Regex) (least : Nat) (most : Option Nat) (rest : List Char) :
    Regex × List Char :=
  match rest with
  | '?' :: rest => (.sparing part least most, rest)
  | '+' :: rest => (.settled (.repeated part least most), rest)
  | rest => (.repeated part least most, rest)

/-- Adds the repetition that stands behind a part. -/
def readRepetition (part : Regex) : LookReading Regex := do
  let source ← get
  let text :=
    if source.isSpaced then source.text.dropWhile fun c => c == ' ' || c == '\t' else source.text
  let goOn := fun (least : Nat) (most : Option Nat) (rest : List Char) => do
    let (repeated, rest) := inManner part least most rest
    goTo rest
    return repeated
  match text with
  | '*' :: rest => goOn 0 none rest
  | '+' :: rest => goOn 1 none rest
  | '?' :: rest => goOn 0 (some 1) rest
  | '\x7b' :: rest =>
      match readBounds? rest with
      | .error text => throw text
      | .ok none => return part
      | .ok (some (least, most, rest)) => goOn least most rest
  | _ => return part

def isNameChar (c : Char) : Bool :=
  c.isAlphanum || c == '_'

/-- The name up to a closing sign, and the rest. -/
def readName (closing : Char) (text : List Char) : Except String (String × List Char) := do
  let name := text.takeWhile isNameChar
  match text.drop name.length with
  | c :: rest =>
      if c == closing && !name.isEmpty then return (String.ofList name, rest)
      else throw "syntax error in subpattern name (missing terminator?)"
  | [] => throw "syntax error in subpattern name (missing terminator?)"

/-- The kinds of groups, which differ in what their bodies count for. -/
inductive GroupKind where
  | numbered (name? : Option String)
  | plain
  | settled
  | look (isAhead isNegated : Bool)

/-- The kind of the group behind an opening parenthesis and a question mark, and its text. -/
def groupKind? (text : List Char) : Except String (Option (GroupKind × List Char)) := do
  let named := fun (closing : Char) (rest : List Char) => do
    let (name, rest) ← readName closing rest
    return some (GroupKind.numbered (some name), rest)
  match text with
  | ':' :: rest | '|' :: rest => return some (.plain, rest)
  | '>' :: rest => return some (.settled, rest)
  | '=' :: rest => return some (.look true false, rest)
  | '!' :: rest => return some (.look true true, rest)
  | '<' :: '=' :: rest => return some (.look false false, rest)
  | '<' :: '!' :: rest => return some (.look false true, rest)
  | '<' :: rest => named '>' rest
  | 'P' :: '<' :: rest => named '>' rest
  | '\x27' :: rest => named '\x27' rest
  | _ => return none

/-- The length of all texts that an expression fits, if they have but one. -/
def length? : Regex → Option Nat
  | .char _ | .any | .set _ => some 1
  | .both first second => do return (← length? first) + (← length? second)
  | .either first second => do
      let length ← length? first
      if (← length? second) = length then return length else failure
  | .repeated body least most => do
      if most == some least then return least * (← length? body) else failure
  | .sparing body least most => do
      if most == some least then return least * (← length? body) else failure
  | .settled body => length? body
  | .group _ body => length? body
  | .reference _ => none
  | _ => some 0

/-- Whether each alternative of an expression has a length of its own. -/
def hasLengths : Regex → Bool
  | .either first second => hasLengths first && hasLengths second
  | regex => (length? regex).isSome

/-- Switches what letters behind a question mark ask for. -/
def switchFlags (letters : List Char) : LookReading Unit := do
  let on := letters.takeWhile (· != '-')
  let off := letters.drop on.length
  for (given, value) in [(on, true), (off.drop 1, false)] do
    for letter in given do
      match letter with
      | 'i' => modify fun source => { source with ignoresCase := value }
      | 'x' => modify fun source => { source with isSpaced := value }
      | 's' | 'm' | 'n' | 'J' | 'U' => pure ()
      | _ => throw "unrecognized character after (? or (?-"

/-- The characters from one quoting sign to the other. -/
def quotedText : List Char → List Char × List Char
  | [] => ([], [])
  | '\\' :: 'E' :: rest => ([], rest)
  | c :: rest =>
      let (text, behind) := quotedText rest
      (c :: text, behind)

/-- A reference to a group by its number or name. -/
def readReference (name : String) : LookReading Regex := do
  match (← get).names.lookup name, name.toNat? with
  | some number, _ => return .reference number
  | none, some number => return .reference number
  | none, none => throw "reference to non-existent subpattern"

/-- The part behind a backslash. -/
def readEscape (c : Char) (rest : List Char) : LookReading Regex := do
  goTo rest
  let braced := fun (text : List Char) (closing : Char) => do
    match readName closing text with
    | .ok (name, rest) =>
        goTo rest
        readReference name
    | .error text => throw text
  match c, rest, classOf? c with
  | _, _, some (isNegated, members) => return .set { isNegated, members }
  | 'N', _, _ => return .any
  | 'X', _, _ => return .any
  | 'R', _, _ => return .set { isNegated := false, members := downwardMembers }
  | 'b', _, _ => return .wordBorder
  | 'B', _, _ => return .noWordBorder
  | 'A', _, _ => return .textStart
  | 'G', _, _ => return .textStart
  | 'z', _, _ | 'Z', _, _ => return .textEnd
  | 'K', _, _ => return .cut
  | 'E', _, _ => return .nothing
  | 'k', '<' :: rest, _ => braced rest '>'
  | 'k', '\x7b' :: rest, _ => braced rest '\x7d'
  | 'k', '\x27' :: rest, _ => braced rest '\x27'
  | 'g', '\x7b' :: rest, _ => braced rest '\x7d'
  | 'g', rest, _ =>
      let digits := rest.takeWhile Char.isDigit
      goTo (rest.drop digits.length)
      readReference (String.ofList digits)
  | c, rest, _ =>
      if c.isDigit && c != '0' && !(rest.head?.any Char.isDigit) then
        return .reference (c.toNat - '0'.toNat)
      else if c.isDigit && c != '0' then
        let (code, rest) := coded 8 3 (c :: rest)
        goTo rest
        charPart code
      else
        match escapedChar c rest with
        | .ok (c, rest) =>
            goTo rest
            charPart c
        | .error text => throw text

mutual

def readAlternatives : Nat → LookReading Regex
  | 0 => return .nothing
  | fuel + 1 => do
      let first ← readSequence fuel
      match (← get).text with
      | '|' :: rest =>
          goTo rest
          return .either first (← readAlternatives fuel)
      | _ => return first

def readSequence : Nat → LookReading Regex
  | 0 => return .nothing
  | fuel + 1 => do
      let source ← get
      match source.text with
      | [] => return .nothing
      | '|' :: _ => return .nothing
      | ')' :: _ =>
          if source.depth = 0 then throw "unmatched closing parenthesis" else return .nothing
      | '\\' :: 'Q' :: rest =>
          let (text, rest) := quotedText rest
          goTo rest
          return .both (Regex.ofChars text) (← readSequence fuel)
      | c :: rest =>
          if source.isSpaced && (c == ' ' || c == '\t') then
            goTo rest
            readSequence fuel
          else
            let part ← readPart fuel
            return .both part (← readSequence fuel)

/-- One part with the repetition behind it. -/
def readPart : Nat → LookReading Regex
  | 0 => return .nothing
  | fuel + 1 => do
      let source ← get
      match source.text with
      | [] => return .nothing
      | ['\\'] => throw "\\ at end of pattern"
      | '\\' :: c :: rest => readRepetition (← readEscape c rest)
      | '(' :: '?' :: '#' :: rest =>
          goTo ((rest.dropWhile (· != ')')).drop 1)
          return .nothing
      | '(' :: '?' :: 'P' :: '=' :: rest =>
          match readName ')' rest with
          | .error text => throw text
          | .ok (name, rest) =>
              goTo rest
              readRepetition (← readReference name)
      | '(' :: '?' :: rest =>
          match groupKind? rest with
          | .error text => throw text
          | .ok (some (kind, rest)) => readGroup fuel kind rest
          | .ok none =>
              let letters := rest.takeWhile fun c => c != ')' && c != ':'
              match rest.drop letters.length with
              | ')' :: rest =>
                  switchFlags letters
                  goTo rest
                  return .nothing
              | _ :: rest =>
                  switchFlags letters
                  let part ← readGroup fuel .plain rest
                  modify fun after =>
                    { after with ignoresCase := source.ignoresCase, isSpaced := source.isSpaced }
                  return part
              | [] =>
                  switchFlags letters
                  throw "missing closing parenthesis"
      | '(' :: rest => readGroup fuel (.numbered none) rest
      | '[' :: rest =>
          let (isNegated, inside) :=
            match rest with
            | '^' :: inside => (true, inside)
            | inside => (false, inside)
          match readMembers (inside.length + 2) true inside with
          | .error text => throw text
          | .ok (members, rest) =>
              goTo rest
              readRepetition (.set { isNegated, members, ignoresCase := source.ignoresCase })
      | c :: rest =>
          goTo rest
          match c with
          | '.' => readRepetition .any
          | '^' => readRepetition .lineStart
          | '$' => readRepetition .lineEnd
          | '*' | '+' | '?' => throw "quantifier does not follow a repeatable item"
          | c => readRepetition (← charPart c)

/-- The body of a group and the repetition behind it. -/
def readGroup : Nat → GroupKind → List Char → LookReading Regex
  | 0, _, _ => return .nothing
  | fuel + 1, kind, rest => do
      let before ← get
      goTo rest
      modify fun source => { source with depth := source.depth + 1 }
      let number := before.groups + 1
      match kind with
      | .numbered name? =>
          let names := name?.toList.map fun name => (name, number)
          modify fun source => { source with groups := number, names := names ++ source.names }
      | _ => pure ()
      let body ← readAlternatives fuel
      match (← get).text with
      | _ :: rest => goTo rest
      | [] => throw "missing closing parenthesis"
      modify fun source =>
        { source with
          depth := before.depth, ignoresCase := before.ignoresCase, isSpaced := before.isSpaced }
      let part ← (
        match kind with
        | .numbered _ => pure (.group number body)
        | .plain => pure body
        | .settled => pure (.settled body)
        | .look isAhead isNegated =>
            if !isAhead && !hasLengths body then
              throw "lookbehind assertion is not fixed length"
            else pure (.look isAhead isNegated body))
      readRepetition part

end

/-- Whether all references of an expression are to its groups. -/
def hasGroups (count : Nat) : Regex → Bool
  | .both first second => hasGroups count first && hasGroups count second
  | .either first second => hasGroups count first && hasGroups count second
  | .repeated body _ _ => hasGroups count body
  | .sparing body _ _ => hasGroups count body
  | .settled body => hasGroups count body
  | .group _ body => hasGroups count body
  | .look _ _ body => hasGroups count body
  | .reference number => number ≤ count
  | _ => true

end LookReading

/-- Whether a text is nothing but a class in brackets and colons. -/
def isLoneClass (chars : List Char) : Bool :=
  match chars with
  | '[' :: ':' :: rest => (bracketName? ':' rest).any fun (_, behind) => behind.isEmpty
  | _ => false

/-- Reads an expression with looks around. -/
def Regex.parseLooking (chars : List Char) : Except String Regex := do
  if isLoneClass chars then throw "POSIX named classes are supported only within a class"
  let (regex, source) ← (LookReading.readAlternatives (4 * chars.length + 8)).run { text := chars }
  unless LookReading.hasGroups source.groups regex do
    throw "reference to non-existent subpattern"
  return regex

end HingeField.Shell.Utility
