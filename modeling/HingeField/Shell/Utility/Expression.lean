import HingeField.Shell.Utility.Regex

/-!
Reading regular expressions in their basic form, where groups, alternatives and
bounds are written behind backslashes, and in their extended form.
-/

namespace HingeField.Shell.Utility

/-- How expressions are written. -/
structure Dialect where
  isExtended : Bool := false
  /-- Whether a repetition of nothing is refused. Otherwise it stands for itself in the basic form
  and is skipped in the extended one, where a closing parenthesis without an opening one and bounds
  that are none stand for themselves as well. -/
  isStrict : Bool := false

/-! ### Sets -/

def bracketMismatch : String := "Unmatched [, [^, [:, [., or [="

/-- The name between two signs in brackets, such as colons, and the rest. -/
def bracketName? (sign : Char) : List Char → Option (String × List Char)
  | [] => none
  | c :: rest =>
      if c == sign && rest.head? == some ']' then some ("", rest.drop 1)
      else (bracketName? sign rest).map fun (name, rest) => (String.singleton c ++ name, rest)

/-- What a set goes on with. -/
inductive SetPart where
  | char (c : Char)
  | named (name : String)
  /-- A class of characters that are as good as this one. -/
  | alike (c : Char)

def singleName (name : String) : Except String Char :=
  match name.toList with
  | [c] => .ok c
  | _ => .error "Invalid collation character"

/-- The next part of a set, of which a hyphen may be one or not. -/
def readSetPart (allowsHyphen : Bool) (text : List Char) :
    Except String (SetPart × List Char) := do
  match text with
  | '[' :: sign :: rest =>
      if sign == ':' || sign == '.' || sign == '=' then
        match bracketName? sign rest with
        | none => throw bracketMismatch
        | some (name, rest) =>
            if sign == ':' then
              if (inClass? name 'a').isNone then throw "Invalid character class name"
              return (.named name, rest)
            let c ← singleName name
            return (if sign == '.' then .char c else .alike c, rest)
      else return (.char '[', sign :: rest)
  | '-' :: rest =>
      if !allowsHyphen && rest.head? != some ']' then throw "Invalid range end"
      return (.char '-', rest)
  | c :: rest => return (.char c, rest)
  | [] => throw bracketMismatch

/-- The members of a set up to its closing bracket, and the rest. -/
def readMembers : Nat → Bool → List Char → Except String (List Member × List Char)
  | 0, _, _ => .error bracketMismatch
  | fuel + 1, isStart, text => do
      if !isStart && text.head? == some ']' then return ([], text.drop 1)
      let (part, behind) ← readSetPart isStart text
      let goOn := fun (member : Member) (rest : List Char) => do
        let (members, rest) ← readMembers fuel false rest
        return (member :: members, rest)
      match part with
      | .named name => goOn (.named name) behind
      | .alike c => goOn (.range c c) behind
      | .char low =>
          match behind with
          | ['-'] => throw bracketMismatch
          | '-' :: next :: rest =>
              if next == ']' then goOn (.range low low) behind
              else
                match ← readSetPart true (next :: rest) with
                | (.char high, rest) =>
                    if '\x80' ≤ low || '\x80' ≤ high then throw "Invalid collation character"
                    if high < low then throw "Invalid range end"
                    goOn (.range low high) rest
                | _ => throw "Invalid range end"
          | _ => goOn (.range low low) behind

/-- Whether brackets hold a name in colons that lacks brackets of its own. -/
def isBareClass (inside : List Char) : Bool :=
  match inside with
  | ':' :: rest =>
      rest.getLast? == some ':' && rest.any (· != ':') && !rest.contains '[' && !rest.contains '-'
  | _ => false

/-- The set behind an opening bracket. -/
def readSet (text : List Char) : Except String (CharSet × List Char) := do
  let (isNegated, inside) :=
    match text with
    | '^' :: rest => (true, rest)
    | rest => (false, rest)
  if inside.isEmpty then throw "Invalid regular expression"
  let (members, rest) ← readMembers (inside.length + 2) true inside
  if isBareClass (inside.take (inside.length - rest.length - 1)) then
    throw "character class syntax is [[:space:]], not [:space:]"
  return ({ isNegated, members }, rest)

/-! ### Parts -/

/-- What an expression goes on with. -/
inductive RegexToken where
  | opening
  | closing
  | bar
  | star
  | plus
  | question
  | bounds
  | boundsEnd
  | set
  | reference (number : Nat)
  /-- What a repetition may stand behind. -/
  | part (regex : Regex)
  /-- A place, which is not repeated. -/
  | anchor (regex : Regex)
  | lastBackslash
  | ending

/-- The character that a token stands for where it has no meaning of its own. -/
def RegexToken.char : RegexToken → Char
  | .opening => '('
  | .closing => ')'
  | .bar => '|'
  | .star => '*'
  | .plus => '+'
  | .question => '?'
  | .bounds => '\x7b'
  | .boundsEnd => '\x7d'
  | _ => '\\'

/-- What is written as a character alone in the extended form, and behind a backslash in the basic
form. -/
def signToken? (c : Char) : Option RegexToken :=
  match c with
  | '(' => some .opening
  | ')' => some .closing
  | '|' => some .bar
  | '+' => some .plus
  | '?' => some .question
  | '\x7b' => some .bounds
  | '\x7d' => some .boundsEnd
  | _ => none

/-- What a backslash and a character stand for in both forms. -/
def escapedToken (c : Char) : RegexToken :=
  match c with
  | 'w' => .part (.set (CharSet.wordSet false))
  | 'W' => .part (.set (CharSet.wordSet true))
  | 's' => .part (.set (CharSet.classSet "space" false))
  | 'S' => .part (.set (CharSet.classSet "space" true))
  | '<' => .anchor .wordStart
  | '>' => .anchor .wordEnd
  | 'b' => .anchor .wordBorder
  | 'B' => .anchor .noWordBorder
  | '\x60' => .anchor .textStart
  | '\x27' => .anchor .textEnd
  | c =>
      if c.isDigit && c != '0' then .reference (c.toNat - '0'.toNat) else .part (.char c)

structure RegexSource where
  text : List Char
  groups : Nat := 0
  /-- The groups that are closed. -/
  complete : List Nat := []
  depth : Nat := 0
  /-- Whether a caret stands for the start of a line here. -/
  isAtStart : Bool := true
  warnings : List String := []

abbrev RegexReading := StateT RegexSource (Except String)

section

variable (dialect : Dialect)

/-- Whether a dollar sign in front of a text stands for the end of a line. -/
def isEndSign (rest : List Char) : Bool :=
  dialect.isExtended || rest.isEmpty ||
    (match rest with
    | '\\' :: ')' :: _ => true
    | '\\' :: '|' :: _ => true
    | _ => false)

/-- The token at the start of a text, and the rest. -/
def readToken (isAtStart : Bool) (text : List Char) : RegexToken × List Char :=
  match text with
  | [] => (.ending, [])
  | ['\\'] => (.lastBackslash, [])
  | '\\' :: c :: rest =>
      match if dialect.isExtended then none else signToken? c with
      | some token => (token, rest)
      | none => (escapedToken c, rest)
  | c :: rest =>
      match if dialect.isExtended then signToken? c else none with
      | some token => (token, rest)
      | none =>
          match c with
          | '*' => (.star, rest)
          | '.' => (.part .any, rest)
          | '[' => (.set, rest)
          | '^' =>
              if dialect.isExtended || isAtStart then (.anchor .lineStart, rest)
              else (.part (.char c), rest)
          | '$' =>
              if isEndSign dialect rest then (.anchor .lineEnd, rest)
              else (.part (.char c), rest)
          | c => (.part (.char c), rest)

def nextToken : RegexReading (RegexToken × List Char) := do
  let source ← get
  return readToken dialect source.isAtStart source.text

/-- Goes on with a text. -/
def goTo (rest : List Char) (isAtStart : Bool) : RegexReading Unit :=
  modify fun source => { source with text := rest, isAtStart }

/-- What ends a number in bounds. -/
inductive BoundEnd where
  | closing
  | comma
  | none
deriving DecidableEq

/-- The number at the start of bounds, where there is one, what ends it, and the rest. The number of
a text that is none is an error. -/
def readBound : Nat → Except Unit (Option Nat) → List Char →
    Except Unit (Option Nat) × BoundEnd × List Char
  | 0, number, rest => (number, .none, rest)
  | _ + 1, _, [] => (.error (), .none, [])
  | fuel + 1, number, c :: rest =>
      let closing? :=
        if dialect.isExtended then if c == '\x7d' then some rest else none
        else if c == '\\' && rest.head? == some '\x7d' then some (rest.drop 1) else none
      match closing? with
      | some rest => (number, .closing, rest)
      | none =>
          if c == ',' then (number, .comma, rest)
          else
            let number :=
              match number with
              | .error () => .error ()
              | .ok number? =>
                  if c.isDigit then
                    .ok (some (min 40000 (10 * number?.getD 0 + (c.toNat - '0'.toNat))))
                  else .error ()
            readBound fuel number rest

/-- The greatest number of rounds that may be asked for. -/
def mostRounds : Nat := 32767

/-- The bounds of a repetition, up to the sign that closes them; `none` if they are none and stand
for themselves. -/
def readBounds (text : List Char) : Except String (Option (Nat × Option Nat × List Char)) := do
  let invalid := "Invalid content of \\\x7b\\\x7d"
  let fuel := text.length + 1
  let (least, firstEnd, behind) := readBound dialect fuel (.ok none) text
  let noBounds := fun (isClosed : Bool) =>
    if dialect.isExtended && !dialect.isStrict then .ok none
    else .error (if isClosed then invalid else "Unmatched \\\x7b")
  let bounds := fun (least : Nat) (most : Option Nat) (rest : List Char) =>
    if most.any (· < least) then .error invalid
    else if mostRounds < most.getD least then .error "Regular expression too big"
    else .ok (some (least, most, rest))
  match least, firstEnd with
  | .error (), .none => noBounds false
  | .error (), _ => noBounds true
  | .ok none, .closing => throw invalid
  | .ok none, .none => throw "Unmatched \\\x7b"
  | .ok (some least), .closing => bounds least (some least) behind
  | .ok (some _), .none => noBounds false
  | .ok least?, .comma =>
      let (most, finalEnd, rest) := readBound dialect fuel (.ok none) behind
      match most, finalEnd with
      | .ok most, .closing => bounds (least?.getD 0) most rest
      | .ok _, .comma => throw invalid
      | .error (), .closing => noBounds true
      | .error (), .comma => noBounds true
      | _, .none => noBounds false

/-- Adds the repetitions that stand behind a part. -/
def readRepetitions : Nat → Regex → RegexReading Regex
  | 0, part => return part
  | fuel + 1, part => do
      let goOn := fun (rest : List Char) (part : Regex) => do
        goTo rest false
        let (next, _) ← nextToken dialect
        match next with
        | .star | .bounds =>
            if dialect.isStrict && !dialect.isExtended then
              throw "Invalid preceding regular expression"
        | _ => pure ()
        readRepetitions fuel part
      match ← nextToken dialect with
      | (.star, rest) => goOn rest (.repeated part 0 none)
      | (.plus, rest) => goOn rest (.repeated part 1 none)
      | (.question, rest) => goOn rest (.repeated part 0 (some 1))
      | (.bounds, rest) =>
          match readBounds dialect rest with
          | .error text => throw text
          | .ok (some (least, most, rest)) => goOn rest (.repeated part least most)
          | .ok none =>
              goTo rest false
              return .both part (← readRepetitions fuel (.char '\x7b'))
      | _ => return part

mutual

def readAlternatives : Nat → RegexReading Regex
  | 0 => return .nothing
  | fuel + 1 => do
      let first ← readSequence fuel
      match ← nextToken dialect with
      | (.bar, rest) =>
          goTo rest true
          return .either first (← readAlternatives fuel)
      | _ => return first

/-- Parts up to the end of an alternative. -/
def readSequence : Nat → RegexReading Regex
  | 0 => return .nothing
  | fuel + 1 => do
      match ← nextToken dialect with
      | (.ending, _) => return .nothing
      | (.bar, _) => return .nothing
      | (token, _) =>
          let isInside : Bool := 0 < (← get).depth
          let isOver : Bool :=
            match token with
            | .closing => isInside
            | _ => false
          if isOver then return .nothing
          let part ← readPart fuel
          return .both part (← readSequence fuel)

/-- One part with the repetitions behind it. -/
def readPart : Nat → RegexReading Regex
  | 0 => return .nothing
  | fuel + 1 => do
      let (token, rest) ← nextToken dialect
      let literal := do
        goTo rest false
        readRepetitions dialect (fuel + 1) (.char token.char)
      let repetition := fun (isBounds : Bool) => do
        if dialect.isStrict && (isBounds || dialect.isExtended) then
          throw "Invalid preceding regular expression"
        if dialect.isExtended then
          let areBounds :=
            match readBounds dialect rest with
            | .ok none => false
            | _ => true
          let sign := if isBounds then "\x7b...\x7d" else String.singleton token.char
          if !isBounds || areBounds then
            modify fun source =>
              { source with warnings := source.warnings ++ [sign ++ " at start of expression"] }
          goTo rest false
          readPart fuel
        else literal
      match token with
      | .part part =>
          goTo rest false
          readRepetitions dialect (fuel + 1) part
      | .anchor place =>
          goTo rest false
          return place
      | .set =>
          match readSet rest with
          | .error text => throw text
          | .ok (members, rest) =>
              goTo rest false
              readRepetitions dialect (fuel + 1) (.set members)
      | .reference number =>
          unless (← get).complete.contains number do throw "Invalid back reference"
          goTo rest false
          readRepetitions dialect (fuel + 1) (.reference number)
      | .opening =>
          let number := (← get).groups + 1
          goTo rest true
          modify fun source => { source with groups := number, depth := source.depth + 1 }
          let body ← readAlternatives fuel
          match ← nextToken dialect with
          | (.closing, rest) =>
              goTo rest false
              modify fun source =>
                { source with depth := source.depth - 1, complete := number :: source.complete }
              readRepetitions dialect (fuel + 1) (.group number body)
          | _ => throw "Unmatched ( or \\("
      | .star | .plus | .question => repetition false
      | .bounds => repetition true
      | .closing =>
          if dialect.isStrict || !dialect.isExtended then throw "Unmatched ) or \\)"
          literal
      | .boundsEnd => literal
      | .lastBackslash => throw "Trailing backslash"
      | .bar | .ending => return .nothing

end

end

/-- Reads an expression; returns also what there is to warn of. -/
def Dialect.parse (dialect : Dialect) (chars : List Char) :
    Except String (Regex × List String) := do
  let (regex, source) ← (readAlternatives dialect (4 * chars.length + 8)).run { text := chars }
  return (regex, source.warnings)

/-- Reads an expression of a text. -/
def Regex.parse (isExtended : Bool) (text : String) : Except String Regex := do
  return (← Dialect.parse { isExtended } text.toList).1

end HingeField.Shell.Utility
