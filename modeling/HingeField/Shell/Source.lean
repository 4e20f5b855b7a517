import HingeField.Shell.Tree

/-!
The text of a script while it is read: what is left of it, the line reached,
a token that has been put back, and the documents that follow in later lines.
A backslash at the end of a line joins it with the next one.
-/

namespace HingeField.Shell

inductive Token where
  | endOfInput
  | newline
  | sign (text : String)
  | keyword (text : String)
  | word (word : Word)
  | redirection (descriptor : Option Nat) (sign : String)

/-- A document that starts at the next line. -/
structure AwaitedDocument where
  number : Nat
  delimiter : List Char
  isExpanded : Bool
  dropsTabs : Bool

structure Source where
  text : List Char
  line : Nat := 1
  pushed : Option Token := none
  awaited : List AwaitedDocument := []
  documents : List (Nat × Word) := []
  nextDocument : Nat := 0
  aliases : List (String × String) := []
  /-- The aliases put in, each with the length of the text behind it. -/
  placed : List (String × Nat) := []

/-- Why a script cannot be read on, and the line where this is found. -/
structure ReadingFault where
  line : Nat
  text : String

abbrev Reading := StateT Source (Except ReadingFault)

def failReading {α : Type} (text : String) : Reading α := do
  throw { line := (← get).line, text }

/-! ### Characters -/

/-- Takes the next character off. -/
def advance : Reading Unit :=
  modify fun source =>
    match source.text with
    | [] => source
    | '\n' :: rest => { source with text := rest, line := source.line + 1 }
    | _ :: rest => { source with text := rest }

/-- Takes the next character off without counting it as the end of a line. -/
def advanceWithin : Reading Unit :=
  modify fun source => { source with text := source.text.drop 1 }

def dropJoins : List Char → Nat → List Char × Nat
  | '\\' :: '\n' :: rest, joins => dropJoins rest (joins + 1)
  | text, joins => (text, joins)

/-- The next character, as it stands. -/
def peekRaw : Reading (Option Char) := do
  return (← get).text.head?

/-- The next character of joined lines. -/
def peek : Reading (Option Char) := do
  let source ← get
  let (text, joins) := dropJoins source.text 0
  set { source with text, line := source.line + joins }
  return text.head?

/-- Takes characters off, from joined lines, as long as they fit. -/
def takeChars (fits : Char → Bool) : Nat → Reading (List Char)
  | 0 => return []
  | fuel + 1 => do
      match ← peek with
      | some c =>
          if fits c then
            advance
            return c :: (← takeChars fits fuel)
          else return []
      | none => return []

def takeWhileFits (fits : Char → Bool) : Reading String := do
  return String.ofList (← takeChars fits (← get).text.length)

/-- The text up to a quotation mark, which must come and is taken off too. -/
def takeUpTo (mark : Char) : Reading (List Char) := do
  let source ← get
  let inside := source.text.takeWhile (· != mark)
  match source.text.drop inside.length with
  | _ :: rest =>
      set { source with text := rest, line := source.line + inside.count '\n' }
      return inside
  | [] =>
      set { source with text := [], line := source.line + inside.count '\n' }
      failReading "Syntax error: Unterminated quoted string"

def skipBlanks : Nat → Reading Unit
  | 0 => return
  | fuel + 1 => do
      match ← peek with
      | some ' ' => advance; skipBlanks fuel
      | some '\t' => advance; skipBlanks fuel
      | _ => return

/-! ### Tokens -/

def pushBack (token : Token) : Reading Unit :=
  modify fun source => { source with pushed := some token }

def keywords : List String :=
  ["!", "\x7b", "\x7d", "case", "do", "done", "elif", "else", "esac", "fi", "for", "if", "in",
    "then", "until", "while"]

/-- What a message calls a token. -/
def Token.title : Token → String
  | .endOfInput => "end of file"
  | .newline => "newline"
  | .sign text => "\"" ++ text ++ "\""
  | .keyword text => "\"" ++ text ++ "\""
  | .word _ => "word"
  | .redirection _ _ => "redirection"

/-- Whether a token ends a list of commands inside another command. -/
def Token.endsList : Token → Bool
  | .endOfInput => true
  | .sign text => text == ")" || text == ";;"
  | .keyword text =>
      ["do", "done", "elif", "else", "esac", "fi", "then", "\x7d"].contains text
  | _ => false

/-- A word that reads as a keyword is one, where keywords may stand. -/
def Token.asKeyword : Token → Token
  | .word parts =>
      match plainText? parts with
      | some text => if keywords.contains text then .keyword text else .word parts
      | none => .word parts
  | token => token

/-- Puts the text of an alias in the place of a word that names one, unless the word stands in the
text of that alias; tells whether it did. -/
def placeAlias : Token → Reading Bool
  | .word parts => do
      let source ← get
      let entry? := (plainText? parts).bind fun name =>
        source.aliases.find? fun entry => entry.1 == name
      match entry? with
      | none => return false
      | some (name, text) =>
          let size := source.text.length
          let placed := source.placed.filter fun entry => entry.2 ≤ size
          if placed.any fun entry => entry.1 == name then return false
          set { source with text := text.toList ++ source.text, placed := (name, size) :: placed }
          return true
  | _ => return false

def unexpected {α : Type} (token : Token) (expected : Option Token) : Reading α :=
  failReading <|
    "Syntax error: " ++ token.title ++ " unexpected" ++
      (match expected with
      | some token => " (expecting " ++ token.title ++ ")"
      | none => "")

/-- The characters that end a word. -/
def endsWord (c : Char) : Bool :=
  " \t\n;&|<>()".toList.contains c

/-! ### Documents -/

/-- The lines of a document up to its delimiter, and what is behind it. A joined line is no
delimiter. -/
def documentLines (document : AwaitedDocument) : Nat → Bool → List Char → List Char × List Char
  | 0, _, text => ([], text)
  | _ + 1, _, [] => ([], [])
  | fuel + 1, isJoined, text =>
      let trimmed :=
        if document.dropsTabs && !isJoined then text.dropWhile (· == '\t') else text
      let line := trimmed.takeWhile (· != '\n')
      let rest := trimmed.drop line.length
      if !isJoined && line == document.delimiter then ([], rest.drop 1)
      else
        let joins :=
          document.isExpanded && (line.reverse.takeWhile (· == '\\')).length % 2 == 1
        let (later, behind) := documentLines document fuel joins (rest.drop 1)
        (line ++ rest.take 1 ++ later, behind)

/-- The delimiter of a document, and whether a part of it is quoted. -/
def readDelimiter : Nat → Reading (List Char × Bool)
  | 0 => return ([], false)
  | fuel + 1 => do
      match ← peek with
      | none => return ([], false)
      | some c =>
          if endsWord c then return ([], false)
          advance
          if c == '\x27' || c == '\x22' then
            let inside ← takeUpTo c
            let (rest, _) ← readDelimiter fuel
            return (inside ++ rest, true)
          else if c == '\\' then
            match ← peekRaw with
            | some next =>
                advance
                let (rest, _) ← readDelimiter fuel
                return (next :: rest, true)
            | none => return (['\\'], true)
          else
            let (rest, isQuoted) ← readDelimiter fuel
            return (c :: rest, isQuoted)

end HingeField.Shell
