import HingeField.Shell.Records.Datum
import HingeField.Shell.Records.Expression
import HingeField.Shell.Records.Tree

/-!
The tokens of a program for records. Line ends count, but not behind a token that
cannot stand at the end of a statement; in front of a closing brace a semicolon is
added where there is none.
-/

namespace HingeField.Shell.Records

inductive Token where
  | sign (text : String)
  | word (name : String) (isCalled : Bool)
  | keyword (name : String)
  | builtin (name : String) (function : Builtin)
  | number (value : Float) (text : String)
  | text (octets : String)
  | regex (source : String)
  /-- A sign that leads what is printed somewhere. -/
  | output (destination : Destination)
  | lineEnd
  /-- The end of a statement in front of a closing brace. -/
  | implied
  | ending
  /-- A closing sign without an opening one. -/
  | extra (c : Char)
  | unexpected (c : Char)
  /-- A text or expression that does not end in its line. -/
  | runaway (kind shown : String)

/-- A token and where it stands. -/
structure Lexeme where
  token : Token
  /-- The name of its file, if the program is in a file. -/
  file? : Option String := none
  line : Nat

/-- A token as messages show it. -/
def Token.shown : Token → String
  | .sign spelled => spelled
  | .word name _ => name
  | .keyword name => name
  | .builtin name _ => name
  | .number _ spelled => spelled
  | .text octets => octets
  | .regex source => "/" ++ source ++ "/"
  | .output .file => ">"
  | .output .fileEnd => ">>"
  | .output .command => "|"
  | .lineEnd => "end of line"
  | .implied => "\x7d"
  | .ending => "end of file"
  | .extra c => String.singleton c
  | .unexpected c => String.singleton c
  | .runaway _ shown => shown

def keywords : List String :=
  ["BEGIN", "END", "function", "if", "else", "while", "do", "for", "in", "break", "continue",
    "next", "nextfile", "exit", "return", "delete", "print", "printf", "getline"]

def builtins : List (String × Builtin) :=
  [("length", .length), ("index", .index), ("substr", .substring), ("split", .split),
    ("sub", .substitute false), ("gsub", .substitute true), ("match", .findMatch),
    ("sprintf", .format), ("toupper", .upper), ("tolower", .lower), ("int", .integral),
    ("sin", .sine), ("cos", .cosine), ("atan2", .arctangent), ("exp", .exponential),
    ("log", .logarithm), ("sqrt", .root), ("rand", .random), ("srand", .seed),
    ("system", .system), ("close", .close), ("fflush", .flush), ("systime", .time),
    ("strftime", .showTime), ("mktime", .makeTime)]

/-- Whether a slash behind a token divides. -/
def Token.isBeforeDivision : Token → Bool
  | .number .. | .text _ | .regex _ | .word .. => true
  | .sign spelled => spelled == ")" || spelled == "]" || spelled == "NF"
  | .keyword name => name == "getline"
  | _ => false

/-! ### Texts -/

/-- A text with its escapes carried out; a backslash in front of another sign stays. -/
def unescapedText : Nat → List Char → List Char
  | 0, _ => []
  | _ + 1, [] => []
  | fuel + 1, '\\' :: c :: rest =>
      if c == '\x22' || c == '\\' then c :: unescapedText fuel rest
      else
        match controlByte? c with
        | some control => control :: unescapedText fuel rest
        | none =>
            let isHex := c == 'x' && rest.head?.any fun c => (digitOf? 16 c).isSome
            if isHex || (digitOf? 8 c).isSome then
              let (byte, rest) := escapedByte (c :: rest)
              byte :: unescapedText fuel rest
            else '\\' :: c :: unescapedText fuel rest
  | fuel + 1, c :: rest => c :: unescapedText fuel rest

def unescape (octets : String) : String :=
  String.ofList (unescapedText (octets.length + 1) octets.toList)

/-- A text up to its closing mark, the rest, and how many lines go on in the next one; `none` for
the rest if it does not end. -/
def readText : Nat → List Char → List Char × Option (List Char) × Nat
  | 0, _ => ([], none, 0)
  | _ + 1, [] => ([], none, 0)
  | fuel + 1, c :: rest =>
      let goOn := fun (front : List Char) (rest : List Char) (more : Nat) =>
        let (text, rest?, lines) := readText fuel rest
        (front ++ text, rest?, lines + more)
      match c, rest with
      | '\x22', rest => ([], some rest, 0)
      | '\n', _ => ([], none, 0)
      | '\\', '\n' :: rest => goOn [] rest 1
      | '\\', next :: rest => goOn ['\\', next] rest 0
      | c, rest => goOn [c] rest 0

/-- An expression up to its closing slash, as `readText` reads a text. A slash in brackets does not
close it. -/
def readRegex : Nat → Bool → List Char → List Char × Option (List Char) × Nat
  | 0, _, _ => ([], none, 0)
  | _ + 1, _, [] => ([], none, 0)
  | fuel + 1, isInSet, text =>
      let goOn := fun (isInSet : Bool) (front : List Char) (rest : List Char) (more : Nat) =>
        let (text, rest?, lines) := readRegex fuel isInSet rest
        (front ++ text, rest?, lines + more)
      match text with
      | '/' :: rest => if isInSet then goOn true ['/'] rest 0 else ([], some rest, 0)
      | '\n' :: _ => ([], none, 0)
      | '\\' :: '\n' :: rest => goOn isInSet [] rest 1
      | '\\' :: '/' :: rest => goOn isInSet ['/'] rest 0
      | '\\' :: next :: rest => goOn isInSet ['\\', next] rest 0
      | '[' :: '^' :: ']' :: rest =>
          if isInSet then goOn false ['[', '^', ']'] rest 0 else goOn true ['[', '^', ']'] rest 0
      | '[' :: ']' :: rest =>
          if isInSet then goOn false ['[', ']'] rest 0 else goOn true ['[', ']'] rest 0
      | '[' :: ':' :: rest =>
          match isInSet, className? text with
          | true, some (name, behind) =>
              goOn true ("[:".toList ++ name.toList ++ ":]".toList) behind 0
          | _, _ => goOn true ['[', ':'] rest 0
      | '[' :: rest => goOn true ['['] rest 0
      | ']' :: rest => goOn false [']'] rest 0
      | c :: rest => goOn isInSet [c] rest 0
      | [] => ([], none, 0)

/-! ### Blanks -/

def isBlankSign (c : Char) : Bool :=
  c == ' ' || c == '\t' || c == '\x0b' || c == '\x0c' || c == '\r'

/-- Skips blanks, comments and line ends, and counts the lines. -/
def skipLines : Nat → Nat → List Char → List Char × Nat
  | 0, line, text => (text, line)
  | fuel + 1, line, text =>
      match text with
      | '\n' :: rest => skipLines fuel (line + 1) rest
      | '\\' :: '\n' :: rest => skipLines fuel (line + 1) rest
      | '#' :: rest => skipLines fuel line (rest.dropWhile (· != '\n'))
      | c :: rest => if isBlankSign c then skipLines fuel line rest else (text, line)
      | [] => ([], line)

/-- Skips a semicolon in the same line. -/
def skipSemicolon (text : List Char) : List Char :=
  match text.dropWhile isBlankSign with
  | ';' :: rest => rest
  | _ => text

/-! ### Signs -/

/-- Signs of two or more characters, before those of which they are the start. -/
def longSigns : List String :=
  ["++", "--", "+=", "-=", "*=", "%=", "^=", "==", "<=", ">=", "!=", "!~", "&&", "||"]

/-- The digits of a number at the start of a text. -/
def numberSpan (text : List Char) : List Char :=
  let whole := text.takeWhile Char.isDigit
  let behind := text.drop whole.length
  let fraction :=
    match behind with
    | '.' :: rest => '.' :: rest.takeWhile Char.isDigit
    | _ => []
  let exponent :=
    match behind.drop fraction.length with
    | e :: rest =>
        let sign := rest.takeWhile fun c => c == '+' || c == '-'
        let digits := (rest.drop sign.length).takeWhile Char.isDigit
        if (e == 'e' || e == 'E') && sign.length ≤ 1 && !digits.isEmpty then e :: sign ++ digits
        else []
    | [] => []
  whole ++ fraction ++ exponent

/-- What the reading of tokens keeps in mind. -/
structure Lexing where
  line : Nat := 1
  last : Token := .lineEnd
  parentheses : Nat := 0
  braces : Nat := 0
  /-- Whether what is printed may still be led somewhere. -/
  isPrinting : Bool := false

/-- Whether a token ends a statement. -/
def Token.endsStatement : Token → Bool
  | .lineEnd | .implied => true
  | .sign spelled => spelled == ";" || spelled == "\x7d"
  | _ => false

/-- The word at the start of a text. -/
def wordToken (name : String) (rest : List Char) : Token :=
  if keywords.contains name then .keyword name
  else if name == "NF" then .sign "NF"
  else
    match builtins.lookup name with
    | some function => .builtin name function
    | none => .word name (rest.head? == some '(')

/-- The next token, what is in mind behind it, and the rest of the text. -/
def nextToken (lexing : Lexing) (text : List Char) : Token × Lexing × List Char :=
  let fuel := text.length + 1
  let found := fun (token : Token) (rest : List Char) => (token, lexing, rest)
  /- A sign behind which line ends do not count. -/
  let foundOpen := fun (sign : String) (lexing : Lexing) (rest : List Char) =>
    let (rest, line) := skipLines fuel lexing.line rest
    (Token.sign sign, { lexing with line }, rest)
  let mayLead := lexing.isPrinting && lexing.parentheses = 0
  match text with
  | [] => found .ending []
  | '\n' :: rest =>
      let (rest, line) := skipLines fuel (lexing.line + 1) rest
      (.lineEnd, { lexing with line, isPrinting := lexing.isPrinting && !mayLead }, rest)
  | ';' :: rest => foundOpen ";" { lexing with isPrinting := lexing.isPrinting && !mayLead } rest
  | ',' :: rest => foundOpen "," lexing rest
  | '\x7b' :: rest => foundOpen "\x7b" { lexing with braces := lexing.braces + 1 } rest
  | '\x7d' :: rest =>
      if lexing.braces = 0 then found (.extra '\x7d') (skipSemicolon rest)
      else if lexing.last.endsStatement then
        let braces := lexing.braces - 1
        foundOpen "\x7d" { lexing with braces, isPrinting := false }
          (if braces = 0 then skipSemicolon rest else rest)
      else found .implied text
  | '(' :: rest =>
      (.sign "(", { lexing with parentheses := lexing.parentheses + 1 }, rest)
  | ')' :: rest =>
      if lexing.parentheses = 0 then found (.extra ')') rest
      else (.sign ")", { lexing with parentheses := lexing.parentheses - 1 }, rest)
  | '\x22' :: rest =>
      match readText fuel rest with
      | (inside, some rest, lines) =>
          (.text (unescape (String.ofList inside)), { lexing with line := lexing.line + lines },
            rest)
      | (inside, none, _) =>
          found (.runaway "string constant" ("\x22" ++ String.ofList inside)) []
  | '/' :: rest =>
      if lexing.last.isBeforeDivision then
        match rest with
        | '=' :: rest => found (.sign "/=") rest
        | rest => found (.sign "/") rest
      else
        match readRegex fuel false rest with
        | (inside, some rest, lines) =>
            (.regex (String.ofList inside), { lexing with line := lexing.line + lines }, rest)
        | (inside, none, _) =>
            found (.runaway "regular expression" ("/" ++ String.ofList inside)) []
  | '>' :: rest =>
      if mayLead then
        let lexing := { lexing with isPrinting := false }
        match rest with
        | '>' :: rest => (.output .fileEnd, lexing, rest)
        | rest => (.output .file, lexing, rest)
      else
        match rest with
        | '=' :: rest => found (.sign ">=") rest
        | rest => found (.sign ">") rest
  | c :: rest =>
      let two := String.ofList (text.take 2)
      if two == "&&" || two == "||" then foundOpen two lexing (text.drop 2)
      else if longSigns.contains two then found (.sign two) (text.drop 2)
      else if c == '|' && mayLead then
        (.output .command, { lexing with isPrinting := false }, rest)
      else if "+-*%^=<!~?:[]|$".toList.contains c then found (.sign (String.singleton c)) rest
      else if c.isDigit || (c == '.' && rest.head?.any Char.isDigit) then
        let span := numberSpan text
        let spelled := String.ofList span
        found (.number (leadingNumber spelled) spelled) (text.drop span.length)
      else if c.isAlpha || c == '_' then
        let name := String.ofList (text.takeWhile fun c => c.isAlphanum || c == '_')
        let rest := text.drop name.length
        let isPrint := name == "print" || name == "printf"
        (wordToken name rest, { lexing with isPrinting := lexing.isPrinting || isPrint }, rest)
      else found (.unexpected c) rest

/-- The tokens of a text. -/
def lexemes (file? : Option String) : Nat → Lexing → List Char → List Lexeme × Lexing
  | 0, lexing, _ => ([], lexing)
  | fuel + 1, lexing, text =>
      match text with
      | '#' :: rest => lexemes file? fuel lexing (rest.dropWhile (· != '\n'))
      | '\\' :: rest =>
          match rest.dropWhile isBlankSign with
          | '\n' :: rest => lexemes file? fuel { lexing with line := lexing.line + 1 } rest
          | _ => ([{ token := .unexpected '\\', file?, line := lexing.line }], lexing)
      | [] => ([], lexing)
      | c :: rest =>
          if isBlankSign c then lexemes file? fuel lexing rest
          else
            let line := lexing.line
            let (token, lexing, rest) := nextToken lexing text
            let (others, lexing) := lexemes file? fuel { lexing with last := token } rest
            ({ token, file?, line } :: others, lexing)

/-- The tokens of all parts of a program, each with the name of its file if it has one. -/
def programLexemes : Lexing → List (Option String × String) → List Lexeme
  | lexing, [] => [{ token := .ending, line := lexing.line }]
  | lexing, (file?, octets) :: rest =>
      let text := octets.toList ++ ['\n']
      let (start, line) := skipLines (text.length + 1) 1 text
      let (own, lexing) := lexemes file? (2 * text.length + 2) { lexing with line } start
      match rest with
      | [] => own ++ [{ token := .ending, file?, line := lexing.line }]
      | rest => own ++ programLexemes lexing rest

end HingeField.Shell.Records
