import HingeField.Shell.Source

/-!
Reading a script, command line by command line. A script is read only as far as
it is carried out, so that a fault of its text shows when its line is reached.

Reading descends by fuel; every step takes one, and none is taken without a
character being taken off or a token put back, so that a small multiple of the
length of the text is enough.
-/

namespace HingeField.Shell

/-- What ends a quoted text. -/
inductive Quotation where
  | marks
  | braces
  | document
deriving DecidableEq

/-- Which list of commands is read: a line of the script, the inside of a command, or an inside that
may be empty. -/
inductive ListKind where
  | line
  | inner
  | optional
deriving DecidableEq

/-- A quoted text. One that is all arguments at once, and nothing else, may vanish. -/
def quotedWord (inside : Word) : Word :=
  match inside with
  | [.parameter "@" .value [] true] => inside
  | _ => .mark :: inside

/-- What a backslash keeps from its meaning between quotation marks. -/
def isEscapable (quotation : Quotation) (c : Char) : Bool :=
  c == '\\' || c == '\x60' || c == '$' || (c == '\x22' && quotation != .document) ||
    (c == '\x7d' && quotation == .braces)

/-- The operation that a sign stands for. -/
def operationOf? (emptyIsMissing : Bool) (c : Char) : Option Operation :=
  match c with
  | '\x7d' => some .value
  | '-' => some (.otherwise emptyIsMissing)
  | '+' => some (.instead emptyIsMissing)
  | '?' => some (.demand emptyIsMissing)
  | '=' => some (.assign emptyIsMissing)
  | _ => none

/-- The operation behind the name of a parameter in braces. The sign that closes the braces is taken
off only if nothing else is done with the value, and a sign without a meaning is taken off too. -/
def readOperation : Reading Operation := do
  match ← peek with
  | some ':' =>
      advance
      match (← peek).bind (operationOf? true) with
      | some operation => advance; return operation
      | none => advanceWithin; return .invalid
  | some '%' => advance; readTrim '%' true
  | some '#' => advance; readTrim '#' false
  | some c =>
      match operationOf? false c with
      | some operation => advance; return operation
      | none => advanceWithin; return .invalid
  | none => return .invalid
where
  readTrim (sign : Char) (fromEnd : Bool) : Reading Operation := do
    if (← peek) == some sign then
      advance
      return .trim fromEnd true
    else return .trim fromEnd false

/-- The name and operation of a parameter in braces. -/
def readBracedName : Reading (String × Operation) := do
  match ← peek with
  | none => return ("", .invalid)
  | some '#' =>
      advance
      match ← peek with
      | some c =>
          if isNameChar c then
            let name ← takeWhileFits (if c.isDigit then Char.isDigit else isNameChar)
            return (name, if (← peek) == some '\x7d' then .length else .invalid)
          else
            let source ← get
            advance
            if c != '\x7d' && isSpecialParameter c && (← peek) == some '\x7d' then
              return (String.singleton c, .length)
            else
              set source
              return ("#", ← readOperation)
      | none => return ("#", .invalid)
  | some c =>
      if isNameStart c then
        let name ← takeWhileFits isNameChar
        return (name, ← readOperation)
      else if c.isDigit then
        let name ← takeWhileFits Char.isDigit
        return (name, ← readOperation)
      else if isSpecialParameter c then
        advance
        return (String.singleton c, ← readOperation)
      else
        if c != '\x7d' then advanceWithin
        return ("", .invalid)

/-- The script between backquotes, of which the first has been taken off. -/
def takeBackquoted (isQuoted : Bool) : Nat → Reading (List Char)
  | 0 => return []
  | fuel + 1 => do
      match ← peek with
      | none => failReading "Syntax error: EOF in backquote substitution"
      | some '\x60' => advance; return []
      | some '\\' =>
          advance
          match ← peekRaw with
          | some c =>
              advance
              let isEscape := c == '\\' || c == '\x60' || c == '$' || (isQuoted && c == '\x22')
              let rest ← takeBackquoted isQuoted fuel
              return if isEscape then c :: rest else '\\' :: c :: rest
          | none => failReading "Syntax error: EOF in backquote substitution"
      | some c =>
          advance
          return c :: (← takeBackquoted isQuoted fuel)

/-- Commands whose failures end the script, and in front of which variables are set for good. -/
def specialNames : List String :=
  [".", ":", "break", "continue", "eval", "exec", "exit", "export", "local", "readonly", "return",
    "set", "shift", "times", "trap", "unset"]

/-- The commands of the script's language that functions may stand in for. -/
def regularNames : List String :=
  ["[", "alias", "bg", "cd", "chdir", "command", "echo", "false", "fc", "fg", "getopts", "hash",
    "jobs", "kill", "printf", "pwd", "read", "test", "true", "type", "ulimit", "umask", "unalias",
    "wait"]

/-- The name of a function that may be defined. -/
def isFunctionName (name : String) : Bool :=
  isName name &&
    !specialNames.contains name

/-- One command after another. -/
def Command.followedBy : Command → Command → Command
  | .nothing, second => second
  | first, second => .sequence first second

/-- A command that is not waited for. -/
def Command.inBackground (line : Nat) : Command → Command
  | .pipeline parts _ => .pipeline parts true
  | body => .background line body

/-- The first sign of a text that is one between commands, longer ones before shorter ones. -/
def signs : List String :=
  ["&&", "||", ";;", ";", "&", "|", "(", ")"]

/-- The sign of a redirection, of which the first character has not been taken off yet. -/
def readRedirectionSign : Reading String := do
  let first ← peek
  advance
  let second ← peek
  let sign := fun c : Char => String.ofList (first.toList ++ [c])
  match first, second with
  | some '>', some '>' => advance; return sign '>'
  | some '>', some '|' => advance; return sign '|'
  | some '>', some '&' => advance; return sign '&'
  | some '<', some '&' => advance; return sign '&'
  | some '<', some '>' => advance; return sign '>'
  | some '<', some '<' =>
      advance
      if (← peek) == some '-' then
        advance
        return "<<-"
      else return "<<"
  | _, _ => return String.ofList first.toList

/-- How a redirection with a sign leads its descriptor, and which descriptor that is by default. -/
def redirectionOf : String → Nat × RedirectionKind
  | ">" => (1, .write)
  | ">>" => (1, .append)
  | ">|" => (1, .clobber)
  | ">&" => (1, .copy)
  | "<&" => (0, .copy)
  | "<>" => (0, .readWrite)
  | _ => (0, .read)

mutual

/-- A word up to its end, or an operand up to the brace that closes it. -/
def readBare : Nat → Bool → Reading Word
  | 0, _ => return []
  | fuel + 1, inBraces => do
      match ← peek with
      | none => if inBraces then failReading "Syntax error: Missing '\x7d'" else return []
      | some c =>
          if inBraces && c == '\x7d' then
            advance
            return []
          if !inBraces && endsWord c then return []
          advance
          if c == '\x27' then
            let inside ← takeUpTo '\x27'
            return .mark :: (inside.map Part.escaped ++ (← readBare fuel inBraces))
          else if c == '\x22' then
            let inside ← readQuoted fuel .marks
            return quotedWord inside ++ (← readBare fuel inBraces)
          else if c == '$' then
            let parts ← readDollar fuel false
            return parts ++ (← readBare fuel inBraces)
          else if c == '\x60' then
            let part ← readBackquotes fuel false
            return part :: (← readBare fuel inBraces)
          else if c == '\\' then
            match ← peekRaw with
            | none => return [.escaped '\\']
            | some next =>
                advance
                return .escaped next :: (← readBare fuel inBraces)
          else return .plain c :: (← readBare fuel inBraces)

/-- A text all of which is quoted, but for what is put in, up to its end. -/
def readQuoted : Nat → Quotation → Reading Word
  | 0, _ => return []
  | fuel + 1, quotation => do
      match ← peek with
      | none =>
          if quotation == .document then return []
          else failReading "Syntax error: Unterminated quoted string"
      | some c =>
          advance
          if c == '\x22' && quotation == .marks then return []
          else if c == '\x7d' && quotation == .braces then return []
          else if c == '\x22' && quotation == .braces then
            let inside ← readQuoted fuel .marks
            return .mark :: (inside ++ (← readQuoted fuel quotation))
          else if c == '$' then
            let parts ← readDollar fuel true
            return parts ++ (← readQuoted fuel quotation)
          else if c == '\x60' then
            let part ← readBackquotes fuel true
            return part :: (← readQuoted fuel quotation)
          else if c == '\\' then
            match ← peekRaw with
            | none => return .escaped '\\' :: (← readQuoted fuel quotation)
            | some next =>
                advance
                let rest ← readQuoted fuel quotation
                if isEscapable quotation next then return .escaped next :: rest
                else return .escaped '\\' :: .escaped next :: rest
          else return .escaped c :: (← readQuoted fuel quotation)

/-- An expression up to the two parentheses that close it, inside so many open ones. -/
def readExpression : Nat → Nat → Reading Word
  | 0, _ => return []
  | fuel + 1, depth => do
      match ← peek with
      | none => failReading "Syntax error: Missing '))'"
      | some c =>
          advance
          if c == '(' then return .plain c :: (← readExpression fuel (depth + 1))
          else if c == ')' then
            if 0 < depth then return .plain c :: (← readExpression fuel (depth - 1))
            else if (← peek) == some ')' then
              advance
              return []
            else return .plain c :: (← readExpression fuel 0)
          else if c == '$' then
            let parts ← readDollar fuel true
            return parts ++ (← readExpression fuel depth)
          else if c == '\x60' then
            let part ← readBackquotes fuel true
            return part :: (← readExpression fuel depth)
          else if c == '\\' then
            match ← peekRaw with
            | none => return [.plain '\\']
            | some next =>
                advance
                let rest ← readExpression fuel depth
                if isEscapable .marks next then return .plain next :: rest
                else return .plain '\\' :: .plain next :: rest
          else return .plain c :: (← readExpression fuel depth)

/-- What a dollar sign puts in; where it puts in nothing, it stands for itself. -/
def readDollar : Nat → Bool → Reading Word
  | 0, _ => return []
  | fuel + 1, isQuoted => do
      match ← peek with
      | some '(' =>
          advance
          if (← peek) == some '(' then
            advance
            return [.expression (← readExpression fuel 0) isQuoted]
          else return [.output (← readSubstitution fuel) isQuoted]
      | some '\x7b' =>
          advance
          let (name, operation) ← readBracedName
          let operand ←
            match operation with
            | .value => pure []
            | .trim _ _ => readBare fuel true
            | _ => if isQuoted then readQuoted fuel .braces else readBare fuel true
          return [.parameter name operation operand isQuoted]
      | some c =>
          if isNameStart c then
            return [.parameter (← takeWhileFits isNameChar) .value [] isQuoted]
          else if isSpecialParameter c then
            advance
            return [.parameter (String.singleton c) .value [] isQuoted]
          else return [if isQuoted then .escaped '$' else .plain '$']
      | none => return [if isQuoted then .escaped '$' else .plain '$']

/-- The commands in parentheses whose output is put in. -/
def readSubstitution : Nat → Reading Command
  | 0 => return .nothing
  | fuel + 1 => do
      let outer ← get
      set { outer with awaited := [], pushed := none }
      let body ← readList fuel .optional .nothing
      match ← readToken fuel false false with
      | .sign ")" => pure ()
      | token => unexpected token (some (.sign ")"))
      readDocuments fuel
      modify fun inner => { inner with awaited := outer.awaited, pushed := none }
      return body

/-- The commands between backquotes whose output is put in. -/
def readBackquotes : Nat → Bool → Reading Part
  | 0, _ => return .mark
  | fuel + 1, isQuoted => do
      let inside ← takeBackquoted isQuoted ((← get).text.length + 1)
      let outer ← get
      set { outer with text := inside, line := 1, awaited := [], pushed := none }
      let body ← readList fuel .optional .nothing
      readDocuments fuel
      modify fun inner =>
        { outer with documents := inner.documents, nextDocument := inner.nextDocument }
      return .output body isQuoted

/-- Reads the documents that start at this line. -/
def readDocuments : Nat → Reading Unit
  | 0 => return
  | fuel + 1 => do
      match (← get).awaited with
      | [] => return
      | document :: later =>
          let source ← get
          let (body, rest) := documentLines document (source.text.length + 1) false source.text
          let behind := source.line + source.text.count '\n' - rest.count '\n'
          let word ←
            if document.isExpanded then do
              set { source with text := body, awaited := [], pushed := none }
              readQuoted fuel .document
            else pure (body.map Part.escaped)
          modify fun inner =>
            { inner with
              text := rest
              line := behind
              awaited := later
              pushed := source.pushed
              documents := (document.number, word) :: inner.documents }
          readDocuments fuel

/-- The next token. Where keywords may stand, aliases may too. -/
def readToken : Nat → Bool → Bool → Reading Token
  | 0, _, _ => return .endOfInput
  | fuel + 1, skipsNewlines, findsKeywords => do
      let token ← readFreshToken fuel
      match token with
      | .newline =>
          if skipsNewlines then
            readDocuments fuel
            readToken fuel skipsNewlines findsKeywords
          else return .newline
      | token =>
          if !findsKeywords then return token
          else if ← placeAlias token.asKeyword then readToken fuel skipsNewlines findsKeywords
          else return token.asKeyword

/-- The token that was put back, or the next one of the text. -/
def readFreshToken : Nat → Reading Token
  | 0 => return .endOfInput
  | fuel + 1 => do
      if let some token := (← get).pushed then
        modify fun source => { source with pushed := none }
        return token
      skipBlanks (← get).text.length
      match ← peek with
      | none => return .endOfInput
      | some '\n' => advance; return .newline
      | some '#' =>
          modify fun source => { source with text := source.text.dropWhile (· != '\n') }
          readFreshToken fuel
      | some c =>
          if c == '<' || c == '>' then return .redirection none (← readRedirectionSign)
          let source ← get
          match signs.find? fun sign => sign.toList.isPrefixOf source.text with
          | some sign =>
              set { source with text := source.text.drop sign.length }
              return .sign sign
          | none =>
              let word ← readBare fuel false
              match word, ← peek with
              | [.plain digit], some next =>
                  if digit.isDigit && (next == '<' || next == '>') then
                    return .redirection (some (digit.toNat - 48)) (← readRedirectionSign)
                  else return .word word
              | _, _ => return .word word

/-- What a redirection leads to. -/
def readTarget : Nat → Option Nat → String → Reading Redirection
  | 0, _, _ => return .mk 0 .read []
  | fuel + 1, descriptor, sign => do
      if sign == "<<" || sign == "<<-" then
        skipBlanks (← get).text.length
        match ← peek with
        | none => unexpected .endOfInput none
        | some c =>
            if endsWord c then unexpected (← readToken fuel false false) none
            let (delimiter, isQuoted) ← readDelimiter (← get).text.length
            let source ← get
            let document :=
              { number := source.nextDocument
                delimiter, isExpanded := !isQuoted, dropsTabs := sign == "<<-" }
            set { source with
              awaited := source.awaited ++ [document]
              nextDocument := source.nextDocument + 1 }
            return .mk (descriptor.getD 0) (.document source.nextDocument) []
      else
        match ← readToken fuel false false with
        | .word word =>
            let (own, kind) := redirectionOf sign
            return .mk (descriptor.getD own) kind word
        | token => unexpected token none

/-- The redirections behind a command. -/
def readRedirections : Nat → Reading (List Redirection)
  | 0 => return []
  | fuel + 1 => do
      match ← readToken fuel false true with
      | .redirection descriptor sign =>
          let redirection ← readTarget fuel descriptor sign
          return redirection :: (← readRedirections fuel)
      | token =>
          pushBack token
          return []

/-- A list of commands behind those already read. -/
def readList : Nat → ListKind → Command → Reading Command
  | 0, _, done => return done
  | fuel + 1, kind, done => do
      match ← readToken fuel (kind != .line) true with
      | .newline =>
          readDocuments fuel
          return done
      | .endOfInput =>
          readDocuments fuel
          pushBack .endOfInput
          return done
      | token =>
          pushBack token
          let mayEnd := kind == .optional || (kind == .inner && !done.isNothing)
          if mayEnd && token.endsList then return done
          let command ← readChain fuel (← readPipeline fuel)
          let line := (← get).line
          match ← readToken fuel false false with
          | .sign "&" => readList fuel kind (done.followedBy (command.inBackground line))
          | .sign ";" => readList fuel kind (done.followedBy command)
          | .newline =>
              pushBack .newline
              readList fuel kind (done.followedBy command)
          | .endOfInput =>
              readDocuments fuel
              pushBack .endOfInput
              return done.followedBy command
          | token =>
              if kind == .line then unexpected token none
              pushBack token
              return done.followedBy command

/-- What depends on the status of a command. -/
def readChain : Nat → Command → Reading Command
  | 0, first => return first
  | fuel + 1, first => do
      match ← readToken fuel false false with
      | .sign "&&" =>
          pushBack (← readToken fuel true true)
          readChain fuel (.onSuccess first (← readPipeline fuel))
      | .sign "||" =>
          pushBack (← readToken fuel true true)
          readChain fuel (.onFailure first (← readPipeline fuel))
      | token =>
          pushBack token
          return first

/-- Commands of which each reads what the one before it writes. -/
def readPipeline : Nat → Reading Command
  | 0 => return .nothing
  | fuel + 1 => do
      match ← readToken fuel false true with
      | .keyword "!" =>
          pushBack (← readToken fuel false true)
          return .negated (← readStages fuel)
      | token =>
          pushBack token
          readStages fuel

def readStages : Nat → Reading Command
  | 0 => return .nothing
  | fuel + 1 => do
      let first ← readCommand fuel
      match ← readLaterStages fuel with
      | [] => return first
      | later => return .pipeline (first :: later) false

def readLaterStages : Nat → Reading (List Command)
  | 0 => return []
  | fuel + 1 => do
      match ← readToken fuel false false with
      | .sign "|" =>
          pushBack (← readToken fuel true true)
          let next ← readCommand fuel
          return next :: (← readLaterStages fuel)
      | token =>
          pushBack token
          return []

/-- One command, with the redirections behind it. -/
def readCommand : Nat → Reading Command
  | 0 => return .nothing
  | fuel + 1 => do
      let line := (← get).line
      let finish := fun (closing : Option Token) (body : Command) => do
        if let some closing := closing then
          let token ← readToken fuel false true
          unless token.title == closing.title do unexpected token (some closing)
        match body, ← readRedirections fuel with
        | body, [] => return body
        | .apart line inner [], redirections => return .apart line inner redirections
        | body, redirections => return .redirected line body redirections
      match ← readToken fuel false false with
      | .keyword "if" => finish (some (.keyword "fi")) (← readConditional fuel)
      | .keyword "while" => finish (some (.keyword "done")) (← readLoop fuel false)
      | .keyword "until" => finish (some (.keyword "done")) (← readLoop fuel true)
      | .keyword "for" => finish (some (.keyword "done")) (← readForEach fuel line)
      | .keyword "case" => finish none (← readChoice fuel line)
      | .keyword "\x7b" =>
          finish (some (.keyword "\x7d")) (← readList fuel .inner .nothing)
      | .sign "(" =>
          finish (some (.sign ")")) (.apart line (← readList fuel .inner .nothing) [])
      | .word word =>
          pushBack (.word word)
          readSimple fuel (← get).line true [] [] []
      | .redirection descriptor sign =>
          pushBack (.redirection descriptor sign)
          readSimple fuel (← get).line true [] [] []
      | token => unexpected token none

/-- A command of settings, words and redirections behind those already read, or the definition of a
function. -/
def readSimple : Nat → Nat → Bool → List Word → List Word → List Redirection → Reading Command
  | 0, line, _, settings, words, redirections =>
      return .simple line settings words redirections
  | fuel + 1, line, maySet, settings, words, redirections => do
      match ← readToken fuel false false with
      | .word word =>
          if maySet && isSetting word then
            readSimple fuel line true (settings ++ [word]) words redirections
          else readSimple fuel line false settings (words ++ [word]) redirections
      | .redirection descriptor sign =>
          let redirection ← readTarget fuel descriptor sign
          readSimple fuel line maySet settings words (redirections ++ [redirection])
      | .sign "(" =>
          match settings, words, redirections with
          | [], [word], [] =>
              match ← readToken fuel false false with
              | .sign ")" => pure ()
              | token => unexpected token (some (.sign ")"))
              let name := (plainText? word).getD ""
              unless isFunctionName name do failReading "Syntax error: Bad function name"
              pushBack (← readToken fuel true true)
              let line := (← get).line
              return .define line name (← readCommand fuel)
          | _, _, _ =>
              pushBack (.sign "(")
              return .simple line settings words redirections
      | token =>
          pushBack token
          return .simple line settings words redirections

/-- A conditional behind the keyword that starts or continues it, up to the one that ends it. -/
def readConditional : Nat → Reading Command
  | 0 => return .nothing
  | fuel + 1 => do
      let condition ← readList fuel .inner .nothing
      match ← readToken fuel false true with
      | .keyword "then" => pure ()
      | token => unexpected token (some (.keyword "then"))
      let body ← readList fuel .inner .nothing
      match ← readToken fuel false true with
      | .keyword "elif" => return .conditional condition body (← readConditional fuel)
      | .keyword "else" =>
          return .conditional condition body (← readList fuel .inner .nothing)
      | token =>
          pushBack token
          return .conditional condition body .nothing

/-- A loop behind the keyword that starts it, up to the one that ends it. -/
def readLoop : Nat → Bool → Reading Command
  | 0, _ => return .nothing
  | fuel + 1, untilSuccess => do
      let condition ← readList fuel .inner .nothing
      match ← readToken fuel false true with
      | .keyword "do" => pure ()
      | token => unexpected token (some (.keyword "do"))
      return .repeated untilSuccess condition (← readList fuel .inner .nothing)

/-- A loop over words; without words it goes over the arguments. -/
def readForEach : Nat → Nat → Reading Command
  | 0, _ => return .nothing
  | fuel + 1, line => do
      let name ←
        match ← readToken fuel false false with
        | .word word => pure ((plainText? word).getD "")
        | _ => pure ""
      unless isName name do failReading "Syntax error: Bad for loop variable"
      let words ←
        match ← readToken fuel true true with
        | .keyword "in" => do
            let words ← readWords fuel
            match ← readToken fuel false false with
            | .newline => pure ()
            | .sign ";" => pure ()
            | token => unexpected token none
            pure words
        | .sign ";" => pure [[.parameter "@" .value [] true]]
        | token => do
            pushBack token
            pure [[.parameter "@" .value [] true]]
      match ← readToken fuel true true with
      | .keyword "do" => pure ()
      | token => unexpected token (some (.keyword "do"))
      return .forEach line name words (← readList fuel .inner .nothing)

def readWords : Nat → Reading (List Word)
  | 0 => return []
  | fuel + 1 => do
      match ← readToken fuel false false with
      | .word word => return word :: (← readWords fuel)
      | token =>
          pushBack token
          return []

def readChoice : Nat → Nat → Reading Command
  | 0, _ => return .nothing
  | fuel + 1, line => do
      match ← readToken fuel false false with
      | .word subject =>
          match ← readToken fuel true true with
          | .keyword "in" => return .choice line subject (← readArms fuel)
          | token => unexpected token (some (.keyword "in"))
      | token => unexpected token (some (.word []))

/-- The arms of a choice, up to the keyword that ends it. -/
def readArms : Nat → Reading (List (List Word × Command))
  | 0 => return []
  | fuel + 1 => do
      match ← readToken fuel true true with
      | .keyword "esac" => return []
      | token =>
          let first ←
            match token with
            | .sign "(" => readToken fuel false false
            | token => pure token
          let patterns ← readPatterns fuel first
          let body ← readList fuel .optional .nothing
          match ← readToken fuel true true with
          | .keyword "esac" => return [(patterns, body)]
          | .sign ";;" => return (patterns, body) :: (← readArms fuel)
          | token => unexpected token (some (.sign ";;"))

/-- The patterns of an arm from a first token on, up to the parenthesis behind them. -/
def readPatterns : Nat → Token → Reading (List Word)
  | 0, _ => return []
  | fuel + 1, first => do
      let pattern ←
        match first with
        | .word word => pure word
        | .keyword text => pure (text.toList.map Part.plain)
        | token => unexpected token none
      match ← readToken fuel false false with
      | .sign ")" => return [pattern]
      | .sign "|" => return pattern :: (← readPatterns fuel (← readToken fuel false false))
      | token => unexpected token (some (.sign ")"))

end

/-- More steps than reading a text takes. -/
def readingFuel (text : List Char) : Nat :=
  8 * text.length + 100

/-- A text read as one that is quoted, but for what is put in. -/
def readInside (text : String) : Except ReadingFault Word :=
  (readQuoted (readingFuel text.toList) .document).run' { text := text.toList }

/-- Steps enough to read the texts that aliases stand for. -/
def aliasFuel (aliases : List (String × String)) : Nat :=
  100 * (aliases.map fun entry => entry.2.length + 10).foldl (· + ·) 0

/-- The next command line of a script, or `none` at its end. -/
def readLine : Reading (Option Command) := do
  let source ← get
  let fuel := readingFuel source.text + aliasFuel source.aliases
  match ← readToken fuel false true with
  | .endOfInput => return none
  | token =>
      pushBack token
      return some (← readList fuel .line .nothing)

end HingeField.Shell
