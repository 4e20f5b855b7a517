import HingeField.Shell.Records.Token

/-!
Reading programs for records. Assignments bind weakest of all; then come choices,
alternatives, conjunctions, looks for keys, matches, comparisons, texts side by
side, sums, products, signs, lines taken from commands, and powers.

A defect in a statement is reported, and reading goes on behind the statement. So
is a variable that is used as a table, and the other way round.
-/

namespace HingeField.Shell.Records

/-- A name, and whether it stands for a table if that is known. -/
structure Symbol where
  name : String
  isTable? : Option Bool := none

structure Reading where
  /-- The name of the command, for messages. -/
  command : String
  lexemes : List Lexeme
  messages : List String := []
  shared : Array Symbol
  functions : Array Function := #[]
  /-- The calls of functions not defined before, the last one first: the function and the number of
  arguments. -/
  calls : List (Nat × Nat) := []
  /-- The parameters of the function at hand. -/
  own : Array Symbol := #[]
  isInFunction : Bool := false
  /-- Whether there is a record here. -/
  hasRecord : Bool := false
  loops : Nat := 0
  ranges : Nat := 0
  parentheses : Nat := 0
  braces : Nat := 0

/-- Why reading stops. -/
inductive Interruption where
  /-- It goes on behind the statement. -/
  | mended
  | final

abbrev Reader := ExceptT Interruption (StateM Reading)

namespace Reader

/-- The number of messages after which reading ends. -/
def mostMessages : Nat := 5

/-- Says something as it is. -/
def complain (text : String) : Reader Unit := do
  modify fun reading => { reading with messages := text :: reading.messages }
  if mostMessages ≤ (← get).messages.length then throw .final

/-- Says something of the place that is read. -/
def report (text : String) : Reader Unit := do
  let reading ← get
  let lead :=
    match reading.lexemes.head? with
    | none => ""
    | some lexeme =>
        (lexeme.file?.map (· ++ ": ")).getD "" ++ "line " ++ toString lexeme.line ++ ": "
  complain (reading.command ++ ": " ++ lead ++ text)

def drop : Reader Unit :=
  modify fun reading => { reading with lexemes := reading.lexemes.drop 1 }

/-- The number of a byte in base sixteen. -/
def hexByte (c : Char) : String :=
  let digits := Nat.toDigits 16 c.toNat
  String.ofList (List.replicate (2 - digits.length) '0' ++ digits)

/-- The next token. What is none is reported, and nothing is read behind it. -/
def peekFrom : Nat → Reader Token
  | 0 => return .ending
  | fuel + 1 => do
      match (← get).lexemes with
      | [] => return .ending
      | lexeme :: _ =>
          match lexeme.token with
          | .extra c =>
              report ("extra '" ++ String.singleton c ++ "'")
              drop
              peekFrom fuel
          | .unexpected c =>
              let shown :=
                if ' ' < c && c < '\x7f' then "'" ++ String.singleton c ++ "'"
                else "0x" ++ hexByte c
              complain ((← get).command ++ ": " ++ toString lexeme.line ++
                ": unexpected character " ++ shown)
              throw .final
          | .runaway kind shown =>
              report ("runaway " ++ kind ++ " " ++ shown ++ " ...")
              throw .final
          | token => return token

def peek : Reader Token := do
  peekFrom ((← get).lexemes.length + 1)

/-- The tokens behind the next one. -/
def behind : Reader (List Token) := do
  return (← get).lexemes.tail.map Lexeme.token

/-- Goes on behind the next token. -/
def advance : Reader Unit := do
  let token ← peek
  drop
  match token with
  | .sign "(" => modify fun reading => { reading with parentheses := reading.parentheses + 1 }
  | .sign ")" => modify fun reading => { reading with parentheses := reading.parentheses - 1 }
  | .sign "\x7b" => modify fun reading => { reading with braces := reading.braces + 1 }
  | .sign "\x7d" => modify fun reading => { reading with braces := reading.braces - 1 }
  | _ => pure ()

/-- Reports that the next token cannot stand where it does. -/
def fail {α : Type} : Reader α := do
  let token ← peek
  let reading ← get
  let mayClose :=
    match token with
    | .ending => true
    | token => token.endsStatement
  if mayClose && 0 < reading.parentheses then
    report ("missing ) near " ++ token.shown)
    modify fun reading => { reading with parentheses := 0 }
  else
    match token with
    | .ending =>
        if 0 < reading.braces then report "missing \x7d near end of file"
        else report "syntax error at or near end of file"
        throw .final
    | .sign "NF" => report "syntax error at or near $"
    | token => report ("syntax error at or near " ++ token.shown)
  throw .mended

def isSign (text : String) : Reader Bool := do
  match ← peek with
  | .sign found => return found == text
  | _ => return false

def isKeyword (name : String) : Reader Bool := do
  match ← peek with
  | .keyword found => return found == name
  | _ => return false

/-- Goes on behind a sign, which must come next. -/
def expect (text : String) : Reader Unit := do
  if ← isSign text then advance else fail

/-- Goes on behind a sign if it comes next. -/
def accept (text : String) : Reader Bool := do
  let isThere ← isSign text
  if isThere then advance
  return isThere

/-- Whether a statement may end here. -/
def isAtSeparator : Reader Bool := do
  match ← peek with
  | .lineEnd | .implied | .sign ";" => return true
  | _ => return false

def separator : Reader Unit := do
  if ← isAtSeparator then advance else fail

def skipLineEnd : Reader Unit := do
  match ← peek with
  | .lineEnd => advance
  | _ => pure ()

/-! ### Names -/

/-- The variable or table of a name. -/
def resolve (name : String) : Reader Name := do
  let reading ← get
  match reading.own.findIdx? fun symbol => symbol.name == name with
  | some number => return .own number
  | none =>
      match reading.shared.findIdx? fun symbol => symbol.name == name with
      | some number => return .shared number
      | none =>
          set { reading with shared := reading.shared.push { name } }
          return .shared reading.shared.size

/-- Notes that a name is used as a table, or as a variable. -/
def useAs (isTable : Bool) (name : Name) : Reader Unit := do
  let reading ← get
  let (symbol?, lead) :=
    match name with
    | .shared number => (reading.shared[number]?, "")
    | .own number => (reading.own[number]?, "local ")
  match symbol? with
  | none => pure ()
  | some symbol =>
      match symbol.isTable? with
      | some isKnown =>
          if isKnown != isTable then
            report ("illegal reference to " ++ lead ++
              (if isKnown then "array " else "variable ") ++ symbol.name)
      | none =>
          let noted := fun symbols : Array Symbol => fun number : Nat =>
            symbols.modify number fun symbol => { symbol with isTable? := some isTable }
          match name with
          | .shared number => set { reading with shared := noted reading.shared number }
          | .own number => set { reading with own := noted reading.own number }

/-- The number of a function, which need not be defined yet. -/
def functionNumber (name : String) : Reader Nat := do
  let reading ← get
  match reading.functions.findIdx? fun function => function.name == name with
  | some number => return number
  | none =>
      set { reading with functions := reading.functions.push { name } }
      return reading.functions.size

/-- Whether a name in front of a parenthesis, or one of a known function, is that of a function. -/
def isFunction (name : String) (isCalled : Bool) : Reader Bool := do
  let reading ← get
  if reading.own.any fun symbol => symbol.name == name then return false
  if reading.functions.any fun function => function.name == name then return true
  return isCalled && !reading.shared.any fun symbol => symbol.name == name

/-- Whether a function that is defined takes fewer arguments. -/
def checkCount (function : Function) (count : Nat) : Reader Unit := do
  if function.arity < count then report ("too many arguments in call to " ++ function.name)

/-- Notes a call of a function with a number of arguments. -/
def noteCall (number count : Nat) : Reader Unit := do
  match (← get).functions[number]?.filter Function.isDefined with
  | some function => checkCount function count
  | none => modify fun reading => { reading with calls := (number, count) :: reading.calls }

/-- The regular expression of a text. -/
def expressionOf (source : String) : Reader Utility.Regex := do
  match readExpression source with
  | .ok regex => return regex
  | .error defect =>
      report ("regular expression compile failed (" ++ defect.message ++ ")\n" ++ source)
      throw .final

/-! ### Expressions -/

def isPlace : Expr → Bool
  | .name _ | .element .. | .field _ | .fieldCount => true
  | _ => false

/-- What an assignment does before it assigns. -/
def assignment? : Token → Option (Option Operator)
  | .sign "=" => some none
  | .sign "+=" => some (some .add)
  | .sign "-=" => some (some .subtract)
  | .sign "*=" => some (some .multiply)
  | .sign "/=" => some (some .divide)
  | .sign "%=" => some (some .remainder)
  | .sign "^=" => some (some .power)
  | _ => none

/-- What a sign between operands makes of them, at a level of binding. -/
def binary? (level : Nat) (token : Token) : Option (Expr → Expr → Expr) :=
  match level, token with
  | 1, .sign "||" => some .either
  | 2, .sign "&&" => some .both
  | 4, .sign "~" => some (.fits false)
  | 4, .sign "!~" => some (.fits true)
  | 5, .sign "<" => some (.compare .less)
  | 5, .sign "<=" => some (.compare .atMost)
  | 5, .sign "==" => some (.compare .equal)
  | 5, .sign "!=" => some (.compare .different)
  | 5, .sign ">=" => some (.compare .atLeast)
  | 5, .sign ">" => some (.compare .greater)
  | 7, .sign "+" => some (.arithmetic .add)
  | 7, .sign "-" => some (.arithmetic .subtract)
  | 8, .sign "*" => some (.arithmetic .multiply)
  | 8, .sign "/" => some (.arithmetic .divide)
  | 8, .sign "%" => some (.arithmetic .remainder)
  | _, _ => none

/-- The level of looks for keys. -/
def keyLevel : Nat := 3

/-- The level of matches. -/
def matchLevel : Nat := 4

/-- The level of texts side by side. -/
def joinLevel : Nat := 6

/-- The level of signs in front of operands. -/
def signLevel : Nat := 9

/-- Whether an operand may start with a token. -/
def startsOperand : Token → Bool
  | .number .. | .text _ | .regex _ | .word .. | .builtin .. => true
  | .sign text => ["(", "$", "NF", "!", "-", "+", "++", "--"].contains text
  | .keyword name => name == "getline"
  | _ => false

/-- The fewest and the most arguments of a function. -/
def arityOf : Builtin → Nat × Nat
  | .index | .arctangent | .findMatch => (2, 2)
  | .substring => (2, 3)
  | .split => (2, 3)
  | .substitute _ => (2, 3)
  | .format => (1, 255)
  | .random | .time => (0, 0)
  | .seed | .flush => (0, 1)
  | .showTime => (0, 3)
  | _ => (1, 1)

/-- Whether the parenthesis that comes next encloses all that is to be printed. -/
def enclosesAll : Nat → Nat → List Token → Bool
  | 0, _, _ => false
  | _ + 1, _, [] => false
  | fuel + 1, depth, token :: rest =>
      match token with
      | .sign "(" => enclosesAll fuel (depth + 1) rest
      | .sign ")" =>
          if depth ≤ 1 then
            match rest.head? with
            | none | some (.output _) | some .ending => true
            | some token => token.endsStatement
          else enclosesAll fuel (depth - 1) rest
      | .ending => false
      | _ => enclosesAll fuel depth rest

mutual

def readExpr : Nat → Reader Expr
  | 0 => fail
  | fuel + 1 => do
      let condition ← readLevel fuel 1
      if ← accept "?" then
        let yes ← readExpr fuel
        expect ":"
        return .choice condition yes (← readExpr fuel)
      return condition

/-- Operands with what binds them at a level or more tightly. An operand may be an assignment where
only weaker signs stand around it. -/
def readLevel : Nat → Nat → Reader Expr
  | 0, _ => fail
  | fuel + 1, level => do
      if level = signLevel then readSigned fuel
      else if level = joinLevel then
        let start ← peek
        let first ← readLevel fuel (level + 1)
        let isBare :=
          match start with
          | .sign "(" => false
          | _ => isPlace first
        match assignment? (← peek) with
        | some operator? =>
            if !isBare then fail
            advance
            return .assign operator? first (← readExpr fuel)
        | none => readJoined fuel first
      else
        let first ← readLevel fuel (level + 1)
        readChain fuel level first

/-- Texts side by side, behind the first one. -/
def readJoined : Nat → Expr → Reader Expr
  | 0, _ => fail
  | fuel + 1, first => do
      if startsOperand (← peek) then
        let second ← readLevel fuel (joinLevel + 1)
        readJoined fuel (.join first second)
      else return first

/-- What goes on behind an operand at a level. -/
def readChain : Nat → Nat → Expr → Reader Expr
  | 0, _, _ => fail
  | fuel + 1, level, first => do
      let token ← peek
      let isIn ← isKeyword "in"
      if level = keyLevel && isIn then
        advance
        match ← peek with
        | .word name false =>
            advance
            let table ← resolve name
            useAs true table
            readChain fuel level (.isKey [first] table)
        | _ => fail
      else
        match binary? level token with
        | none => return first
        | some combine =>
            advance
            let second ← readLevel fuel (level + 1)
            if level = matchLevel then
              match second with
              | .text source => let _ ← expressionOf source
              | _ => pure ()
            readChain fuel level (combine first second)

def readSigned : Nat → Reader Expr
  | 0 => fail
  | fuel + 1 => do
      if ← accept "!" then return .not (← readSigned fuel)
      if ← accept "-" then return .minus (← readSigned fuel)
      if ← accept "+" then return .plus (← readSigned fuel)
      let operand ← readPower fuel
      readPiped fuel operand

/-- Lines taken from a command, which may be a command in turn. -/
def readPiped : Nat → Expr → Reader Expr
  | 0, _ => fail
  | fuel + 1, command => do
      if ← accept "|" then
        unless ← isKeyword "getline" do fail
        advance
        let target? ← readTarget fuel
        readPiped fuel (.takeFrom command target?)
      else return command

def readPower : Nat → Reader Expr
  | 0 => fail
  | fuel + 1 => do
      let base ← readStepped fuel
      if ← accept "^" then return .arithmetic .power base (← readExponent fuel)
      return base

def readExponent : Nat → Reader Expr
  | 0 => fail
  | fuel + 1 => do
      if ← accept "!" then return .not (← readExponent fuel)
      if ← accept "-" then return .minus (← readExponent fuel)
      if ← accept "+" then return .plus (← readExponent fuel)
      readPower fuel

/-- An operand with a step behind it. -/
def readStepped : Nat → Reader Expr
  | 0 => fail
  | fuel + 1 => do
      let operand ← readOperand fuel
      if isPlace operand then
        if ← accept "++" then return .step false true operand
        if ← accept "--" then return .step false false operand
      return operand

/-- A variable, an element of a table or a field. -/
def readPlace : Nat → Reader Expr
  | 0 => fail
  | fuel + 1 => do
      match ← peek with
      | .word name isCalled =>
          if ← isFunction name isCalled then fail
          advance
          let found ← resolve name
          if ← accept "[" then
            useAs true found
            let key ← readExprs fuel
            expect "]"
            return .element found key
          else
            useAs false found
            return .name found
      | .sign "NF" =>
          advance
          return .fieldCount
      | .sign "$" =>
          advance
          match ← peek with
          | .number value text =>
              if integralPart value != value then
                report ("$" ++ text ++ " is invalid field index")
              advance
              return .field (.number value)
          | .sign "-" | .sign "+" | .sign "!" => return .field (← readExponent fuel)
          | .sign "++" | .sign "--" => return .field (← readOperand fuel)
          | _ => return .field (← readOperand fuel)
      | _ => fail

/-- Where a line that is taken goes, if that is said. -/
def readTarget : Nat → Reader (Option Expr)
  | 0 => fail
  | fuel + 1 => do
      match ← peek with
      | .word name isCalled =>
          if ← isFunction name isCalled then return none
          return some (← readPlace fuel)
      | .sign "$" | .sign "NF" => return some (← readPlace fuel)
      | _ => return none

/-- Expressions with commas between them. -/
def readExprs : Nat → Reader (List Expr)
  | 0 => fail
  | fuel + 1 => do
      let first ← readExpr fuel
      if ← accept "," then return first :: (← readExprs fuel)
      return [first]

/-- Arguments up to the closing parenthesis; a name alone may be a table. -/
def readArguments : Nat → Reader (List Expr)
  | 0 => fail
  | fuel + 1 => do
      let token ← peek
      let argument ←
        match token, (← behind).head? with
        | .word name false, some (.sign sign) =>
            if sign == "," || sign == ")" then
              if ← isFunction name false then readExpr fuel
              else
                advance
                pure (Expr.name (← resolve name))
            else readExpr fuel
        | _, _ => readExpr fuel
      if ← accept "," then return argument :: (← readArguments fuel)
      expect ")"
      return [argument]

/-- The name of a table. -/
def readTable : Reader Name := do
  match ← peek with
  | .word name _ =>
      if ← isFunction name false then fail
      advance
      let table ← resolve name
      useAs true table
      return table
  | _ => fail

def readOperand : Nat → Reader Expr
  | 0 => fail
  | fuel + 1 => do
      match ← peek with
      | .number value _ =>
          advance
          return .number value
      | .text octets =>
          advance
          return .text octets
      | .regex source =>
          let regex ← expressionOf source
          advance
          return .regex regex
      | .sign "(" =>
          advance
          let exprs ← readExprs fuel
          expect ")"
          match exprs with
          | [expr] =>
              match expr with
              | .name _ => return .plus expr
              | _ => return expr
          | key =>
              unless ← isKeyword "in" do fail
              advance
              return .isKey key (← readTable)
      | .sign "$" | .sign "NF" => readPlace fuel
      | .sign "++" =>
          advance
          return .step true true (← readPlace fuel)
      | .sign "--" =>
          advance
          return .step true false (← readPlace fuel)
      | .word name isCalled =>
          if ← isFunction name isCalled then
            let number ← functionNumber name
            advance
            expect "("
            let arguments ← (do
              if ← accept ")" then return []
              readArguments fuel)
            noteCall number arguments.length
            return .call number arguments
          else readPlace fuel
      | .builtin name function => readBuiltin fuel name function
      | .keyword "getline" =>
          advance
          let target? ← readTarget fuel
          if ← accept "<" then
            let file ← readPower fuel
            return .takeOf file target?
          return .take target?
      | _ => fail

def readBuiltin : Nat → String → Builtin → Reader Expr
  | 0, _, _ => fail
  | fuel + 1, name, function => do
      advance
      match function with
      | .length =>
          unless ← isSign "(" do return .builtin function []
          advance
          if ← accept ")" then return .builtin function []
          let token ← peek
          match token, (← behind).head? with
          | .word table false, some (.sign ")") =>
              if ← isFunction table false then
                let argument ← readExpr fuel
                expect ")"
                return .builtin function [argument]
              advance
              advance
              return .builtin function [.name (← resolve table)]
          | _, _ =>
              let argument ← readExpr fuel
              expect ")"
              return .builtin function [argument]
      | .split =>
          expect "("
          let subject ← readExpr fuel
          expect ","
          let table ← readTable
          if ← accept "," then
            let pattern ← readExpr fuel
            expect ")"
            return .builtin function [subject, .name table, pattern]
          expect ")"
          return .builtin function [subject, .name table]
      | .substitute _ =>
          expect "("
          let pattern ← readExpr fuel
          expect ","
          let replacement ← readExpr fuel
          if ← accept "," then
            let target ← readPlace fuel
            expect ")"
            return .builtin function [pattern, replacement, target]
          expect ")"
          return .builtin function [pattern, replacement]
      | .findMatch =>
          expect "("
          let subject ← readExpr fuel
          expect ","
          let pattern ← readExpr fuel
          expect ")"
          return .builtin function [subject, pattern]
      | function =>
          expect "("
          let arguments ← (do
            if ← isSign ")" then return []
            readExprs fuel)
          let (least, most) := arityOf function
          if arguments.length < least || most < arguments.length then
            report ("wrong number of arguments in call to " ++ name)
          expect ")"
          return .builtin function arguments

end

/-- Enough fuel for what is left. -/
def fuel : Reader Nat := do
  return 24 * (← get).lexemes.length + 100

def expr : Reader Expr := do
  readExpr (← fuel)

/-! ### Statements -/

/-- A condition in parentheses. -/
def condition : Reader Expr := do
  expect "("
  let condition ← expr
  expect ")"
  return condition

/-- An expression unless the statement ends. -/
def expr? : Reader (Option Expr) := do
  if ← isAtSeparator then return none
  return some (← expr)

/-- What is to be printed, and where. -/
def printed : Reader (List Expr × Option (Destination × Expr)) := do
  let token ← peek
  let tokens := (← get).lexemes.map Lexeme.token
  let isAtEnd : Bool ← (do
    if ← isAtSeparator then return true
    match token with
    | .output _ => return true
    | _ => return false)
  let items ← (do
    if isAtEnd then return []
    if ← isSign "(" then
      if enclosesAll (tokens.length + 1) 0 tokens then
        advance
        if ← accept ")" then return []
        let items ← readExprs (← fuel)
        expect ")"
        return items
    readExprs (← fuel))
  match ← peek with
  | .output destination =>
      advance
      return (items, some (destination, ← expr))
  | _ => return (items, none)

/-- Tokens up to the end of the statement are skipped. -/
def skipStatement : Nat → Reader Unit
  | 0 => throw .final
  | fuel + 1 => do
      if ← isAtSeparator then advance
      else
        match ← peek with
        | .ending => throw .final
        | _ =>
            advance
            skipStatement fuel

/-- A statement that only some places allow. -/
def onlyIf (isAllowed : Bool) (text : String) : Reader Unit := do
  unless isAllowed do report text

mutual

/-- A statement; one with a defect is skipped. -/
def readStatement : Nat → Reader Statement
  | 0 => fail
  | fuel + 1 => do
      try readAnyStatement fuel
      catch stop =>
        match stop with
        | .final => throw .final
        | .mended =>
            skipStatement ((← get).lexemes.length + 1)
            return .block []

/-- The statements up to a closing brace. -/
def readStatements : Nat → Reader (List Statement)
  | 0 => fail
  | fuel + 1 => do
      if ← accept "\x7d" then return []
      match ← peek with
      | .ending => fail
      | _ =>
          let first ← readStatement fuel
          return first :: (← readStatements fuel)

/-- The body of a loop. -/
def readBody : Nat → Reader Statement
  | 0 => fail
  | fuel + 1 => do
      skipLineEnd
      modify fun reading => { reading with loops := reading.loops + 1 }
      let body ← readStatement fuel
      modify fun reading => { reading with loops := reading.loops - 1 }
      return body

def readFor : Nat → Reader Statement
  | 0 => fail
  | fuel + 1 => do
      expect "("
      let token ← peek
      match token, (← behind).take 3 with
      | .word name false, [.keyword "in", .word table _, .sign ")"] =>
          advance
          advance
          let target ← resolve name
          useAs false target
          let found ← resolve table
          useAs true found
          advance
          expect ")"
          return .forEach (.name target) found (← readBody fuel)
      | _, _ =>
          let start? ← expr?
          expect ";"
          let condition? ← expr?
          expect ";"
          let step? ← (do
            if ← isSign ")" then return none
            return some (← expr))
          expect ")"
          let loop := Statement.loop condition? step? (← readBody fuel)
          match start? with
          | none => return loop
          | some start => return .block [.compute start, loop]

def readAnyStatement : Nat → Reader Statement
  | 0 => fail
  | fuel + 1 => do
      match ← peek with
      | .lineEnd | .implied | .sign ";" =>
          advance
          return .block []
      | .sign "\x7b" =>
          advance
          return .block (← readStatements fuel)
      | .keyword "if" =>
          advance
          let condition ← condition
          skipLineEnd
          let yes ← readStatement fuel
          if ← isKeyword "else" then
            advance
            skipLineEnd
            return .select condition yes (← readStatement fuel)
          return .select condition yes (.block [])
      | .keyword "while" =>
          advance
          let condition ← condition
          return .loop (some condition) none (← readBody fuel)
      | .keyword "do" =>
          advance
          let body ← readBody fuel
          unless ← isKeyword "while" do fail
          advance
          let condition ← condition
          separator
          return .loopAfter body condition
      | .keyword "for" =>
          advance
          readFor fuel
      | _ => readSimple

/-- A statement without other statements in it. -/
def readSimple : Reader Statement := do
  let token ← peek
  let reading ← get
  match token with
  | .keyword "break" =>
      onlyIf (0 < reading.loops) "break statement outside of loop"
      advance
      separator
      return .leaveLoop
  | .keyword "continue" =>
      onlyIf (0 < reading.loops) "continue statement outside of loop"
      advance
      separator
      return .repeatLoop
  | .keyword "next" =>
      onlyIf reading.hasRecord "improper use of next"
      advance
      separator
      return .nextRecord
  | .keyword "nextfile" =>
      onlyIf reading.hasRecord "improper use of nextfile"
      advance
      separator
      return .nextFile
  | .keyword "exit" =>
      advance
      let status? ← expr?
      separator
      return .leave status?
  | .keyword "return" =>
      onlyIf reading.isInFunction "return outside function body"
      advance
      let value? ← expr?
      separator
      return .give value?
  | .keyword "delete" =>
      advance
      let table ← readTable
      if ← accept "[" then
        let key ← readExprs (← fuel)
        expect "]"
        separator
        return .erase table key
      separator
      return .eraseAll table
  | .keyword "print" =>
      advance
      let (items, target?) ← printed
      separator
      return .print items target?
  | .keyword "printf" =>
      advance
      let (items, target?) ← printed
      if items.isEmpty then report "no arguments in call to printf"
      separator
      return .printFormatted items target?
  | _ =>
      let computed ← expr
      separator
      return .compute computed

end

/-- The statements in braces. -/
def block : Reader (List Statement) := do
  expect "\x7b"
  readStatements (← fuel)

/-! ### Rules and functions -/

structure Parts where
  beginnings : List (List Statement) := []
  rules : List Rule := []
  endings : List (List Statement) := []

/-- The parameters of a function, up to the closing parenthesis. -/
def readParameters : Nat → List String → Reader (List String)
  | 0, _ => fail
  | fuel + 1, earlier => do
      match ← peek with
      | .word name _ =>
          if earlier.contains name then report (name ++ " is duplicated in argument list")
          advance
          if ← accept "," then readParameters fuel (earlier ++ [name])
          else
            expect ")"
            return earlier ++ [name]
      | _ => fail

def readFunction : Reader Unit := do
  advance
  match ← peek with
  | .word name _ =>
      let reading ← get
      if reading.functions.any fun function => function.name == name && function.isDefined then
        report ("redefinition of " ++ name)
        throw .mended
      if reading.shared.any fun symbol => symbol.name == name && symbol.isTable?.isSome then
        report ("illegal reference to variable " ++ name)
        throw .mended
      let number ← functionNumber name
      advance
      expect "("
      let parameters ← (do
        if ← accept ")" then return []
        readParameters ((← get).lexemes.length + 1) [])
      skipLineEnd
      modify fun reading =>
        { reading with
          own := (parameters.map fun name => { name }).toArray
          isInFunction := true, hasRecord := false
          functions := reading.functions.modify number fun function =>
            { function with arity := parameters.length, isDefined := true } }
      let body ← block
      modify fun reading =>
        { reading with
          own := #[], isInFunction := false
          functions := reading.functions.modify number fun function => { function with body } }
  | _ => fail

/-- The action behind a pattern; without one the record is printed. -/
def action : Reader (List Statement) := do
  modify fun reading => { reading with hasRecord := true }
  let body ← (do
    if ← isSign "\x7b" then block
    else
      separator
      return [.print [] none])
  modify fun reading => { reading with hasRecord := false }
  return body

def readPart (parts : Parts) : Reader Parts := do
  match ← peek with
  | .keyword "function" =>
      readFunction
      return parts
  | .keyword "BEGIN" =>
      advance
      return { parts with beginnings := parts.beginnings ++ [← block] }
  | .keyword "END" =>
      advance
      return { parts with endings := parts.endings ++ [← block] }
  | .sign "\x7b" =>
      return { parts with rules := parts.rules ++ [{ guard := .always, action := ← action }] }
  | _ =>
      let first ← expr
      if ← accept "," then
        let last ← expr
        let number := (← get).ranges
        modify fun reading => { reading with ranges := number + 1 }
        let rule : Rule := { guard := .between number first last, action := ← action }
        return { parts with rules := parts.rules ++ [rule] }
      else
        let rule : Rule := { guard := .when first, action := ← action }
        return { parts with rules := parts.rules ++ [rule] }

/-- Skips tokens up to an opening brace, and the statements in the braces. -/
def skipToBlock : Nat → Reader Unit
  | 0 => throw .final
  | fuel + 1 => do
      match ← peek with
      | .ending => throw .final
      | .sign "\x7b" =>
          match (← behind).head? with
          | some .ending => throw .final
          | _ =>
              let _ ← block
      | _ =>
          advance
          skipToBlock fuel

def readParts : Nat → Parts → Reader Parts
  | 0, parts => return parts
  | fuel + 1, parts => do
      match ← peek with
      | .ending => return parts
      | _ =>
          let parts ← (do
            try readPart parts
            catch stop =>
              match stop with
              | .final => throw .final
              | .mended =>
                  modify fun reading =>
                    { reading with own := #[], isInFunction := false, hasRecord := false }
                  skipToBlock ((← get).lexemes.length + 1)
                  return parts)
          readParts fuel parts

/-- Checks that each function that is called is defined. -/
def checkCalls : Reader Unit := do
  let reading ← get
  for (number, count) in reading.calls do
    match reading.functions[number]? with
    | none => pure ()
    | some function =>
        if function.isDefined then checkCount function count
        else report ("function " ++ function.name ++ " never defined")

end Reader

/-- Reads a program, whose parts may be in files; or says what is wrong with it, line by line. -/
def readProgram (command : String) (parts : List (Option String × String)) :
    Except (List String) Program :=
  let shared := (knownNames.map fun name =>
    ({ name, isTable? := some (isKnownTable name) } : Symbol)).toArray
  let reading : Reading := { command, lexemes := programLexemes {} parts, shared }
  let reader : Reader Reader.Parts := do
    let read ← Reader.readParts (reading.lexemes.length + 1) {}
    if (← get).messages.isEmpty then Reader.checkCalls
    return read
  match reader.run.run reading with
  | (outcome, reading) =>
      match outcome, reading.messages with
      | .ok read, [] =>
          .ok
            { beginnings := read.beginnings, rules := read.rules, endings := read.endings
              functions := reading.functions, names := reading.shared.map Symbol.name }
      | _, messages => .error messages.reverse

end HingeField.Shell.Records
