import HingeField.Shell.Escape
import HingeField.Shell.Host.Status
import HingeField.Shell.Utility.Calendar
import HingeField.Shell.Utility.Desk

/-!
The commands that print what they are given, or what they know of the system,
of the time and of themselves.
-/

namespace HingeField.Shell.Utility

/-! ### What is given -/

/-- A letter that may stand among the options of a printed line. -/
def isLineOption (operand : String) : Bool :=
  match operand.toList with
  | '-' :: letters => !letters.isEmpty && letters.all fun c => "neE".toList.contains c
  | _ => false

/-- The byte of up to two hexadecimal digits behind the sign for them, in a text with escapes. -/
def withHexBytes : Nat → List Char → List Char
  | 0, text => text
  | _ + 1, [] => []
  | fuel + 1, '\\' :: 'x' :: rest =>
      let digits := (rest.take 2).takeWhile fun c => (digitOf? 16 c).isSome
      match readDigits 16 digits with
      | some (value, _) => Char.ofNat value :: withHexBytes fuel (rest.drop digits.length)
      | none => '\\' :: 'x' :: withHexBytes fuel rest
  | fuel + 1, '\\' :: 'e' :: rest => '\x1b' :: withHexBytes fuel rest
  | fuel + 1, '\\' :: c :: rest => '\\' :: c :: withHexBytes fuel rest
  | fuel + 1, c :: rest => c :: withHexBytes fuel rest

/-- Prints a line of operands; options decide on escapes and on the line end. -/
def printLine (operands : List String) : Work Unit := do
  let options := operands.takeWhile isLineOption
  let texts := operands.drop options.length
  let letters := options.flatMap fun option => option.toList.drop 1
  let readsEscapes := (letters.filter fun c => c == 'e' || c == 'E').getLast? == some 'e'
  let text := String.intercalate " " texts
  let (text, ends) :=
    if readsEscapes then
      unescaped (String.ofList (withHexBytes (text.length + 1) text.toList))
    else (text, false)
  put (if ends || letters.contains 'n' then text else text ++ "\n")

/-- How many bytes at least are written at once where there is no end. -/
def repeatedSize : Nat := 4096

/-- Writes the same bytes again and again, until nobody takes them. -/
def repeatEndlessly (octets : String) : Nat → Work Unit
  | 0 => pure ()
  | fuel + 1 => do
      put octets
      repeatEndlessly octets fuel

def repeatLine (operands : List String) : Work Unit :=
  withOptions "" [] 1 operands fun options => do
    let words := if options.operands.isEmpty then ["y"] else options.operands
    let text := line (String.intercalate " " words)
    let count := repeatedSize / text.length + 1
    repeatEndlessly (String.join (List.replicate count text)) endlessSteps

def showEnvironment (operands : List String) : Work Unit :=
  withOptions "0" [("null", '0')] 2 operands fun options => do
    let environment := (← get).environment
    let ended := fun text : String => if options.has '0' then text ++ "\x00" else line text
    if options.operands.isEmpty then
      for (name, value) in environment do put (ended (name ++ "=" ++ value))
    else
      for name in options.operands do
        match environment.lookup name with
        | some value => put (ended value)
        | none => setStatus 1

/-! ### The system -/

/-- Does something that takes no operands. -/
def withoutOperands (options : Options) (work : Work Unit) : Work Unit := do
  match options.operands.head? with
  | some operand => misuse 1 ("extra operand " ++ inCurlyQuotes operand)
  | none => work

/-- Puts a line about the system. -/
def showFact (text : String) (operands : List String) : Work Unit :=
  withOptions "" [] 1 operands fun options => withoutOperands options (put (line text))

/-- Shows the directory at hand: with links as they stand in its name, if that is asked for. -/
def showDirectory (operands : List String) : Work Unit :=
  withOptions "LP" [("logical", 'L'), ("physical", 'P')] 1 operands fun options => do
    let given? := (← get).environment.lookup "PWD"
    let path ← Course.ask fun machine =>
      let own := machine.herePath
      match options.letters.getLast?, given? with
      | some ('L', _), some given =>
          if machine.disk.find? machine.own.here given == some machine.own.here &&
              given.startsWith "/" then given
          else own
      | _, _ => own
    put (line path)

/-- Shows who the user is, with the groups. -/
def showIdentity (operands : List String) : Work Unit :=
  withOptions "ugGnrza" [("user", 'u'), ("group", 'g'), ("groups", 'G'), ("name", 'n'),
      ("real", 'r'), ("zero", 'z')] 1 operands fun options => do
    let choices := "ugG".toList.filter options.has
    if 1 < choices.length then
      warn 1 "cannot print \x22only\x22 of more than one choice"
    else if choices.isEmpty && (options.has 'n' || options.has 'r') then
      warn 1 "cannot print only names or real IDs in default format"
    else
      let names := if options.operands.isEmpty then ["root"] else options.operands
      for name in names do
        if name != "root" && name != "0" then
          warn 1 (inCurlyQuotes name ++ ": no such user")
        else if choices.isEmpty then put "uid=0(root) gid=0(root) groups=0(root)\n"
        else put (if options.has 'n' then "root\n" else "0\n")

/-- Shows the groups of a user. -/
def showGroups (operands : List String) : Work Unit :=
  withOptions "" [] 1 operands fun options => do
    if options.operands.isEmpty then put "root\n"
    for name in options.operands do
      if name = "root" then put "root : root\n"
      else warn 1 (inCurlyQuotes name ++ ": no such user")

/-- The facts about the system that letters stand for, in the order they are shown. -/
def systemFacts : List (Char × String) :=
  [('s', "Linux"), ('n', "localhost"), ('r', "6.1.0"), ('v', "#1 SMP"), ('m', "x86_64"),
    ('o', "GNU/Linux")]

def showSystem (operands : List String) : Work Unit :=
  withOptions "asnrvmpio" [("all", 'a'), ("kernel-name", 's'), ("nodename", 'n'),
      ("kernel-release", 'r'), ("kernel-version", 'v'), ("machine", 'm'), ("processor", 'p'),
      ("hardware-platform", 'i'), ("operating-system", 'o')] 1 operands
    fun options => withoutOperands options do
    let letters := if options.letters.isEmpty then ['s'] else options.letters.map (·.1)
    let shown := systemFacts.filterMap fun (letter, fact) =>
      if letters.contains letter || letters.contains 'a' then some fact else none
    let unknown := "pi".toList.filterMap fun letter =>
      if letters.contains letter then some "unknown" else none
    put (line (String.intercalate " " (shown ++ unknown)))

/-- Shows the terminal of the input, which never is one. -/
def showTerminal (operands : List String) : Work Unit :=
  withOptions "s" [("silent", 's'), ("quiet", 's')] 2 operands fun options => do
    match options.operands.head? with
    | some operand => misuse 2 ("extra operand " ++ inCurlyQuotes operand)
    | none =>
        unless options.has 's' do put "not a tty\n"
        setStatus 1

/-- Puts files on the disk, which they must be there for. -/
def settleFiles (operands : List String) : Work Unit :=
  withOptions "df" [("data", 'd'), ("file-system", 'f')] 1 operands fun options => do
    for name in options.operands do
      match ← Course.ask fun machine => machine.status true name with
      | .error fault => warn 1 ("error opening " ++ inQuotes name ++ ": " ++ faultText fault)
      | .ok _ => pure ()

/-- Shows where programs are. -/
def showPrograms (operands : List String) : Work Unit := do
  match findOptions "as".toList [] true operands with
  | .error _ =>
      putError "Usage: /usr/bin/which [-as] args\n"
      setStatus 2
  | .ok options =>
      if options.operands.isEmpty then setStatus 1
      let search := ((← get).environment.lookup "PATH").getD ""
      for name in options.operands do
        let found ← Course.ask fun machine =>
          let candidates :=
            if name.contains '/' then [name]
            else (search.splitOn ":").map fun directory =>
              (if directory.isEmpty then "." else directory) ++ "/" ++ name
          candidates.filter fun path =>
            (machine.status? path).any fun status =>
              status.kind == .regular && status.node.isExecutable
        if found.isEmpty then setStatus 1
        unless options.has 's' do
          for path in (if options.has 'a' then found else found.take 1) do put (line path)

/-! ### Time -/

/-- The format for a time to some precision, by the name of that. -/
def standardFormat? (precision : String) : Option String :=
  match precision with
  | "" | "date" => some "%Y-%m-%d"
  | "hours" => some "%Y-%m-%dT%H%:z"
  | "minutes" => some "%Y-%m-%dT%H:%M%:z"
  | "seconds" => some "%Y-%m-%dT%H:%M:%S%:z"
  | "ns" => some "%Y-%m-%dT%H:%M:%S,%N%:z"
  | _ => none

/-- Operands with long options for precisions and files in their short form. -/
def withPrecision (operands : List String) : List String :=
  operands.map fun operand =>
    if operand = "--iso-8601" then "-I"
    else if operand.startsWith "--iso-8601=" then "-I" ++ (operand.drop 11).toString
    else operand

/-- Takes the options for a precision out of operands, as they have one only if it stands right
behind them. -/
def precisionOf (operands : List String) : Option String × List String :=
  let (asked, others) := operands.partition fun operand => operand.startsWith "-I"
  (asked.getLast?.map fun operand => (operand.drop 2).toString, others)

/-- Shows times: that at hand, one that a text tells, or that of a file. -/
def showTimes (given : List String) : Work Unit := do
  let (precision?, operands) := precisionOf (withPrecision given)
  withOptions "d:uRr:f:s:" [("date", 'd'), ("utc", 'u'), ("universal", 'u'), ("rfc-email", 'R'),
      ("reference", 'r'), ("file", 'f')] 1 operands fun options => do
    match options.operands.find? fun operand => !operand.startsWith "+" with
    | some operand =>
        if options.operands.head? == some operand then
          warn 1 ("invalid date " ++ inCurlyQuotes operand)
        else misuse 1 ("extra operand " ++ inCurlyQuotes operand)
        leave
    | none => pure ()
    match options.operands.drop 1 with
    | extra :: _ =>
        misuse 1 ("extra operand " ++ inCurlyQuotes extra)
        leave
    | [] => pure ()
    let format ←
      match options.operands.head?, precision? with
      | some operand, _ => pure (operand.drop 1).toString
      | none, some precision =>
          match standardFormat? precision with
          | some format => pure format
          | none =>
              misuseWord 1 precision "--iso-8601"
                [["hours"], ["minutes"], ["date"], ["seconds"], ["ns"]]
              leave
      | none, none =>
          pure (if options.has 'R' then "%a, %d %b %Y %H:%M:%S %z" else "%a %b %e %H:%M:%S %Z %Y")
    let tell := fun time : Int =>
      put (line ((CalendarTime.ofNanoseconds time).format (format.length + 1) format.toList))
    let now ← Course.ask Machine.time
    match options.argument? 'r', options.argument? 'd', options.argument? 'f' with
    | some name, _, _ =>
        match ← Course.ask fun machine => machine.status true name with
        | .ok status => tell status.node.modified
        | .error fault => warn 1 (name ++ ": " ++ faultText fault)
    | none, some text, _ =>
        match CalendarTime.read? now text with
        | some time => tell time
        | none => warn 1 ("invalid date " ++ inCurlyQuotes text)
    | none, none, some name =>
        match ← readOperand name with
        | .error fault => warn 1 (name ++ ": " ++ faultText fault)
        | .ok octets =>
            for text in linesOf octets do
              match CalendarTime.read? now text with
              | some time => tell time
              | none => warn 1 ("invalid date " ++ inCurlyQuotes text)
    | none, none, none => tell now

end HingeField.Shell.Utility
