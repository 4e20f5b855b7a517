import HingeField.Shell.Fields
import HingeField.Shell.Host.Status
import HingeField.Shell.Options
import HingeField.Shell.Printing

/-!
The commands that change the parameters of a script: its variables, arguments
and settings.
-/

namespace HingeField.Shell

/-- A text in quotes from which it can be read back. -/
def singleQuoted (text : String) : String :=
  let pieces := text.splitOn "'"
  "'" ++ String.intercalate "'\"'\"'" pieces ++ "'"

/-- The lines that show the variables of a kind, in order. -/
def variableLines (lead : String) (isShown : Variable → Bool) (session : Session) : String :=
  let shown := session.bindings.filter fun entry => isShown entry.2
  let sorted := shown.mergeSort fun first second => !(second.1 < first.1)
  String.join <| sorted.map fun (name, given) =>
    lead ++ name ++
      (match given.value with
      | some value => "=" ++ singleQuoted value
      | none => "") ++ "\n"

/-- The name and value of a setting given as one text. -/
def splitSetting (text : String) : String × Option String :=
  let name := text.toList.takeWhile (· != '=')
  match text.toList.drop name.length with
  | _ :: value => (String.ofList name, some (String.ofList value))
  | [] => (String.ofList name, none)

/-- Refuses a name that no variable can have. -/
def checkName (name : String) : Act Unit :=
  unless isName name do fail (name ++ ": bad variable name")

/-- Gives variables a mark, and a value if one is named. -/
def markVariables (command : String) (isShown : Variable → Bool) (mark : Variable → Variable)
    (operands : List String) : Act Nat := do
  let options ← optionsOf "p" operands
  if options.operands.isEmpty || options.has 'p' then
    say (variableLines (command ++ " ") isShown (← get))
  else
    for operand in options.operands do
      let (name, value?) := splitSetting operand
      checkName name
      match value? with
      | some value => setVariable name value
      | none => pure ()
      let before := ((← get).binding? name).getD {}
      putVariable name (some (mark before))
    return 0

def exportVariables : List String → Act Nat :=
  markVariables "export" Variable.isExported fun given => { given with isExported := true }

def protectVariables : List String → Act Nat :=
  markVariables "readonly" Variable.isReadonly fun given => { given with isReadonly := true }

/-- Hides variables until the running function ends. One that is given no value keeps its own. -/
def makeLocal (operands : List String) : Act Nat := do
  if (← get).hidden.isEmpty || (← get).callDepth = 0 then fail "not in a function"
  for operand in operands do
    let (name, value?) := splitSetting operand
    if name = settingsName then hideSettings
    else
      checkName name
      hideVariable name
      match value? with
      | some value => setVariable name value
      | none =>
          let before := ((← get).binding? name).getD {}
          putVariable name (some before)
  return 0

/-- Takes variables or functions away. -/
def unsetAll (operands : List String) : Act Nat := do
  let options ← optionsOf "vf" operands
  for name in options.operands do
    if options.has 'f' then
      modify fun session =>
        { session with functions := session.functions.filter fun entry => entry.1 != name }
    else
      checkName (splitSetting name).1
      unsetVariable (splitSetting name).1
  return 0

/-- The settings of a script by letter and name. -/
def settingNames : List (Char × String) :=
  [('e', "errexit"), ('f', "noglob"), ('I', "ignoreeof"), ('i', "interactive"), ('m', "monitor"),
    ('n', "noexec"), ('s', "stdin"), ('x', "xtrace"), ('v', "verbose"), ('V', "vi"), ('E', "emacs"),
    ('C', "noclobber"), ('a', "allexport"), ('b', "notify"), ('u', "nounset"), ('p', "privileged"),
    ('0', "nolog"), ('1', "debug")]

/-- Whether a letter stands for a setting. -/
def isSettingLetter (letter : Char) : Bool :=
  letter.isAlpha && settingNames.any fun entry => entry.1 == letter

/-- Turns a setting on or off. Those that are on are kept in the order of their list. -/
def turnSetting (isOn : Bool) (letter : Char) : Act Unit :=
  modify fun session =>
    let isKept := fun c : Char => if c == letter then isOn else session.settings.contains c
    { session with settings := (settingNames.map (·.1)).filter isKept }

/-- Turns a setting on or off. Jobs cannot be controlled without a terminal. -/
def trySetting (isOn : Bool) (letter : Char) : Act Unit := do
  if isOn && letter == 'm' then complain "can't access tty; job control turned off"
  else turnSetting isOn letter

def switchSetting (isOn : Bool) (letter : Char) : Act Unit := do
  unless isSettingLetter letter do fail ("Illegal option -" ++ String.singleton letter)
  trySetting isOn letter

def switchNamedSetting (isOn : Bool) (name : String) : Act Unit := do
  match settingNames.find? fun entry => entry.2 == name with
  | some (letter, _) => trySetting isOn letter
  | none => fail ("Illegal option -o " ++ name)

/-- The lines that show all settings. -/
def settingLines (isListing : Bool) (session : Session) : String :=
  let line := fun (letter, name) =>
    let isOn := session.hasSetting letter
    if isListing then
      let blanks := String.ofList (List.replicate (16 - name.length) ' ')
      name ++ blanks ++ (if isOn then "on" else "off")
    else "set " ++ (if isOn then "-" else "+") ++ "o " ++ name
  String.join <|
    (if isListing then ["Current option settings\n"] else []) ++
      settingNames.map fun entry => line entry ++ "\n"

/-- Switches the settings that operands name; returns the operands behind them, if there are any. -/
def switchSettings : List String → Act (Option (List String))
  | [] => return none
  | operand :: rest => do
      match operand.toList with
      | ['-', '-'] => return some rest
      | ['-'] =>
          switchSetting false 'x'
          switchSetting false 'v'
          return if rest.isEmpty then none else some rest
      | ['-', 'o'] | ['+', 'o'] =>
          let isOn := operand == "-o"
          match rest with
          | name :: rest =>
              switchNamedSetting isOn name
              switchSettings rest
          | [] =>
              let _ ← say (settingLines isOn (← get))
              return none
      | '-' :: letters =>
          letters.forM (switchSetting true)
          switchSettings rest
      | '+' :: letters =>
          letters.forM (switchSetting false)
          switchSettings rest
      | _ => return some (operand :: rest)

/-- Switches settings and replaces the arguments; without operands, shows the variables. -/
def setParameters (operands : List String) : Act Nat := do
  if operands.isEmpty then
    say (variableLines "" (fun given => given.value.isSome) (← get))
  else
    match ← switchSettings operands with
    | some arguments =>
        modify fun session => { session with arguments, nextOption := 1, optionOffset := none }
    | none => pure ()
    return 0

/-- Takes arguments off the front. -/
def shiftArguments (operands : List String) : Act Nat := do
  let count ←
    match operands with
    | operand :: _ => countOf operand
    | [] => pure 1
  let session ← get
  if session.arguments.length < count then fail "can't shift that many"
  set { session with
    arguments := session.arguments.drop count, nextOption := 1, optionOffset := none }
  return 0

/-- What the search for the next option has found. -/
structure FoundOption where
  letter : Char
  argument? : Option String := none
  /-- The number of the next operand. -/
  next : Nat
  /-- How far the operand before it has been read, unless to its end. -/
  offset : Option Nat := none
  warning : Option String := none

/-- The option behind so many characters of an operand, with the operand behind that one, which has
the number given. -/
def optionAt (allowed : List Char) (isQuiet : Bool) (operand : List Char) (offset next : Nat)
    (follower? : Option String) : FoundOption :=
  let letter := (operand.drop offset).headD '?'
  let shown := String.singleton letter
  let behind := operand.drop (offset + 1)
  match if letter == ':' then none else argumentNeed? allowed letter with
  | none =>
      if isQuiet then { letter := '?', argument? := some shown, next, offset := some (offset + 1) }
      else
        { letter := '?', next, offset := some (offset + 1),
          warning := some ("Illegal option -" ++ shown ++ "\n") }
  | some .always =>
      match behind, follower? with
      | _ :: _, _ => { letter, argument? := some (String.ofList behind), next }
      | [], some argument => { letter, argument? := some argument, next := next + 1 }
      | [], none =>
          if isQuiet then { letter := ':', argument? := some shown, next }
          else
            { letter := '?', next, warning := some ("No arg for -" ++ shown ++ " option\n") }
  | some _ => { letter, argument? := some "", next, offset := some (offset + 1) }

/-- The operand in which the next option is looked for, from so many characters on, with the number
of the operand behind it; `none`, with the next number, if there are no more options. -/
def optionOperand (texts : List String) (next : Nat) (offset : Option Nat) :
    Except Nat (List Char × Nat × Nat) :=
  let current := (texts[next - 2]?.getD "").toList
  let begun? := offset.filter fun offset => 1 < next && offset < current.length
  match begun?, texts[next - 1]?.map String.toList with
  | some offset, _ => .ok (current, offset, next)
  | none, some ['-', '-'] => .error (next + 1)
  | none, some ('-' :: letter :: letters) => .ok ('-' :: letter :: letters, 1, next + 1)
  | none, _ => .error next

/-- Finds the next option among operands; fails at their end. -/
def nextOption (operands : List String) : Act Nat := do
  match operands with
  | allowed :: name :: given => do
      let session ← get
      let texts := if given.isEmpty then session.arguments else given
      let isQuiet := allowed.startsWith ":"
      let isBehind := texts.length + 1 < session.nextOption
      let start := if isBehind then 1 else session.nextOption
      let offset := if isBehind then none else session.optionOffset
      let finish := fun (letter : Char) (next : Nat) (offset : Option Nat) => do
        setVariable "OPTIND" (toString next)
        modify fun session => { session with nextOption := next, optionOffset := offset }
        checkName name
        setVariable name (String.singleton letter)
      match optionOperand texts start offset with
      | .error next =>
          finish '?' next none
          return 1
      | .ok (operand, offset, next) =>
          let letters := allowed.toList.drop (if isQuiet then 1 else 0)
          let found := optionAt letters isQuiet operand offset next texts[next - 1]?
          match found.warning with
          | some text => do let _ ← emit 2 text
          | none => pure ()
          match found.argument? with
          | some argument => setVariable "OPTARG" argument
          | none => unsetVariable "OPTARG"
          finish found.letter found.next found.offset
          return 0
  | _ => fail "Usage: getopts optstring var [arg...]"

/-- The characters of the next input line, last one first, with what a backslash keeps from
separating words marked, and whether the line has an end. A line whose end is kept from its meaning
goes on. -/
def readLineChars (isRaw : Bool) : Nat → Bool → List LineChar → Act (List LineChar × Bool)
  | 0, _, line => return (line, false)
  | fuel + 1, isKept, line => do
      match ← Course.readSome true 0 1 with
      | .error _ | .ok none => return (line, false)
      | .ok (some content) =>
          match content.data[0]? with
          | none => return (line, false)
          | some byte =>
              let c := Char.ofNat byte.toNat
              if isKept then
                readLineChars isRaw fuel false (if c == '\n' then line else (c, false) :: line)
              else if c == '\n' then return (line, true)
              else if c == '\x00' then readLineChars isRaw fuel false line
              else if c == '\\' && !isRaw then readLineChars isRaw fuel true line
              else readLineChars isRaw fuel false ((c, true) :: line)

/-- Gives variables the words of the next input line; fails if the line has no end. -/
def readInput (operands : List String) : Act Nat := do
  let options ← optionsOf "p:r" operands
  if options.operands.isEmpty then fail "arg count"
  let (line, isEnded) ← readLineChars (options.has 'r') endlessSteps false []
  let separators := (← get).separators.toList
  let words := lineWords separators options.operands.length line.reverse
  for (name, place) in options.operands.zipIdx do
    checkName name
    setVariable name (String.ofList ((words[place]?.getD []).map (·.1)))
  return if isEnded then 0 else 1

/-- A path from another one, by its text alone. -/
def joinedPlace (place target : String) : String :=
  let start := if target.startsWith "/" then [] else Disk.namesOf place
  let names :=
    (target.splitOn "/").foldl
      (fun names name =>
        if name.isEmpty || name == "." then names
        else if name == ".." then names.drop 1
        else name :: names)
      start.reverse
  let lead :=
    if target.startsWith "//" && !target.startsWith "///" then "//" else "/"
  lead ++ String.intercalate "/" names.reverse

/-- Goes to a directory; tells whether that was possible. -/
def enterDirectory (path : String) : Act Bool :=
  Course.fromMachine fun machine =>
    match machine.disk.find true machine.own.here path with
    | .ok number =>
        if machine.disk.isDirectory number then
          (true, machine.modifyOwn fun process => { process with here := number })
        else (false, machine)
    | .error _ => (false, machine)

/-- The paths that a target may stand for, with whether they are to be shown. -/
def searchedPlaces (session : Session) (target : String) : List (String × Bool) :=
  let isFixed :=
    ["/", "./", "../"].any (fun start => target.startsWith start) ||
      [".", ".."].contains target
  let directories := if isFixed then "" else (session.valueOf? "CDPATH").getD ""
  if directories.isEmpty then [(target, false)]
  else
    (directories.splitOn ":").map (fun directory =>
      if directory.isEmpty then (target, false)
      else if directory.endsWith "/" then (directory ++ target, true)
      else (directory ++ "/" ++ target, true)) ++ [(target, false)]

/-- Goes to another directory. -/
def changeDirectory (operands : List String) : Act Nat := do
  let options ← optionsOf "LP" operands
  let session ← get
  let isPhysical := (options.letters.getLast?.map (·.1)) == some 'P'
  let before := session.place
  let (target, isBack) :=
    match options.operands with
    | [] => ((session.valueOf? "HOME").getD "", false)
    | "-" :: _ => ((session.valueOf? "OLDPWD").getD before, true)
    | target :: _ => (target, false)
  for (path, isShown) in searchedPlaces session target do
    let logical := joinedPlace before path
    if !path.isEmpty && (← enterDirectory (if isPhysical then path else logical)) then
      let place ← if isPhysical then Course.ask Machine.herePath else pure logical
      modify fun session =>
        { session with
          place
          findings := session.findings.map fun (name, finding) =>
            (name, { finding with isStale := true }) }
      setVariable "OLDPWD" before
      setVariable "PWD" place
      return ← if isShown || isBack then say (place ++ "\n") else pure 0
    else if path.isEmpty then
      setVariable "OLDPWD" before
      return 0
  fail ("can't cd to " ++ target)

/-- Shows the current directory. -/
def showPlace (operands : List String) : Act Nat := do
  let options ← optionsOf "LP" operands
  let isPhysical := (options.letters.getLast?.map (·.1)) == some 'P'
  let place ← if isPhysical then Course.ask Machine.herePath else pure (← get).place
  say (place ++ "\n")

end HingeField.Shell
