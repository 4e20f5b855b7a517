import HingeField.Shell.Arithmetic
import HingeField.Shell.Fields

/-!
What words stand for: the values of parameters, the output of commands and the
results of expressions are put in; the outcome is one text, a pattern, or
fields, each of which may in turn stand for the names of files it fits.
-/

namespace HingeField.Shell

/-- What stands between the arguments in the value of all of them. -/
def argumentBorder : Char := '\x00'

/-- Where a word stands. -/
structure Surroundings where
  /-- Whether the word is divided into fields. -/
  isDivided : Bool := false
  /-- Whether plain characters may separate fields. -/
  isOperand : Bool := false
  /-- Whether the word sets a variable. -/
  isSetting : Bool := false

/-- The text between the arguments in the value of all of them, if they are put in at once. In
fields, a border keeps them apart where no separator does. -/
def argumentGlue (session : Session) (place : Surroundings) (isQuoted : Bool) (name : String) :
    String :=
  let border := String.singleton argumentBorder
  if name = "@" && isQuoted && place.isDivided then border
  else
    match session.separators.toList.head? with
    | some c => String.singleton c
    | none => if isQuoted || !place.isDivided then "" else border

/-- The value of a parameter, if it has one. -/
def parameterValue? (session : Session) (place : Surroundings) (isQuoted : Bool) (name : String) :
    Option String :=
  match name with
  | "@" | "*" =>
      some (String.intercalate (argumentGlue session place isQuoted name) session.arguments)
  | "#" => some (toString session.arguments.length)
  | "?" => some (toString session.status)
  | "$" => some (toString session.script)
  | "!" => session.lastJob.map toString
  | "-" => some (String.ofList (session.settings.filter Char.isAlpha))
  | "0" => some session.name
  | name =>
      match name.toNat? with
      | some place => if place = 0 then some session.name else session.arguments[place - 1]?
      | none => session.valueOf? name

/-- The items of a value that is put in. -/
def valueItems (isQuoted : Bool) (value : String) : List Item :=
  value.toList.map fun c =>
    if c == argumentBorder then .gap else .char c (!isQuoted) (!isQuoted)

/-- The items of a value with the start of their region, which a quoted value has only if it is made
of arguments. -/
def regionOf (session : Session) (name : String) (isQuoted : Bool) (value : String) : List Item :=
  let items := valueItems isQuoted value
  if !isQuoted then .region false :: items
  else if name = "@" && !session.arguments.isEmpty then .region true :: items
  else items

def unsetMessage (name : String) (emptyIsMissing : Bool) : String :=
  name ++ ": parameter not set" ++ (if emptyIsMissing then " or null" else "")

/-- The output of commands without the line ends behind it. -/
def withoutLastLineEnds (octets : String) : String :=
  let chars := octets.toList.filter (· != '\x00')
  String.ofList (chars.reverse.dropWhile (· == '\n')).reverse

/-- The home directory that a tilde stands for. -/
def homeOf? (session : Session) (user : List Char) : Option String :=
  match String.ofList user with
  | "" => session.valueOf? "HOME"
  | "root" => some "/root"
  | _ => none

/-- A word that starts behind a tilde with that tilde replaced, if it names a home directory. -/
def behindTilde (session : Session) (isSetting : Bool) (rest : Word) : Option Word := do
  let ends := fun c : Char => c == '/' || (isSetting && c == ':')
  let start := plainStart rest
  let user := start.takeWhile fun c => !ends c
  let behind := rest.drop user.length
  guard (user.length < start.length || behind.isEmpty)
  let home ← homeOf? session user
  return home.toList.map Part.escaped ++ behind

/-- A word with the tildes replaced that start it; in a setting, also those behind its equals sign
and behind colons. -/
def replaceTildes (session : Session) (isSetting : Bool) : Nat → Bool → Word → Word
  | 0, _, word => word
  | _ + 1, _, [] => []
  | fuel + 1, isStart, .plain '~' :: rest =>
      let replaced :=
        if isStart then (behindTilde session isSetting rest).getD (.plain '~' :: rest)
        else .plain '~' :: rest
      if !isSetting then replaced
      else replaced.take 1 ++ replaceTildes session isSetting fuel false (replaced.drop 1)
  | fuel + 1, _, part :: rest =>
      if !isSetting then part :: rest
      else
        let isStart :=
          match part with
          | .plain c => c == ':'
          | _ => false
        part :: replaceTildes session isSetting fuel isStart rest

/-- The words of a setting: its name with the equals sign, and its value. -/
def settingParts (word : Word) : Word × Word :=
  let name := (plainStart word).takeWhile isNameChar
  (word.take (name.length + 1), word.drop (name.length + 1))

def withTildes (session : Session) (isSetting : Bool) (word : Word) : Word :=
  if isSetting then
    let (name, value) := settingParts word
    name ++ replaceTildes session true (value.length + 1) true value
  else replaceTildes session false 1 true word

/-- Whether something is put in that a parameter is not asked for: it has no value, or an empty one
where that counts as none. -/
def isMissing (emptyIsMissing : Bool) (value? : Option String) : Bool :=
  match value? with
  | none => true
  | some value => emptyIsMissing && value.isEmpty

section

variable (outputOf : Command → Act String)

mutual

/-- The items that a part of a word leaves. -/
def expandPart (fuel : Nat) (place : Surroundings) (part : Part) : Act (List Item) := do
  match fuel, part with
  | 0, _ => throw .exhausted
  | _ + 1, .plain c => return [.char c true place.isOperand]
  | _ + 1, .escaped c => return [.char c false false]
  | _ + 1, .mark => return [.mark]
  | fuel + 1, .parameter name operation operand isQuoted =>
      let session ← get
      let value? := parameterValue? session place isQuoted name
      let whole := fun (value : String) => do
        return regionOf (← get) name isQuoted value
      let known : Act String := do
        match value? with
        | some value => return value
        | none => if session.hasSetting 'u' then fail (unsetMessage name false) else return ""
      let within := { place with isOperand := !isQuoted, isSetting := false }
      match operation with
      | .invalid => fail "Bad substitution"
      | .value => whole (← known)
      | .length => whole (toString (← known).length)
      | .trim fromEnd isLongest =>
          let value := (← known).toList
          let pattern := patternOf (← expandWord fuel {} operand)
          let trimmed :=
            if fromEnd then dropEnd isLongest pattern value
            else dropBeginning isLongest pattern value
          whole (String.ofList trimmed)
      | .otherwise emptyIsMissing =>
          if isMissing emptyIsMissing value? then expandWord fuel within operand
          else whole (value?.getD "")
      | .instead emptyIsMissing =>
          if isMissing emptyIsMissing value? then whole "" else expandWord fuel within operand
      | .assign emptyIsMissing =>
          if isMissing emptyIsMissing value? then
            let text := textOf (← expandWord fuel {} operand)
            unless isName name do fail (name ++ ": bad variable name")
            setVariable name text
            whole text
          else whole (value?.getD "")
      | .demand emptyIsMissing =>
          if isMissing emptyIsMissing value? then
            if operand.isEmpty then fail (unsetMessage name emptyIsMissing)
            else fail (name ++ ": " ++ textOf (← expandWord fuel {} operand))
          else whole (value?.getD "")
  | _ + 1, .output body isQuoted =>
      let text := withoutLastLineEnds (← outputOf body)
      return (if isQuoted then [] else [.region false]) ++ valueItems isQuoted text
  | fuel + 1, .expression text isQuoted =>
      let value ← evaluateExpression (textOf (← expandParts fuel {} false text))
      return (if isQuoted then [] else [.region false]) ++ valueItems isQuoted (toString value)

/-- The items that the parts of a word leave. A run of plain characters that may separate fields is
a region of its own. -/
def expandParts (fuel : Nat) (place : Surroundings) (isRunning : Bool) (parts : List Part) :
    Act (List Item) := do
  match fuel, parts with
  | 0, _ => throw .exhausted
  | _ + 1, [] => return []
  | fuel + 1, part :: rest =>
      let isPlain :=
        match part with
        | .plain _ => place.isOperand
        | _ => false
      let items ← expandPart fuel place part
      let later ← expandParts fuel place isPlain rest
      return (if isPlain && !isRunning then [.region false] else []) ++ items ++ later

/-- The items that a word leaves. -/
def expandWord (fuel : Nat) (place : Surroundings) (word : Word) : Act (List Item) := do
  match fuel with
  | 0 => throw .exhausted
  | fuel + 1 => expandParts fuel place false (withTildes (← get) place.isSetting word)

end

end

end HingeField.Shell
