/-!
The commands of a script as trees, with the words they are made of. What a word
puts in for a parameter, for the output of commands or for an expression is
part of its tree.
-/

namespace HingeField.Shell

/-- What is done with the value of a parameter. Where empty values count as missing, a parameter
with an empty value is treated as one without a value. -/
inductive Operation where
  | value
  | length
  | otherwise (emptyIsMissing : Bool)
  | instead (emptyIsMissing : Bool)
  | assign (emptyIsMissing : Bool)
  | demand (emptyIsMissing : Bool)
  | trim (fromEnd : Bool) (isLongest : Bool)
  | invalid
deriving DecidableEq

/-- How a redirection leads a descriptor. -/
inductive RedirectionKind where
  | read
  | write
  | clobber
  | append
  | readWrite
  | copy
  | document (number : Nat)
deriving DecidableEq

mutual

/-- A part of a word. A quotation mark keeps a word that is empty otherwise. -/
inductive Part where
  | plain (c : Char)
  | escaped (c : Char)
  | mark
  | parameter (name : String) (operation : Operation) (operand : List Part) (isQuoted : Bool)
  | output (body : Command) (isQuoted : Bool)
  | expression (text : List Part) (isQuoted : Bool)

inductive Redirection where
  | mk (descriptor : Nat) (kind : RedirectionKind) (target : List Part)

/-- A command, with the line it stands on where its faults name one. -/
inductive Command where
  | nothing
  | simple (line : Nat) (settings : List (List Part)) (words : List (List Part))
      (redirections : List Redirection)
  | pipeline (parts : List Command) (isBackground : Bool)
  | background (line : Nat) (body : Command)
  | redirected (line : Nat) (body : Command) (redirections : List Redirection)
  | apart (line : Nat) (body : Command) (redirections : List Redirection)
  | sequence (first second : Command)
  | onSuccess (first second : Command)
  | onFailure (first second : Command)
  | negated (body : Command)
  | conditional (condition body otherwise : Command)
  | repeated (untilSuccess : Bool) (condition body : Command)
  | forEach (line : Nat) (name : String) (words : List (List Part)) (body : Command)
  | choice (line : Nat) (subject : List Part) (arms : List (List (List Part) × Command))
  | define (line : Nat) (name : String) (body : Command)

end

abbrev Word := List Part

def Redirection.descriptor : Redirection → Nat
  | .mk descriptor _ _ => descriptor

def Redirection.kind : Redirection → RedirectionKind
  | .mk _ kind _ => kind

def Redirection.target : Redirection → Word
  | .mk _ _ target => target

/-- The name of a simple command that is written in letters without a further meaning. -/
def Command.plainName? : Command → Option String
  | .simple _ _ (word :: _) _ => do
      let letters ← word.mapM fun
        | .plain c => if c.isAlphanum || c == '_' then some c else none
        | _ => none
      if letters.isEmpty || (letters.head?.any Char.isDigit) then none
      else some (String.ofList letters)
  | _ => none

def Command.isNothing : Command → Bool
  | .nothing => true
  | _ => false

/-- The text of a word without quotes and without anything put in. -/
def plainText? (word : Word) : Option String :=
  (word.mapM fun part : Part =>
    match part with
    | .plain c => some c
    | _ => none).map String.ofList

def isNameStart (c : Char) : Bool :=
  c.isAlpha || c == '_'

def isNameChar (c : Char) : Bool :=
  c.isAlphanum || c == '_'

def isName (text : String) : Bool :=
  match text.toList with
  | c :: rest => isNameStart c && rest.all isNameChar
  | [] => false

/-- The characters that name a parameter on their own. -/
def isSpecialParameter (c : Char) : Bool :=
  "#@*?$!-0123456789".toList.contains c

/-- The plain characters a word starts with. -/
def plainStart : Word → List Char
  | .plain c :: rest => c :: plainStart rest
  | _ => []

/-- Whether a word sets a variable: it starts with a name and an equals sign, both unquoted. -/
def isSetting (word : Word) : Bool :=
  let start := plainStart word
  let name := start.takeWhile isNameChar
  isName (String.ofList name) && (start.drop name.length).head? == some '='

end HingeField.Shell
