import HingeField.Shell.Integer
import HingeField.Shell.Session

/-!
The options of the commands that are part of the script's own language: letters
behind a dash, some of which take an argument.
-/

namespace HingeField.Shell

/-- The options and operands of a command. -/
structure Options where
  letters : List (Char × String) := []
  operands : List String := []

namespace Options

def has (options : Options) (letter : Char) : Bool :=
  options.letters.any fun option => option.1 == letter

def argument? (options : Options) (letter : Char) : Option String :=
  (options.letters.reverse.find? fun option => option.1 == letter).map (·.2)

/-- Options with another one in front of them. -/
def behind (letter : Char) (argument : String) (options : Options) : Options :=
  { options with letters := (letter, argument) :: options.letters }

end Options

/-- Why operands are no options of a command. -/
inductive OptionDefect where
  | unknown (letter : Char)
  | withoutArgument (letter : Char)

/-- Whether an option takes an argument: never, always, or only one that is attached to it. -/
inductive ArgumentNeed where
  | never
  | always
  | attached
deriving DecidableEq

/-- The argument that a letter takes if it is allowed: behind a letter stands a colon where it
always takes one, and a question mark where one may be attached to it. -/
def argumentNeed? (allowed : List Char) (letter : Char) : Option ArgumentNeed :=
  match allowed.dropWhile (· != letter) with
  | _ :: ':' :: _ => some .always
  | _ :: '?' :: _ => some .attached
  | _ :: _ => some .never
  | [] => none

/-- The options of one operand that starts with a dash; `none` as the last argument means that the
next operand is one. -/
def letterOptions (allowed : List Char) :
    List Char → Except OptionDefect (List (Char × Option String))
  | [] => return []
  | letter :: rest =>
      match argumentNeed? allowed letter with
      | none => throw (.unknown letter)
      | some .always =>
          return [(letter, if rest.isEmpty then none else some (String.ofList rest))]
      | some .attached => return [(letter, some (String.ofList rest))]
      | some .never => do return (letter, some "") :: (← letterOptions allowed rest)

/-- Reads the options in front of the operands. -/
def readOptions (allowed : List Char) : List String → Except OptionDefect Options
  | [] => return {}
  | operand :: rest =>
      match operand.toList with
      | ['-', '-'] => return { operands := rest }
      | '-' :: letter :: letters => do
          let read ← letterOptions allowed (letter :: letters)
          let complete := read.filterMap fun (letter, argument?) =>
            argument?.map fun argument => (letter, argument)
          match read.find? fun option => option.2.isNone, rest with
          | none, rest =>
              let later ← readOptions allowed rest
              return { later with letters := complete ++ later.letters }
          | some (letter, _), argument :: rest =>
              let later ← readOptions allowed rest
              return { later with letters := complete ++ (letter, argument) :: later.letters }
          | some (letter, _), [] => throw (.withoutArgument letter)
      | _ => return { operands := operand :: rest }

/-- The options and operands of a command; others than those allowed are refused. -/
def optionsOf (allowed : String) (operands : List String) : Act Options := do
  match readOptions allowed.toList operands with
  | .ok options => return options
  | .error (.unknown letter) => fail ("Illegal option -" ++ String.singleton letter)
  | .error (.withoutArgument letter) =>
      fail ("No arg for -" ++ String.singleton letter ++ " option")

/-- The number an operand gives, if it is one that can be counted to. -/
def countOf (operand : String) : Act Nat := do
  match decimal? operand with
  | some value =>
      if 0 ≤ value ∧ value < 0x80000000 then return value.toNat
      else fail ("Illegal number: " ++ operand)
  | none => fail ("Illegal number: " ++ operand)

end HingeField.Shell
