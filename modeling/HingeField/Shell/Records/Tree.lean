import HingeField.Shell.Utility.Regex

/-!
Programs for records: rules with patterns that select records, actions of
statements, and functions. Variables are numbered; those of a function have numbers
of their own.
-/

namespace HingeField.Shell.Records

/-- A variable or table. -/
inductive Name where
  | shared (number : Nat)
  /-- A parameter of the function at hand. -/
  | own (number : Nat)
deriving DecidableEq

inductive Operator where
  | add
  | subtract
  | multiply
  | divide
  | remainder
  | power

inductive Comparison where
  | less
  | atMost
  | equal
  | different
  | atLeast
  | greater

/-- What functions there are in every program. -/
inductive Builtin where
  | length
  | index
  | substring
  | split
  | substitute (isGlobal : Bool)
  | findMatch
  | format
  | upper
  | lower
  | integral
  | sine
  | cosine
  | arctangent
  | exponential
  | logarithm
  | root
  | random
  | seed
  | system
  | close
  | flush
  | time
  | showTime
  | makeTime

inductive Expr where
  | number (value : Float)
  | text (octets : String)
  /-- Whether an expression fits the record. -/
  | regex (regex : Utility.Regex)
  | name (name : Name)
  | element (table : Name) (key : List Expr)
  | field (number : Expr)
  /-- The number of fields. -/
  | fieldCount
  | assign (operator? : Option Operator) (target value : Expr)
  /-- Adds one, or takes it away, before the value is taken or behind. -/
  | step (isBefore isUp : Bool) (target : Expr)
  | choice (condition yes no : Expr)
  | both (first second : Expr)
  | either (first second : Expr)
  | not (operand : Expr)
  | minus (operand : Expr)
  | plus (operand : Expr)
  | arithmetic (operator : Operator) (first second : Expr)
  | compare (comparison : Comparison) (first second : Expr)
  | join (first second : Expr)
  | fits (isNegated : Bool) (subject pattern : Expr)
  | isKey (key : List Expr) (table : Name)
  | call (function : Nat) (arguments : List Expr)
  | builtin (function : Builtin) (arguments : List Expr)
  /-- Takes a line of the input, for the record or another target. -/
  | take (target? : Option Expr)
  | takeOf (file : Expr) (target? : Option Expr)
  | takeFrom (command : Expr) (target? : Option Expr)

/-- Where output goes. -/
inductive Destination where
  | file
  | fileEnd
  | command
deriving DecidableEq

inductive Statement where
  | compute (expr : Expr)
  | print (items : List Expr) (target? : Option (Destination × Expr))
  | printFormatted (items : List Expr) (target? : Option (Destination × Expr))
  | block (body : List Statement)
  | select (condition : Expr) (yes no : Statement)
  | loop (condition : Option Expr) (step : Option Expr) (body : Statement)
  | loopAfter (body : Statement) (condition : Expr)
  | forEach (target : Expr) (table : Name) (body : Statement)
  | leaveLoop
  | repeatLoop
  | nextRecord
  | nextFile
  | leave (status? : Option Expr)
  | give (value? : Option Expr)
  | erase (table : Name) (key : List Expr)
  | eraseAll (table : Name)

/-- Which records an action is for. -/
inductive Guard where
  | always
  | when (condition : Expr)
  | between (number : Nat) (first last : Expr)

structure Rule where
  guard : Guard
  action : List Statement

structure Function where
  name : String
  /-- How many parameters it has, and whether it is defined. -/
  arity : Nat := 0
  isDefined : Bool := false
  body : List Statement := []

structure Program where
  beginnings : List (List Statement) := []
  rules : List Rule := []
  endings : List (List Statement) := []
  functions : Array Function := #[]
  /-- The names of the shared variables. -/
  names : Array String := #[]

/-! ### Variables with a meaning -/

/-- The variables that every program has, in the order of their numbers. -/
def knownNames : List String :=
  ["NR", "FNR", "FS", "RS", "OFS", "ORS", "SUBSEP", "CONVFMT", "OFMT", "FILENAME", "RSTART",
    "RLENGTH", "ENVIRON", "ARGC", "ARGV"]

def numberOf (name : String) : Nat :=
  (knownNames.idxOf? name).getD 0

/-- Whether a variable that every program has is a table. -/
def isKnownTable (name : String) : Bool :=
  name == "ENVIRON" || name == "ARGV"

end HingeField.Shell.Records
