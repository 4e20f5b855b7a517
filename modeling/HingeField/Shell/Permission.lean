import HingeField.Shell.Integer

/-!
Permissions as twelve bits, and changes of them by letters or octal digits: who
gets, loses or has exactly which of them.
-/

namespace HingeField.Shell

namespace Permission

/-- What a change does with permissions. -/
inductive Action where
  | add
  | remove
  | put
deriving DecidableEq

/-- Which permissions a change is about. -/
inductive Grant where
  | bits (bits : Nat) (executesSome : Bool)
  /-- Those that others have: the owner, the group or the rest, by the place of their bits. -/
  | like (shift : Nat)

structure Change where
  /-- The bits of those whom the change is for. -/
  affected : Nat
  /-- Whether the mask for new files holds off some of the bits. -/
  isMasked : Bool
  action : Action
  grant : Grant

/-- The bits of those whom a letter stands for. -/
def whoBits (letter : Char) : Nat :=
  match letter with
  | 'u' => 0o4700
  | 'g' => 0o2070
  | 'o' => 0o1007
  | _ => 0o7777

def action? (c : Char) : Option Action :=
  match c with
  | '+' => some .add
  | '-' => some .remove
  | '=' => some .put
  | _ => none

/-- The bits of letters for permissions, for everyone. -/
def letterBits? (letters : List Char) : Option Grant := do
  let bits ← letters.mapM fun letter =>
    match letter with
    | 'r' => some 0o444
    | 'w' => some 0o222
    | 'x' => some 0o111
    | 'X' => some 0
    | 's' => some 0o6000
    | 't' => some 0o1000
    | _ => none
  return .bits (bits.foldl (· ||| ·) 0) (letters.contains 'X')

def grant? (letters : List Char) : Option Grant :=
  match letters with
  | ['u'] => some (.like 6)
  | ['g'] => some (.like 3)
  | ['o'] => some (.like 0)
  | letters => letterBits? letters

/-- The changes behind the letters for those whom they are for. -/
def readActions (affected : Nat) (isMasked : Bool) : Nat → List Char → Option (List Change)
  | 0, _ => none
  | _ + 1, [] => some []
  | fuel + 1, c :: rest => do
      let action ← action? c
      let letters := rest.takeWhile fun c => (action? c).isNone
      let grant ← grant? letters
      let later ← readActions affected isMasked fuel (rest.drop letters.length)
      return { affected, isMasked, action, grant } :: later

/-- The changes of one clause. -/
def readClause (clause : List Char) : Option (List Change) :=
  let who := clause.takeWhile fun c => "ugoa".toList.contains c
  let rest := clause.drop who.length
  if rest.isEmpty then none
  else
    let affected :=
      if who.isEmpty then 0o7777 else (who.map whoBits).foldl (· ||| ·) 0
    readActions affected who.isEmpty (rest.length + 1) rest

/-- The changes that a text names, by octal digits or by letters. -/
def changes? (text : String) : Option (List Change) :=
  match readDigits 8 text.toList with
  | some (bits, []) =>
      if bits ≤ 0o7777 then
        some [{ affected := 0o7777, isMasked := false, action := .put, grant := .bits bits false }]
      else none
  | _ => (text.splitOn ",").foldlM
      (fun changes clause => do return changes ++ (← readClause clause.toList)) []

/-- Permissions after a change. Where nobody is named, the mask holds. -/
def Change.apply (mask : Nat) (isDirectory : Bool) (mode : Nat) (change : Change) : Nat :=
  let given :=
    match change.grant with
    | .bits bits executesSome =>
        let someone := isDirectory || mode &&& 0o111 != 0
        bits ||| (if executesSome && someone then 0o111 else 0)
    | .like shift => (mode >>> shift &&& 7) * 0o111
  let bits := given &&& change.affected
  let bits := if change.isMasked then bits - (bits &&& mask) else bits
  match change.action with
  | .add => mode ||| bits
  | .remove => mode - (mode &&& bits)
  | .put =>
      let kept := if isDirectory && change.affected &&& 0o6000 != 0o6000 then 0o6000 else 0
      let cleared := change.affected - (change.affected &&& kept)
      (mode - (mode &&& cleared)) ||| bits

/-- Permissions after changes, for a directory or another file, under a mask for new files. -/
def apply (changes : List Change) (mask : Nat) (isDirectory : Bool) (mode : Nat) : Nat :=
  changes.foldl (fun mode change => change.apply mask isDirectory mode) mode

/-- Permissions as nine letters, with those that replace the letter for execution. -/
def lettersOf (mode : Nat) : String :=
  let has := fun bit : Nat => mode &&& bit != 0
  let group := fun (shift special : Nat) (marked : Char) =>
    let bits := mode >>> shift &&& 7
    let last :=
      match has special, bits &&& 1 != 0 with
      | true, true => marked
      | true, false => marked.toUpper
      | false, true => 'x'
      | false, false => '-'
    [if bits &&& 4 != 0 then 'r' else '-', if bits &&& 2 != 0 then 'w' else '-', last]
  String.ofList (group 6 0o4000 's' ++ group 3 0o2000 's' ++ group 0 0o1000 't')

/-- Permissions in octal digits, at least so many of them. -/
def digitsOf (width mode : Nat) : String :=
  let digits := Nat.toDigits 8 mode
  String.ofList (List.replicate (width - digits.length) '0' ++ digits)

end Permission

end HingeField.Shell
