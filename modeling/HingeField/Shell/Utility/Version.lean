/-!
The order of names with version numbers in them. Runs of digits are compared as
numbers, and what lies between them character by character: the end before
letters, letters before other characters, and a tilde before everything, even
the end. Extensions count only where the rest of two names is the same.
-/

namespace HingeField.Shell.Utility.Version

/-- Where a character stands in the order; the end of a name has a place too. -/
def rank : List Char → Int
  | [] => -1
  | c :: _ =>
      if c.isDigit then 0
      else if c.isAlpha then c.toNat
      else if c == '~' then -2
      else c.toNat + 256

/-- Compares what stands in front of the next digits; returns what follows then. -/
def compareTexts : Nat → List Char → List Char → Except Ordering (List Char × List Char)
  | 0, first, second => .ok (first, second)
  | fuel + 1, first, second =>
      let isText := fun text : List Char => text.head?.any fun c => !c.isDigit
      if isText first || isText second then
        match compare (rank first) (rank second) with
        | .eq => compareTexts fuel (first.drop 1) (second.drop 1)
        | different => .error different
      else .ok (first, second)

/-- Compares the numbers that two texts start with. -/
def compareNumbers (first second : List Char) : Ordering :=
  let digits := fun text : List Char =>
    (text.takeWhile Char.isDigit).dropWhile (· == '0')
  let value := fun text : List Char => ((String.ofList (digits text)).toNat?).getD 0
  compare (value first) (value second)

/-- Compares texts and numbers in turn. -/
def compareParts : Nat → List Char → List Char → Ordering
  | 0, _, _ => .eq
  | _ + 1, [], [] => .eq
  | fuel + 1, first, second =>
      match compareTexts (first.length + second.length) first second with
      | .error different => different
      | .ok (first, second) =>
          match compareNumbers first second with
          | .eq =>
              compareParts fuel (first.dropWhile Char.isDigit) (second.dropWhile Char.isDigit)
          | different => different

/-- Whether a text is made of extensions: each a dot, a letter, and further letters and digits. -/
def isExtensions : Nat → List Char → Bool
  | 0, _ => false
  | _ + 1, [] => true
  | fuel + 1, '.' :: c :: rest =>
      (c.isAlpha || c == '~') &&
        isExtensions fuel (rest.dropWhile fun c => c.isAlphanum || c == '~')
  | _, _ => false

/-- A name without its extensions. -/
def stem (name : List Char) : List Char :=
  let places := (List.range (name.length + 1)).drop 1
  match places.find? fun place => isExtensions (name.length + 1) (name.drop place) with
  | some place => name.take place
  | none => name

/-- Where a name belongs that starts with a dot. -/
def dotRank (name : List Char) : Nat :=
  if name.isEmpty then 0
  else if name == ['.'] then 1
  else if name == ['.', '.'] then 2
  else if name.head? == some '.' then 3
  else 4

/-- Compares two names. -/
def compareNames (first second : List Char) : Ordering :=
  let fuel := first.length + second.length + 1
  match compare (dotRank first) (dotRank second) with
  | .eq =>
      match compareParts fuel (stem first) (stem second) with
      | .eq => compareParts fuel first second
      | different => different
  | different => different

end HingeField.Shell.Utility.Version
