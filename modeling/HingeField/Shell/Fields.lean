import HingeField.Shell.Pattern

/-!
What the parts of a word leave, and how it is divided into fields. Only what
has been put in unquoted is divided, region by region, at the characters that
separate words: separating blanks count together and are dropped where a field
starts, any other separator counts by itself.
-/

namespace HingeField.Shell

/-- What a part of a word leaves. A character may act as a sign of a pattern where it is active, and
may separate fields where it is loose. -/
inductive Item where
  | char (c : Char) (isActive : Bool) (isLoose : Bool)
  /-- Quotation marks, which keep a field that is empty otherwise. -/
  | mark
  /-- The border between two arguments. -/
  | gap
  /-- The start of a region that may be divided. Arguments in quotes are divided at gaps only, and
  all of them are kept. -/
  | region (isQuoted : Bool)
deriving DecidableEq

def itemsOf (isActive isLoose : Bool) (text : String) : List Item :=
  text.toList.map fun c => .char c isActive isLoose

/-- The pattern that items stand for. -/
def patternOf (items : List Item) : Pattern :=
  items.filterMap fun item : Item =>
    match item with
    | .char c isActive _ => some (c, isActive)
    | _ => none

/-- The text that items stand for. -/
def textOf (items : List Item) : String :=
  Pattern.text (patternOf items)

def isBlankSeparator (c : Char) : Bool :=
  c == ' ' || c == '\t' || c == '\n'

/-- How far a division has come: the fields that are complete, the current one, both backwards, and
what is known of the region. -/
structure Division where
  fields : List (List Item) := []
  current : List Item := []
  isQuoted : Bool := false
  wasQuoted : Bool := false
  /-- Whether the last separator was a blank. -/
  behindBlank : Bool := false
  /-- Whether a separator has been met and those that go with it are dropped. -/
  isSkipping : Bool := false

namespace Division

def keep (division : Division) (item : Item) : Division :=
  { division with current := item :: division.current, isSkipping := false }

/-- Meets a separator, which is a blank or is none. -/
def separate (division : Division) (isBlank : Bool) : Division :=
  let behindBlank :=
    if division.wasQuoted || division.isQuoted then division.behindBlank else isBlank
  if division.current.isEmpty && behindBlank then { division with behindBlank }
  else
    { division with
      fields := division.current.reverse :: division.fields
      current := []
      behindBlank
      isSkipping := !division.isQuoted }

/-- Meets a separator that may go with one before it. -/
def meet (division : Division) (isBlank : Bool) : Division :=
  if !division.isSkipping then division.separate isBlank
  else if isBlank then division
  else if division.behindBlank then { division with behindBlank := false }
  else { division with isSkipping := false }.separate isBlank

def step (separators : List Char) (division : Division) (item : Item) : Division :=
  match item with
  | .region isQuoted =>
      { division with
        isQuoted
        wasQuoted := division.isQuoted
        behindBlank := false
        isSkipping := false }
  | .gap => division.meet true
  | .char c _ true =>
      if separators.contains c && !division.isQuoted then division.meet (isBlankSeparator c)
      else division.keep item
  | .char _ _ false => division.keep item
  | .mark => division.keep item

end Division

/-- The fields that items are divided into. -/
def divide (separators : String) (items : List Item) : List (List Item) :=
  let division := items.foldl (Division.step separators.toList) {}
  let fields :=
    if division.isQuoted || !division.current.isEmpty then
      division.current.reverse :: division.fields
    else division.fields
  fields.reverse

/-! ### Words of an input line -/

/-- A character of an input line, and whether it may separate words. -/
abbrev LineChar := Char × Bool

def isSeparator (separators : List Char) (c : LineChar) : Bool :=
  c.2 && separators.contains c.1

def isSeparatingBlank (separators : List Char) (c : LineChar) : Bool :=
  isSeparator separators c && isBlankSeparator c.1

/-- What follows a word: separating blanks with at most one other separator among them. -/
def behindSeparator (separators : List Char) (line : List LineChar) : List LineChar :=
  let rest := line.dropWhile (isSeparatingBlank separators)
  match rest with
  | c :: later =>
      if isSeparator separators c then later.dropWhile (isSeparatingBlank separators) else rest
  | [] => []

/-- The words for so many names from a line. The last name takes all that is left, but for blanks at
the end, and for a separator that only ends the last word. -/
def lineWords (separators : List Char) : Nat → List LineChar → List (List LineChar)
  | 0, _ => []
  | count + 1, line =>
      let start := line.dropWhile (isSeparatingBlank separators)
      if start.isEmpty then []
      else
        let word := start.takeWhile fun c => !isSeparator separators c
        let rest := behindSeparator separators (start.drop word.length)
        if count = 0 && !rest.isEmpty then
          [(start.reverse.dropWhile (isSeparatingBlank separators)).reverse]
        else word :: lineWords separators count rest

end HingeField.Shell
