import HingeField.Shell.Octets
import HingeField.Shell.Pattern
import HingeField.Text.Letter

/-!
Regular expressions and the places of a text that they lead to.

The first place where an expression matches counts, and there the longest match, or
the first way if ways are ordered. Of several ways to one place the first counts, in
the order in which the expression names them: repetitions take as much as they can.
-/

namespace HingeField.Shell.Utility

/-- A member of a set of characters. -/
inductive Member where
  | range (low high : Char)
  | named (name : String)
  /-- The characters outside a class. -/
  | outside (name : String)
deriving DecidableEq

structure CharSet where
  isNegated : Bool
  members : List Member
  ignoresCase : Bool := false
deriving DecidableEq

inductive Regex where
  | nothing
  | char (c : Char)
  | any
  | set (members : CharSet)
  | both (first second : Regex)
  | either (first second : Regex)
  | repeated (body : Regex) (least : Nat) (most : Option Nat)
  /-- As many rounds as must be, and more only for want of a match. -/
  | sparing (body : Regex) (least : Nat) (most : Option Nat)
  /-- The first way through the body and no other. -/
  | settled (body : Regex)
  | group (number : Nat) (body : Regex)
  | reference (number : Nat)
  /-- Whether the body fits ahead or behind of a place. -/
  | look (isAhead isNegated : Bool) (body : Regex)
  /-- The match is to start here. -/
  | cut
  | lineStart
  | lineEnd
  | textStart
  | textEnd
  | wordStart
  | wordEnd
  | wordBorder
  | noWordBorder

/-- The number of groups in an expression. -/
def Regex.groupCount : Regex → Nat
  | .both first second => first.groupCount + second.groupCount
  | .either first second => first.groupCount + second.groupCount
  | .repeated body _ _ => body.groupCount
  | .sparing body _ _ => body.groupCount
  | .settled body => body.groupCount
  | .group _ body => body.groupCount + 1
  | .look _ _ body => body.groupCount
  | _ => 0

/-- An expression that stands for its own characters. -/
def Regex.ofChars (chars : List Char) : Regex :=
  chars.foldr (fun c rest => .both (.char c) rest) .nothing

/-! ### Classes of characters -/

/-- Whether a character belongs to a named class. Of a text of bytes, only common letters do. -/
def isOfClass? (isNarrow : Bool) (name : String) (c : Char) : Option Bool :=
  if c < '\x80' || isNarrow then inClass? name c
  else
    let isVisible := Text.isPrintable c || c == '\u00a0'
    match name with
    | "alpha" | "alnum" => some (Text.isLetter c)
    | "upper" => some (Text.isUpperLetter c)
    | "lower" => some (Text.isLowerLetter c)
    | "space" => some (Text.isWideSpace c || c == '\u2028' || c == '\u2029')
    | "blank" => some (Text.isWideSpace c)
    | "punct" => some (isVisible && !Text.isLetter c && !Text.isWideSpace c)
    | "print" => some (isVisible || Text.isWideSpace c)
    | "graph" => some (isVisible && !Text.isWideSpace c)
    | "cntrl" => some (c < '\u00a0' || c == '\u2028' || c == '\u2029')
    | "digit" | "xdigit" => some false
    | _ => none

namespace CharSet

def wordSet (isNegated : Bool) : CharSet :=
  { isNegated, members := [.named "alnum", .range '_' '_'] }

def classSet (name : String) (isNegated : Bool) : CharSet :=
  { isNegated, members := [.named name] }

def hasMember (isNarrow : Bool) (c : Char) : Member → Bool
  | .range low high => low ≤ c && c ≤ high
  | .named name => (isOfClass? isNarrow name c).getD false
  | .outside name => !(isOfClass? isNarrow name c).getD false

/-- Whether a character is in a set; without regard to case, if the other case of it is. -/
def contains (set : CharSet) (isNarrow ignoresCase : Bool) (c : Char) : Bool :=
  let found := fun c => set.members.any (hasMember isNarrow c)
  let eitherCase := ignoresCase || set.ignoresCase
  (found c || (eitherCase && (found (Text.lowerChar c) || found (Text.upperChar c)))) !=
    set.isNegated

end CharSet

/-! ### Matching -/

/-- A place reached, and the groups matched on the way with their bounds. -/
structure Reached where
  place : Nat
  groups : List (Nat × Nat × Nat) := []
  /-- Where the match is to start, if not where the way has started. -/
  cut? : Option Nat := none

/-- How an expression is matched against a text. -/
structure Matching where
  text : Array Char
  ignoresCase : Bool := false
  /-- Whether a line of several starts behind, and ends in front of, each line feed. -/
  isManyLined : Bool := false
  /-- Whether the first way counts, not the longest. -/
  isOrdered : Bool := false
  /-- Whether characters are bytes, of which only common letters belong to classes. -/
  isNarrow : Bool := false

/-- The first of neighbours at the same place. -/
def firstAtEach : List (Reached × Nat) → List (Reached × Nat)
  | first :: second :: rest =>
      if first.1.place = second.1.place then firstAtEach (first :: rest)
      else first :: firstAtEach (second :: rest)
  | ways => ways
termination_by ways => ways.length

/-- The first of the ways to each place, in the order they are in. -/
def best (ways : List Reached) : List Reached :=
  match ways with
  | [] => []
  | [way] => [way]
  | ways =>
      let byPlace := ways.zipIdx.mergeSort fun first second => second.1.place ≤ first.1.place
      let distinct := (firstAtEach byPlace).mergeSort fun first second => first.2 ≤ second.2
      distinct.map (·.1)

/-- The first of the ways that lead farthest. -/
def farthest? : List Reached → Option Reached
  | [] => none
  | first :: rest =>
      some (rest.foldl
        (fun (best way : Reached) => if best.place < way.place then way else best) first)

namespace Matching

variable (matching : Matching)

def charAt? (place : Nat) : Option Char :=
  matching.text[place]?

def isWordChar (c : Char) : Bool :=
  c == '_' || (isOfClass? matching.isNarrow "alnum" c).getD false

def isWordAt (place : Nat) : Bool :=
  (matching.charAt? place).any matching.isWordChar

def isWordBefore (place : Nat) : Bool :=
  0 < place && matching.isWordAt (place - 1)

def sameChar (first second : Char) : Bool :=
  first == second ||
    (matching.ignoresCase &&
      (Text.lowerChar first == Text.lowerChar second ||
        Text.upperChar first == Text.upperChar second))

/-- Goes on from a place if a condition holds there. -/
def onlyIf (holds : Bool) (way : Reached) : List Reached :=
  if holds then [way] else []

/-- The characters that an expression for single characters fits. -/
def fits? : Regex → Option (Char → Bool)
  | .char c => some (matching.sameChar c)
  | .any => some fun c => !isByteSign c
  | .set members => some fun c =>
      !isByteSign c && members.contains matching.isNarrow matching.ignoresCase c
  | _ => none

def step (way : Reached) (fits : Char → Bool) : List Reached :=
  if (matching.charAt? way.place).any fits then [{ way with place := way.place + 1 }] else []

/-- How many characters from a place on fit, up to a limit. -/
def runLength (fits : Char → Bool) (place : Nat) : Nat → Nat → Nat
  | 0, count => count
  | fuel + 1, count =>
      if (matching.charAt? (place + count)).any fits then runLength fits place fuel (count + 1)
      else count

/-- The ways through a repetition of single characters, the longest first. -/
def runs (fits : Char → Bool) (least : Nat) (most : Option Nat) (way : Reached) : List Reached :=
  let longest := matching.runLength fits way.place (most.getD matching.text.size) 0
  (List.range (longest + 1 - least)).map fun shorter =>
    { way with place := way.place + (longest - shorter) }

/-- The ways through the text of a group matched before. -/
def repeatGroup (number : Nat) (way : Reached) : List Reached :=
  match way.groups.lookup number with
  | none => []
  | some (start, stop) =>
      let same := (List.range (stop - start)).all fun offset =>
        match matching.charAt? (start + offset), matching.charAt? (way.place + offset) with
        | some first, some second => matching.sameChar first second
        | _, _ => false
      onlyIf same { way with place := way.place + (stop - start) }

/-- The ways through a repetition: one round after the other as far as they go, or none first if it
is sparing. Each place is gone on from once. -/
def rounds (isSparing : Bool) (body : Reached → List Reached) (least : Nat)
    (most : Option Nat) : Nat → Nat → Reached → StateM (List (Nat × Nat)) (List Reached)
  | 0, _, _ => return []
  | fuel + 1, count, way => do
      let key := (way.place, if most.isSome || count < least then count else least)
      if (← get).contains key then return []
      modify (key :: ·)
      let here := onlyIf (least ≤ count) way
      let mut further : List Reached := []
      unless most == some count do
        for next in body way do
          further := further ++
            (← rounds isSparing body least most fuel (count + 1) next)
      return if isSparing then here ++ further else further ++ here

/-- The ways through an expression from a place. -/
def ways : Regex → Reached → List Reached
  | .nothing, way => [way]
  | .char c, way => matching.step way (matching.sameChar c)
  | .any, way => matching.step way fun c => !isByteSign c
  | .set members, way =>
      matching.step way fun c =>
        !isByteSign c && members.contains matching.isNarrow matching.ignoresCase c
  | .both first second, way =>
      best ((ways first way).flatMap (ways second))
  | .either first second, way => best (ways first way ++ ways second way)
  | .repeated body least most, way =>
      match matching.fits? body with
      | some fits => matching.runs fits least most way
      | none =>
          let fuel := matching.text.size + least + 2
          best ((rounds false (ways body) least most fuel 0 way).run []).1
  | .sparing body least most, way =>
      let fuel := matching.text.size + least + 2
      best ((rounds true (ways body) least most fuel 0 way).run []).1
  | .settled body, way => (ways body way).take 1
  | .group number body, way =>
      (ways body way).map fun after =>
        { after with groups := (number, way.place, after.place) :: after.groups }
  | .reference number, way => matching.repeatGroup number way
  | .look true isNegated body, way =>
      match ways body way with
      | [] => onlyIf isNegated way
      | after :: _ => if isNegated then [] else [{ way with groups := after.groups }]
  | .look false isNegated body, way =>
      let isThere := (List.range (way.place + 1)).any fun start =>
        (ways body { way with place := start }).any fun after => after.place == way.place
      onlyIf (isThere != isNegated) way
  | .cut, way => [{ way with cut? := some way.place }]
  | .lineStart, way =>
      onlyIf (way.place == 0 ||
        (matching.isManyLined && matching.charAt? (way.place - 1) == some '\n')) way
  | .lineEnd, way =>
      onlyIf (way.place == matching.text.size ||
        (matching.isManyLined && matching.charAt? way.place == some '\n')) way
  | .textStart, way => onlyIf (way.place == 0) way
  | .textEnd, way => onlyIf (way.place == matching.text.size) way
  | .wordStart, way =>
      onlyIf (!matching.isWordBefore way.place && matching.isWordAt way.place) way
  | .wordEnd, way =>
      onlyIf (matching.isWordBefore way.place && !matching.isWordAt way.place) way
  | .wordBorder, way =>
      onlyIf (matching.isWordBefore way.place != matching.isWordAt way.place) way
  | .noWordBorder, way =>
      onlyIf (matching.isWordBefore way.place == matching.isWordAt way.place) way

/-- The match that counts of those that start at a place, with its bounds and groups. -/
def matchAt? (regex : Regex) (place : Nat) : Option (Nat × Reached) :=
  let ways := matching.ways regex { place }
  let way? := if matching.isOrdered then ways.head? else farthest? ways
  way?.map fun way => (way.cut?.getD place, way)

/-- The first match from a place on. -/
def find? (regex : Regex) (start : Nat) : Option (Nat × Reached) :=
  (List.range (matching.text.size + 1 - start)).findSome? fun offset =>
    matching.matchAt? regex (start + offset)

end Matching

/-- Whether an expression matches somewhere in a text. -/
def Regex.isIn (regex : Regex) (text : String) : Bool :=
  (Matching.find? { text := text.toList.toArray } regex 0).isSome

end HingeField.Shell.Utility
