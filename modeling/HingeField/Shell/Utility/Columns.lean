import HingeField.Shell.Escape
import HingeField.Shell.Utility.Desk

/-!
The commands that keep parts of each line, and those that replace, delete or
squeeze characters one by one.
-/

namespace HingeField.Shell.Utility

/-! ### Parts of lines -/

/-- Positions from a first one up to a last one, or to the end. -/
structure Span where
  first : Nat
  last : Option Nat

def Span.contains (span : Span) (position : Nat) : Bool :=
  span.first ≤ position && span.last.all fun last => position ≤ last

/-- Reads one span of a list. -/
def readSpan (kind : String) (text : String) : Except String Span :=
  let numberOf := fun chars : List Char => (String.ofList chars).toNat?
  let fromOne := if kind = "field" then "fields are numbered from 1"
    else "byte/character positions are numbered from 1"
  let invalid := "invalid " ++ kind ++ (if kind = "field" then " value " else " ") ++
    inCurlyQuotes text
  let first := text.toList.takeWhile (· != '-')
  match text.toList.drop first.length with
  | [] =>
      match numberOf first with
      | some 0 => .error fromOne
      | some number => .ok { first := number, last := some number }
      | none => .error (if first.isEmpty then fromOne else invalid)
  | _ :: last =>
      match first, last, numberOf first, numberOf last with
      | [], [], _, _ => .error "invalid range with no endpoint: -"
      | [], _, _, some 0 => .error "invalid decreasing range"
      | [], _, _, some high => .ok { first := 1, last := some high }
      | _, _, some 0, _ => .error fromOne
      | _, [], some low, _ => .ok { first := low, last := none }
      | _, _, some low, some high =>
          if high < low then .error "invalid decreasing range"
          else .ok { first := low, last := some high }
      | _, _, _, _ => .error invalid

def readSpans (kind : String) (list : String) : Except String (List Span) :=
  let pieces := (list.split fun c => c == ',' || c == ' ' || c == '\t').toList
  pieces.mapM fun piece => readSpan kind piece.toString

/-- Adjacent kept positions, with what separates groups of them that are not adjacent. -/
def keptChars (isKept : Nat → Bool) (isStart : Nat → Bool) (glue : String) (text : List Char) :
    String :=
  let step := fun (output : String) (entry : Char × Nat) =>
    let (c, place) := entry
    let position := place + 1
    if !isKept position then output
    else (if !output.isEmpty && isStart position then output ++ glue else output).push c
  text.zipIdx.foldl step ""

def cutNames : LongNames :=
  [("bytes", 'b'), ("characters", 'c'), ("fields", 'f'), ("delimiter", 'd'),
    ("only-delimited", 's'), ("complement", 'C'), ("output-delimiter", 'O')]

/-- The fields of a line that are kept; a line without a delimiter is kept as a whole. -/
def cutFields (delimiter : Char) (glue : String) (isKept : Nat → Bool) (dropsOthers : Bool)
    (text : String) : Option String :=
  if !text.contains delimiter then if dropsOthers then none else some text
  else
    let fields := (text.split (· == delimiter)).toList.map fun piece => piece.toString
    let kept := fields.zipIdx.filterMap fun (field, place) =>
      if isKept (place + 1) then some field else none
    some (String.intercalate glue kept)

def cutLines (operands : List String) : Work Unit :=
  withOptions "b:c:f:d:snz CO:" cutNames 1 operands fun options => do
    let lists := options.letters.filter fun option => "bcf".toList.contains option.1
    let delimiter := (options.argument? 'd').getD "\t"
    match lists with
    | [] => misuse 1 "you must specify a list of bytes, characters, or fields"
    | _ :: _ :: _ => misuse 1 "only one list may be specified"
    | [(letter, list)] =>
        let isField := letter == 'f'
        match readSpans (if isField then "field" else "byte/character position") list with
        | .error text => misuse 1 text
        | .ok spans =>
            if 1 < delimiter.length then misuse 1 "the delimiter must be a single character"
            else if !isField && (options.argument? 'd').isSome then
              misuse 1 "an input delimiter may be specified only when operating on fields"
            else if !isField && options.has 's' then
              misuse 1
                "suppressing non-delimited lines makes sense\n\tonly when operating on fields"
            else
              let isChosen := fun position => spans.any fun span => span.contains position
              let isKept := fun position => isChosen position != options.has 'C'
              let separator := (delimiter.toList.head?).getD '\x00'
              let glue := (options.argument? 'O').getD (String.singleton separator)
              let isStart := fun position =>
                (options.argument? 'O').isSome &&
                  ((spans.any fun span => span.first = position &&
                    !spans.any fun other => other.first < position && other.contains position) ||
                    !isKept (position - 1))
              let lineEnd := if options.has 'z' then "\x00" else "\n"
              forEachInputLineBy (if options.has 'z' then 0 else 10) 1 shownName options.operands
                fun text => do
                let text := if text.endsWith lineEnd then (text.dropEnd 1).toString else text
                if isField then
                  match cutFields separator glue isKept (options.has 's') text with
                  | some kept => put (kept ++ lineEnd)
                  | none => pure ()
                else put (keptChars isKept isStart glue text.toList ++ lineEnd)

/-! ### Characters -/

/-- A member of a list of characters. -/
inductive Listed where
  | chars (chars : List Char)
  | filled (c : Char)

/-- A character of a list, past a backslash, and the rest. -/
def listedChar : List Char → Option (Char × List Char)
  | '\\' :: rest =>
      match rest with
      | [] => some ('\\', [])
      | c :: behind =>
          match controlOf? c with
          | some control => if c == 'e' then some (c, behind) else some (control, behind)
          | none =>
              if (octalDigit? c).isSome then some (readOctal 3 rest) else some (c, behind)
  | c :: rest => some (c, rest)
  | [] => none

def charsFrom (low high : Char) : List Char :=
  (List.range (high.toNat + 1 - low.toNat)).map fun offset => Char.ofNat (low.toNat + offset)

/-- The characters of a class, in order. -/
def classChars? (name : String) : Option (List Char) :=
  if (inClass? name 'a').isNone then none
  else
    some <| (charsFrom '\x00' (Char.ofNat 255)).filter fun c =>
      c.toNat < 128 && (inClass? name c).getD false

/-- A character with a count behind it, between brackets. -/
def readFilled? (text : List Char) : Option (Listed × List Char) := do
  let (c, rest) ← listedChar text
  match rest with
  | '*' :: rest =>
      let digits := rest.takeWhile Char.isDigit
      match rest.drop digits.length with
      | ']' :: rest =>
          let base := if digits.head? == some '0' then 8 else 10
          let count := ((readDigits base digits).map (·.1)).getD 0
          if count = 0 then return (.filled c, rest)
          else return (.chars (List.replicate count c), rest)
      | _ => none
  | _ => none

def readListed : Nat → List Char → Except String (List Listed)
  | 0, _ => .ok []
  | _ + 1, [] => .ok []
  | fuel + 1, text => do
      match text with
      | '[' :: ':' :: rest =>
          let name := rest.takeWhile (· != ':')
          match rest.drop name.length with
          | ':' :: ']' :: behind =>
              match classChars? (String.ofList name) with
              | some chars => return .chars chars :: (← readListed fuel behind)
              | none => .error ("invalid character class " ++ inCurlyQuotes (String.ofList name))
          | _ => readPlain fuel text
      | '[' :: '=' :: c :: '=' :: ']' :: rest => return .chars [c] :: (← readListed fuel rest)
      | '[' :: rest =>
          match readFilled? rest with
          | some (listed, rest) => return listed :: (← readListed fuel rest)
          | none => readPlain fuel text
      | text => readPlain fuel text
where
  readPlain (fuel : Nat) (text : List Char) : Except String (List Listed) := do
    match fuel, listedChar text with
    | 0, _ => .ok []
    | _, none => .ok []
    | fuel + 1, some (low, rest) =>
        match rest with
        | '-' :: next :: _ =>
            match listedChar (rest.drop 1) with
            | some (high, behind) =>
                if high < low then
                  .error ("range-endpoints of '" ++ String.singleton low ++ "-" ++
                    String.singleton next ++ "' are in reverse collating sequence order")
                else return .chars (charsFrom low high) :: (← readListed fuel behind)
            | none => return .chars [low] :: (← readListed fuel rest)
        | rest => return .chars [low] :: (← readListed fuel rest)

/-- The characters of a list, which is filled up to a length where it says so. -/
def filledTo (length : Nat) (listed : List Listed) : List Char :=
  let known := (listed.map fun part : Listed =>
    match part with
    | .chars chars => chars.length
    | .filled _ => 0).foldl (· + ·) 0
  listed.flatMap fun part : Listed =>
    match part with
    | .chars chars => chars
    | .filled c => List.replicate (length - known) c

/-- What a character is replaced by: the one at its last place in the other list, whose last one
stands in for those that are missing. -/
def replacementOf (source target : List Char) (c : Char) : Char :=
  let places := source.zipIdx.filter fun entry => entry.1 == c
  match places.getLast? with
  | some (_, place) => (target[place]?).getD (target.getLastD c)
  | none => c

/-- What is done with each byte. -/
structure Translation where
  isDeleted : Array Bool
  replacement : Array UInt8
  isSqueezed : Array Bool

/-- Bytes under a translation, behind a byte if there is one before them. -/
def Translation.apply (translation : Translation) (before? : Option UInt8)
    (content : ByteArray) : Option UInt8 × ByteArray :=
  content.foldl
    (fun (before?, output) byte =>
      if translation.isDeleted.getD byte.toNat false then (before?, output)
      else
        let byte := translation.replacement.getD byte.toNat byte
        if before? == some byte && translation.isSqueezed.getD byte.toNat false then
          (before?, output)
        else (some byte, output.push byte))
    (before?, ByteArray.empty)

/-- Translates what is read as it comes. -/
def translateInput (translation : Translation) : Nat → Option UInt8 → Work Unit
  | 0, _ => pure ()
  | fuel + 1, before? => do
      match ← Course.read 0 8192 with
      | .error fault => warn 1 ("read error: " ++ faultText fault)
      | .ok content =>
          unless content.isEmpty do
            let (before?, output) := translation.apply before? content
            put (contentOctets output)
            translateInput translation fuel before?

def translate (options : Options) (first second : List Char) : Work Unit := do
  let isReplacing := !second.isEmpty && !options.has 'd'
  let second := if options.has 't' then second.take first.length else second
  let first := if options.has 't' then first.take second.length else first
  let squeezed := if second.isEmpty then first else second
  let bytes := (List.range 256).map Char.ofNat
  let translation : Translation :=
    { isDeleted := (bytes.map fun c => options.has 'd' && first.contains c).toArray
      replacement :=
        (bytes.map fun c =>
          (if isReplacing then replacementOf first second c else c).toNat.toUInt8).toArray
      isSqueezed := (bytes.map fun c => options.has 's' && squeezed.contains c).toArray }
  translateInput translation endlessSteps none

def translateChars (operands : List String) : Work Unit := do
  match findOptions "cCdst".toList
    [("complement", 'c'), ("delete", 'd'), ("squeeze-repeats", 's'), ("truncate-set1", 't')] true
    operands with
  | .error defect => misuse 1 defect.message
  | .ok options =>
      let isDeleting := options.has 'd' && !options.has 's'
      let least :=
        if options.has 'd' == options.has 's' then 2 else 1
      let explained := fun (text hint : String) => do
        warn 1 text
        if !hint.isEmpty then putError (hint ++ "\n")
        putError (hintText (← get).command)
      match options.operands with
      | [] => misuse 1 "missing operand"
      | [first] =>
          if 1 < least then
            let hint :=
              if options.has 'd' then
                "Two strings must be given when both deleting and squeezing repeats."
              else "Two strings must be given when translating."
            explained ("missing operand after " ++ inCurlyQuotes first) hint
          else work options first none
      | [first, second] =>
          if isDeleting then
            explained ("extra operand " ++ inCurlyQuotes second)
              "Only one string may be given when deleting without squeezing repeats."
          else work options first (some second)
      | _ :: second :: third :: _ =>
          if isDeleting then
            explained ("extra operand " ++ inCurlyQuotes second)
              "Only one string may be given when deleting without squeezing repeats."
          else misuse 1 ("extra operand " ++ inCurlyQuotes third)
where
  work (options : Options) (first : String) (second? : Option String) : Work Unit := do
    let read := fun text : String => readListed (2 * text.length + 2) text.toList
    match read first, (second?.map read).getD (.ok []) with
    | .error text, _ => warn 1 text
    | _, .error text => warn 1 text
    | .ok source, .ok target =>
        let isOther := options.has 'c' || options.has 'C'
        let chars := filledTo 0 source
        let chars :=
          if isOther then
            (charsFrom '\x00' (Char.ofNat 255)).filter fun c => !chars.contains c
          else chars
        let replacing := filledTo chars.length target
        if second?.isSome && !options.has 'd' && replacing.isEmpty && !options.has 't' then
          warn 1 "when not truncating set1, string2 must be non-empty"
        else translate options chars replacing

end HingeField.Shell.Utility
