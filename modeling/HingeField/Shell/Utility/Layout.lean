import HingeField.Shell.Utility.Expression
import HingeField.Shell.Utility.Whole

/-!
The commands that lay lines out: with numbers in front of them, cut to a width,
or with blanks for tabs and tabs for blanks.
-/

namespace HingeField.Shell.Utility

/-! ### Numbers -/

/-- Which lines of a part of a page are numbered. -/
inductive NumberStyle where
  | all
  | filled
  | none
  | fitting (expression : Regex)

def NumberStyle.of? (text : String) : Option NumberStyle :=
  match text.toList with
  | ['a'] => some .all
  | ['t'] => some .filled
  | ['n'] => some .none
  | 'p' :: rest =>
      match Regex.parse false (String.ofList rest) with
      | .ok expression => some (.fitting expression)
      | .error _ => Option.none
  | _ => Option.none

def NumberStyle.numbers (style : NumberStyle) (text : String) : Bool :=
  match style with
  | .all => true
  | .filled => !text.isEmpty
  | .none => false
  | .fitting expression => expression.isIn text

/-- The parts of a page by the signs that start them, and the styles for their lines. -/
structure Pages where
  header : NumberStyle
  body : NumberStyle
  footer : NumberStyle

/-- Whether a line is so many signs that start a part of a page. -/
def pageSign? (delimiter text : String) : Option Nat :=
  [3, 2, 1].find? fun count => text == String.join (List.replicate count delimiter)

/-- Refuses options for numbered lines that are no styles, forms or numbers. -/
def checkNumbering (options : Options) : Work Unit := do
  let mut isRight := true
  for (letter, text) in options.letters do
    let style? := [('h', "header"), ('b', "body"), ('f', "footer")].lookup letter
    let number? := [('v', "starting line number"), ('i', "line number increment"),
      ('l', "line number of blank lines"), ('w', "line number field width")].lookup letter
    match style?, number?, decimal? text with
    | some style, _, _ =>
        if (NumberStyle.of? text).isNone then
          warn 1 ("invalid " ++ style ++ " numbering style: " ++ inCurlyQuotes text)
          isRight := false
    | none, some phrase, none => refuse 1 ("invalid " ++ phrase ++ ": " ++ inCurlyQuotes text)
    | none, some phrase, some number =>
        if (letter == 'l' || letter == 'w') && number < 1 then
          refuse 1 ("invalid " ++ phrase ++ ": " ++ inCurlyQuotes text ++
            ": Numerical result out of range")
    | none, none, _ =>
        if letter == 'n' && ! ["ln", "rn", "rz"].contains text then
          warn 1 ("invalid line numbering format: " ++ inCurlyQuotes text)
          isRight := false
  unless isRight do
    putError (hintText (← get).command)
    leave

def numberLines (operands : List String) : Work Unit :=
  withOptions "b:w:s:v:i:n:h:f:d:pl:"
    [("body-numbering", 'b'), ("number-width", 'w'), ("number-separator", 's'),
      ("starting-line-number", 'v'), ("line-increment", 'i'), ("number-format", 'n'),
      ("header-numbering", 'h'), ("footer-numbering", 'f'), ("section-delimiter", 'd'),
      ("no-renumber", 'p'), ("join-blank-lines", 'l')] 1 operands fun options => do
    let numberOf := fun (letter : Char) (standard : Int) =>
      ((options.argument? letter).bind decimal?).getD standard
    let styleOf := fun (letter : Char) (standard : NumberStyle) =>
      ((options.argument? letter).bind NumberStyle.of?).getD standard
    checkNumbering options
    let pages : Pages :=
      { header := styleOf 'h' .none, body := styleOf 'b' .filled, footer := styleOf 'f' .none }
    let width := (numberOf 'w' 6).toNat
    let sign := (options.argument? 's').getD "\t"
    let start := numberOf 'v' 1
    let step := numberOf 'i' 1
    let form := (options.argument? 'n').getD "rn"
    let delimiter := (options.argument? 'd').getD "\\:"
    let delimiter := if delimiter.length = 1 then delimiter ++ ":" else delimiter
    let joined := (numberOf 'l' 1).toNat
    let shown := fun number : Int =>
      let digits := toString number.natAbs
      let lead := if number < 0 then "-" else ""
      let size := digits.length + lead.length
      let fill := fun c : Char => String.ofList (List.replicate (width - size) c)
      if form = "ln" then lead ++ digits ++ fill ' '
      else if form = "rz" then lead ++ fill '0' ++ digits
      else fill ' ' ++ lead ++ digits
    let blank := String.ofList (List.replicate (width + sign.length) ' ')
    let mut number := start
    let mut style := pages.body
    let mut empties := 0
    for text in linesOf (← allInput 1 shownName options.operands) do
      match pageSign? delimiter text with
      | some part =>
          style := if part = 3 then pages.header else if part = 2 then pages.body
            else pages.footer
          if part = 3 && !options.has 'p' then number := start
          put "\n"
      | none =>
          empties := if text.isEmpty then empties + 1 else 0
          let isCounted := !text.isEmpty || joined ≤ empties
          if isCounted && style.numbers text then
            put (shown number ++ sign ++ text ++ "\n")
            number := number + step
            empties := 0
          else put (blank ++ text ++ "\n")

/-! ### Widths -/

/-- How far the cutting of a line has come: the pieces that are complete, last one first, and the
current one with its width. -/
structure Cutting where
  pieces : List String := []
  current : List Char := []
  width : Nat := 0

/-- The width behind a character. -/
def widthBehind (countsBytes : Bool) (width : Nat) (c : Char) : Nat :=
  if countsBytes then width + 1
  else
    match c with
    | '\x08' => width - 1
    | '\r' => 0
    | '\t' => width + 8 - width % 8
    | _ => width + 1

def widthOf (countsBytes : Bool) (text : List Char) : Nat :=
  text.foldl (widthBehind countsBytes) 0

/-- Adds a character to the current piece, or to a new one if it does not fit any more. -/
def Cutting.add (limit : Nat) (isAtBlanks countsBytes : Bool) (cutting : Cutting) (c : Char) :
    Cutting :=
  let width := widthBehind countsBytes cutting.width c
  if width ≤ limit || cutting.current.isEmpty then
    { cutting with current := c :: cutting.current, width }
  else
    let kept := cutting.current.dropWhile fun c => c != ' ' && c != '\t'
    let (piece, rest) :=
      if isAtBlanks && !kept.isEmpty then
        (kept, cutting.current.take (cutting.current.length - kept.length))
      else (cutting.current, [])
    let current := c :: rest
    { pieces := String.ofList piece.reverse :: cutting.pieces, current
      width := widthOf countsBytes current.reverse }

def cutLine (limit : Nat) (isAtBlanks countsBytes : Bool) (text : String) : List String :=
  let cutting := text.foldl (Cutting.add limit isAtBlanks countsBytes) {}
  (String.ofList cutting.current.reverse :: cutting.pieces).reverse

/-- Operands in which a number right behind a dash is given as a width. -/
def withWidthOption (operands : List String) : List String :=
  operands.map fun operand =>
    match operand.toList with
    | '-' :: c :: _ => if c.isDigit then "-w" ++ (operand.drop 1).toString else operand
    | _ => operand

def foldLines (given : List String) : Work Unit :=
  withOptions "w:sb" [("width", 'w'), ("spaces", 's'), ("bytes", 'b')] 1 (withWidthOption given)
    fun options => do
    let width := ((options.argument? 'w').bind String.toNat?).getD 80
    if let some text := (options.argument? 'w').filter fun text => text.toNat?.all (· == 0) then
      let isSmall := text.toNat?.isSome
      refuse 1 ("invalid number of columns: " ++ inCurlyQuotes text ++
        if isSmall then ": Numerical result out of range" else "")
    forEachInputLine 1 shownName options.operands fun text => do
      let content := if text.endsWith "\n" then (text.dropEnd 1).toString else text
      let pieces := cutLine width (options.has 's') (options.has 'b') content
      put (String.intercalate "\n" pieces)
      if text.endsWith "\n" then put "\n"

/-! ### Tabs -/

/-- Where tabs stop: at places of a list, and behind those at multiples of a size. -/
structure TabStops where
  places : List Nat := []
  size : Nat := 8

/-- Reads a list of places; a single one is a size, and a last one with a sign repeats. -/
def TabStops.of? (text : String) : Option TabStops := do
  let pieces := (text.splitToList fun c => c == ',' || c == ' ').filter fun piece => piece != ""
  let plain := pieces.filter fun piece => !(piece.startsWith "/" || piece.startsWith "+")
  let places ← plain.mapM String.toNat?
  let repeated ← (pieces.filter fun piece => piece.startsWith "/" || piece.startsWith "+").mapM
    fun piece => (piece.drop 1).toString.toNat?
  match places, repeated with
  | [size], [] => return { size }
  | places, [] => return { places, size := 0 }
  | places, size :: _ => return { places, size }

/-- The column of the next tab stop behind a column. -/
def TabStops.next (stops : TabStops) (column : Nat) : Nat :=
  match stops.places.find? fun place => column < place with
  | some place => place
  | none => if stops.size = 0 then column + 1 else column + stops.size - column % stops.size

/-- A line with blanks in the place of tabs. -/
def expandTabs (stops : TabStops) (isInitial : Bool) (text : String) : String :=
  let step := fun (shown, column, isGoing) (c : Char) =>
    if c == '\t' && isGoing then
      let next := stops.next column
      (shown ++ String.ofList (List.replicate (next - column) ' '), next, isGoing)
    else
      let column := if c == '\x08' then column - 1 else column + 1
      (shown.push c, column, isGoing && (!isInitial || c == ' ' || c == '\t'))
  (text.foldl step (("" : String), 0, true)).1

/-- A line with tabs in the place of blanks that end where tabs stop. -/
def shrinkBlanks (stops : TabStops) (everywhere : Bool) (text : String) : String :=
  let isBlank := fun c : Char => c == ' ' || c == '\t'
  let rec shrink : Nat → Nat → Bool → List Char → List Char
    | 0, _, _, rest => rest
    | _ + 1, _, _, [] => []
    | fuel + 1, column, isGoing, c :: rest =>
        if isBlank c && isGoing then
          let blanks := (c :: rest).takeWhile isBlank
          let behind := (c :: rest).drop blanks.length
          let target := blanks.foldl
            (fun column c => if c == '\t' then stops.next column else column + 1) column
          let rec fill : Nat → Nat → List Char
            | 0, _ => []
            | fuel + 1, column =>
                let next := stops.next column
                if column < target then
                  if next ≤ target &&
                      (1 < next - column || blanks.contains '\t' || 1 < target - column)
                  then '\t' :: fill fuel next
                  else List.replicate (target - column) ' '
                else []
          let isSingle := blanks == [' ']
          (if isSingle then [' '] else fill (target + 1) column) ++
            shrink fuel target (isGoing && everywhere) behind
        else
          c :: shrink fuel (if c == '\x08' then column - 1 else column + 1)
            (isGoing && everywhere) rest
  String.ofList (shrink (text.length + 1) 0 true text.toList)

def tabsOf (options : Options) : Work TabStops := do
  match options.argument? 't' with
  | none => return {}
  | some text =>
      match TabStops.of? text with
      | some stops =>
          if stops.size = 0 && stops.places.isEmpty then
            warn 1 "tab size cannot be 0"
            leave
          return stops
      | none =>
          let bad := text.toList.dropWhile fun c => c.isDigit || c == ',' || c == ' '
          warn 1 ("tab size contains invalid character(s): " ++ inCurlyQuotes (String.ofList bad))
          leave

/-- Operands in which a list right behind a dash is given as an option for tabs. -/
def withTabOption (operands : List String) : List String :=
  operands.map fun operand =>
    match operand.toList with
    | '-' :: c :: _ => if c.isDigit then "-t" ++ (operand.drop 1).toString else operand
    | _ => operand

def withContent (text : String) (change : String → String) : String :=
  if text.endsWith "\n" then change (text.dropEnd 1).toString ++ "\n" else change text

def expandLines (operands : List String) : Work Unit :=
  withOptions "t:i" [("tabs", 't'), ("initial", 'i')] 1 (withTabOption operands)
    fun options => do
    let stops ← tabsOf options
    forEachInputLine 1 shownName options.operands fun text =>
      put (withContent text (expandTabs stops (options.has 'i')))

def shrinkLines (operands : List String) : Work Unit :=
  withOptions "t:a f" [("tabs", 't'), ("all", 'a'), ("first-only", 'f')] 1 (withTabOption operands)
    fun options => do
    let stops ← tabsOf options
    let everywhere := (options.has 'a' || options.has 't') && !options.has 'f'
    forEachInputLine 1 shownName options.operands fun text =>
      put (withContent text (shrinkBlanks stops everywhere))

end HingeField.Shell.Utility
