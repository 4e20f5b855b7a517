import HingeField.Shell.Utility.Desk
import HingeField.Shell.Utility.Difference
import HingeField.Shell.Utility.Expression

/-!
How the changes between two texts are shown: by themselves, with the lines around
them, as commands of an editor, between guards, or side by side.
-/

namespace HingeField.Shell.Utility

/-- A way to show changes. -/
inductive DifferenceStyle where
  | plain
  /-- With the lines around them, the old ones in front of the new ones. -/
  | paired
  /-- With the lines around them, in one row. -/
  | joined
  /-- As commands of an editor, the last one first. -/
  | commands
  | forwardCommands
  /-- With the number of lines that are added or deleted. -/
  | counted
  /-- Both texts in one, with guards by a name. -/
  | guarded (name : String)
  | columns
deriving DecidableEq

namespace DifferenceStyle

/-- Whether it tells lines with an end from those without one. -/
def showsEnds : DifferenceStyle → Bool
  | .commands | .forwardCommands => false
  | _ => true

end DifferenceStyle

/-- Which blanks do not count when lines are compared. -/
inductive BlankRule where
  | exact
  | tabs
  | ends
  | runs
  | all
deriving DecidableEq

namespace BlankRule

/-- Whether blanks at the ends of lines do not count. -/
def dropsEnds : BlankRule → Bool
  | .exact | .tabs => false
  | _ => true

end BlankRule

/-- How changes are shown, and which of them are not. -/
structure DifferenceForm where
  style : DifferenceStyle := .plain
  /-- How many lines around changes are shown. -/
  around : Nat := 3
  blanks : BlankRule := .exact
  ignoresCase : Bool := false
  ignoresEmpty : Bool := false
  /-- Changes of lines that one of these fits are not shown. -/
  ignored : List Regex := []
  /-- The last line before a change that one of these fits is shown in its heading. -/
  headings : List Regex := []
  expandsTabs : Bool := false
  startsWithTab : Bool := false
  /-- Whether no blank is put in front of an empty line. -/
  trimsEmpty : Bool := false
  tabWidth : Nat := 8
  width : Nat := 130
  showsCommon : Bool := true
  showsCommonOnce : Bool := false

/-- The lines of two texts that are compared. -/
structure ComparedLines where
  first : Array String
  second : Array String

/-- A line without its end. -/
def lineContent (text : String) : String :=
  if text.endsWith "\n" then (text.dropEnd 1).toString else text

namespace DifferenceForm

/-! ### Keys -/

/-- A text with blanks in the place of tabs. -/
def withoutTabs (tabWidth : Nat) (text : List Char) : List Char :=
  let (_, shown) := text.foldl
    (fun ((column, shown) : Nat × List Char) c =>
      match c with
      | '\t' =>
          let count := tabWidth - column % tabWidth
          (column + count, List.replicate count ' ' ++ shown)
      | '\r' => (0, c :: shown)
      | _ => (column + 1, c :: shown))
    (0, [])
  shown.reverse

/-- What a line is compared by. -/
def key (form : DifferenceForm) (text : String) : String :=
  let content := (lineContent text).toList
  let content := if form.ignoresCase then content.map Char.toLower else content
  let withoutEnd := fun chars : List Char => (chars.reverse.dropWhile isSpace).reverse
  let kept :=
    match form.blanks with
    | .exact => content
    | .tabs => withoutTabs form.tabWidth content
    | .ends => withoutEnd content
    | .runs =>
        let runs := (withoutEnd content).splitBy fun first second => isSpace first == isSpace second
        runs.flatMap fun run => if run.any isSpace then [' '] else run
    | .all => content.filter fun c => !isSpace c
  let hasEnd := text.endsWith "\n" || form.blanks.dropsEnds || !form.style.showsEnds
  String.ofList (if hasEnd then kept ++ ['\n'] else kept)

/-! ### Changes that are not shown -/

/-- Whether a line does not count when it is added or deleted. -/
def ignoresLine (form : DifferenceForm) (text : String) : Bool :=
  let content := lineContent text
  form.ignoresEmpty &&
      (content.isEmpty || form.blanks.dropsEnds && content.all isSpace) ||
    form.ignored.any fun expression => expression.isIn (decode content)

/-- Whether a change is not shown. -/
def ignores (form : DifferenceForm) (lines : ComparedLines) (change : Change) : Bool :=
  (form.ignoresEmpty || !form.ignored.isEmpty) &&
    (lines.first.extract change.row change.rowEnd).all form.ignoresLine &&
    (lines.second.extract change.column change.columnEnd).all form.ignoresLine

/-! ### Lines -/

/-- A line as it is shown, with its end unless it has none. -/
def shownLine (form : DifferenceForm) (text : String) : String :=
  if form.expandsTabs then String.ofList (withoutTabs form.tabWidth text.toList) else text

/-- A line behind a mark; one that has no end is followed by a remark. -/
def marked (form : DifferenceForm) (mark text : String) : String :=
  let gap := if form.startsWithTab then "\t" else " "
  let lead :=
    if form.trimsEmpty && text == "\n" then if mark = " " then "" else mark else mark ++ gap
  lead ++ form.shownLine text ++
    (if text.endsWith "\n" then "" else "\n\\ No newline at end of file\n")

/-- A line behind a sign that stands for its own in one row. -/
def signed (form : DifferenceForm) (sign text : String) : String :=
  let isTrimmed := form.trimsEmpty && text == "\n"
  let lead :=
    if sign = " " then if isTrimmed then "" else if form.startsWithTab then "\t" else " "
    else if form.startsWithTab && !isTrimmed then sign ++ "\t" else sign
  lead ++ form.shownLine text ++
    (if text.endsWith "\n" then "" else "\n\\ No newline at end of file\n")

/-- The lines of a range, each shown in the same way. -/
def shownRange (show1 : String → String) (lines : Array String) (start stop : Nat) : String :=
  String.join ((lines.extract start stop).toList.map show1)

/-! ### Changes by themselves -/

/-- A range of lines, as the first and the last of them, or as the line in front of it. -/
def range (gap : String) (start stop : Nat) : String :=
  if start + 1 < stop then toString (start + 1) ++ gap ++ toString stop else toString stop

/-- The letter for a change. -/
def changeLetter (change : Change) : String :=
  if change.row = change.rowEnd then "a"
  else if change.column = change.columnEnd then "d" else "c"

def plainText (form : DifferenceForm) (lines : ComparedLines) (change : Change) : String :=
  let letter := changeLetter change
  range "," change.row change.rowEnd ++ letter ++ range "," change.column change.columnEnd ++
    "\n" ++ shownRange (form.marked "<") lines.first change.row change.rowEnd ++
    (if letter = "c" then "---\n" else "") ++
    shownRange (form.marked ">") lines.second change.column change.columnEnd

/-- The lines that an editor is to add. A line with a dot alone would end them; it is added with
another dot, which is then deleted. -/
def addedLines (form : DifferenceForm) : Bool → List String → String
  | isAdding, [] => if isAdding then ".\n" else ""
  | isAdding, text :: rest =>
      let start := if isAdding then "" else "a\n"
      if text == ".\n" then start ++ "..\n.\ns/.//\n" ++ form.addedLines false rest
      else start ++ form.shownLine text ++ (if text.endsWith "\n" then "" else "\n") ++
        form.addedLines true rest

def commandText (form : DifferenceForm) (lines : ComparedLines) (change : Change) : String :=
  let added := (lines.second.extract change.column change.columnEnd).toList
  range "," change.row change.rowEnd ++ changeLetter change ++ "\n" ++
    if added.isEmpty then "" else form.addedLines true added

def forwardText (form : DifferenceForm) (lines : ComparedLines) (change : Change) : String :=
  let added := shownRange
    (fun text => form.shownLine text ++ if text.endsWith "\n" then "" else "\n")
    lines.second change.column change.columnEnd
  changeLetter change ++ range " " change.row change.rowEnd ++ "\n" ++
    if change.column = change.columnEnd then "" else added ++ ".\n"

def countedText (form : DifferenceForm) (lines : ComparedLines) (change : Change) : String :=
  let deleted := change.rowEnd - change.row
  let added := change.columnEnd - change.column
  (if deleted = 0 then ""
    else "d" ++ toString (change.row + 1) ++ " " ++ toString deleted ++ "\n") ++
    if added = 0 then ""
    else
      "a" ++ toString change.rowEnd ++ " " ++ toString added ++ "\n" ++
        shownRange form.shownLine lines.second change.column change.columnEnd

/-! ### Changes with the lines around them -/

/-- Changes that are shown together, as few lines lie between them; fewer still if one of them is
not shown by itself. -/
def grouped (form : DifferenceForm) (lines : ComparedLines) : List Change → List (List Change)
  | [] => []
  | change :: rest =>
      match grouped form lines rest with
      | (next :: group) :: groups =>
          let isWeak := form.ignores lines change || form.ignores lines next
          let limit := if isWeak then form.around else 2 * form.around + 1
          if next.row - change.rowEnd < limit then (change :: next :: group) :: groups
          else [change] :: (next :: group) :: groups
      | groups => [change] :: groups

/-- What is shown of a group of changes: where it starts and ends in both texts. -/
def span (form : DifferenceForm) (lines : ComparedLines) (opening closing : Change) : Change :=
  let before := min form.around opening.row
  { row := opening.row - before, rowEnd := min (closing.rowEnd + form.around) lines.first.size
    column := opening.column - before
    columnEnd := min (closing.columnEnd + form.around) lines.second.size }

/-- The end of the heading of a group: the last line before it that is a heading itself. -/
def headingText (form : DifferenceForm) (lines : ComparedLines) (row : Nat) : String :=
  let isHeading := fun text : String =>
    form.headings.any fun expression => expression.isIn (decode (lineContent text))
  if form.headings.isEmpty then ""
  else
    match (lines.first.extract 0 row).toList.reverse.find? isHeading with
    | none => ""
    | some text =>
        let shown := ((lineContent text).toList.dropWhile isSpace).take 40
        " " ++ String.ofList (shown.reverse.dropWhile isSpace).reverse

/-- The lines of changes from a row on, with those that stay between them. -/
def joinedLines (form : DifferenceForm) (lines : ComparedLines) (stop : Nat) :
    Nat → List Change → String
  | row, [] => shownRange (form.signed " ") lines.first row stop
  | row, change :: rest =>
      shownRange (form.signed " ") lines.first row change.row ++
        shownRange (form.signed "-") lines.first change.row change.rowEnd ++
        shownRange (form.signed "+") lines.second change.column change.columnEnd ++
        joinedLines form lines stop change.rowEnd rest

/-- A range of lines, as its first line and how many there are. -/
def countedRange (start stop : Nat) : String :=
  if start + 1 = stop then toString stop
  else if start = stop then toString start ++ ",0"
  else toString (start + 1) ++ "," ++ toString (stop - start)

def joinedText (form : DifferenceForm) (lines : ComparedLines) (group : List Change) : String :=
  match group.head?, group.getLast? with
  | some opening, some closing =>
      let span := form.span lines opening closing
      "@@ -" ++ countedRange span.row span.rowEnd ++ " +" ++
        countedRange span.column span.columnEnd ++ " @@" ++ form.headingText lines span.row ++
        "\n" ++ form.joinedLines lines span.rowEnd span.row group
  | _, _ => ""

/-- The lines of one text in a group, with a mark for those that are changes. Each change is given
by its range, and whether the other text has lines for it. -/
def pairedLines (form : DifferenceForm) (lines : Array String) (sign : String) (stop : Nat) :
    Nat → List (Nat × Nat × Bool) → String
  | place, [] => shownRange (form.marked " ") lines place stop
  | place, (start, last, isReplaced) :: rest =>
      shownRange (form.marked " ") lines place start ++
        shownRange (form.marked (if isReplaced then "!" else sign)) lines start last ++
        pairedLines form lines sign stop last rest

def pairedText (form : DifferenceForm) (lines : ComparedLines) (group : List Change) : String :=
  match group.head?, group.getLast? with
  | some opening, some closing =>
      let span := form.span lines opening closing
      let deletes := group.any fun change => change.row < change.rowEnd
      let adds := group.any fun change => change.column < change.columnEnd
      let rows := group.map fun change =>
        (change.row, change.rowEnd, decide (change.column < change.columnEnd))
      let columns := group.map fun change =>
        (change.column, change.columnEnd, decide (change.row < change.rowEnd))
      "***************" ++ form.headingText lines span.row ++ "\n*** " ++
        range "," span.row span.rowEnd ++ " ****\n" ++
        (if deletes then form.pairedLines lines.first "-" span.rowEnd span.row rows else "") ++
        "--- " ++ range "," span.column span.columnEnd ++ " ----\n" ++
        (if adds then form.pairedLines lines.second "+" span.columnEnd span.column columns else "")
  | _, _ => ""

/-! ### Both texts in one -/

/-- Both texts from two places on, with guards around changes. -/
def guardedText (lines : ComparedLines) (name : String) : Nat → List Change → String
  | row, [] => shownRange whole lines.first row lines.first.size
  | row, change :: rest =>
      let old := shownRange whole lines.first change.row change.rowEnd
      let fresh := shownRange whole lines.second change.column change.columnEnd
      shownRange whole lines.first row change.row ++
        (match changeLetter change with
          | "a" => "#ifdef " ++ name ++ "\n" ++ fresh ++ "#endif /* " ++ name ++ " */\n"
          | "d" => "#ifndef " ++ name ++ "\n" ++ old ++ "#endif /* ! " ++ name ++ " */\n"
          | _ =>
              "#ifndef " ++ name ++ "\n" ++ old ++ "#else /* " ++ name ++ " */\n" ++ fresh ++
                "#endif /* " ++ name ++ " */\n") ++
        guardedText lines name change.rowEnd rest
where
  whole (text : String) : String :=
    if text.endsWith "\n" then text else text ++ "\n"

/-! ### Side by side -/

/-- The width of each half of a line, and where the second one starts. -/
def halves (form : DifferenceForm) : Nat × Nat :=
  let tab := if form.expandsTabs then 1 else form.tabWidth
  let gutter := tab + 3
  let loose := form.width / 2 + gutter / 2 + form.width % 2 * (gutter % 2)
  let offset := loose - loose % tab
  let half := min (offset - 3) (form.width - offset)
  (half, if half = 0 then form.width else offset)

/-- Blanks from one column to another, as tabs where they may be used. -/
def gap (form : DifferenceForm) (start stop : Nat) : String :=
  let blanks := fun count : Nat => String.ofList (List.replicate count ' ')
  if form.expandsTabs || form.tabWidth = 0 then blanks (stop - start)
  else
    let tabs := stop / form.tabWidth - start / form.tabWidth
    if tabs = 0 || stop < start then blanks (stop - start)
    else String.ofList (List.replicate tabs '\t') ++ blanks (stop % form.tabWidth)

/-- How far half a line has been shown: the column of the text, and that of what is shown. -/
structure HalfLine where
  column : Nat := 0
  shownColumn : Nat := 0
  shown : String := ""

/-- Shows a character of half a line, as far as it fits. -/
def halfStep (form : DifferenceForm) (bound indent : Nat) (half : HalfLine) (c : Char) :
    HalfLine :=
  let isControl := c < ' ' || c == '\x7f'
  match c with
  | '\t' =>
      let count := form.tabWidth - half.column % form.tabWidth
      let behind := half.column + count
      if half.column != half.shownColumn then { half with column := behind }
      else if form.expandsTabs then
        let stop := min bound (half.shownColumn + count)
        let blanks := String.ofList (List.replicate (stop - half.shownColumn) ' ')
        let shown := half.shown ++ blanks
        { column := behind, shownColumn := max stop half.shownColumn, shown }
      else if half.shownColumn + count < bound then
        { column := behind, shownColumn := half.shownColumn + count, shown := half.shown ++ "\t" }
      else { half with column := behind }
  | '\r' => { shown := half.shown ++ "\r" ++ form.gap 0 indent }
  | '\x08' =>
      let column := half.column - 1
      if half.column = 0 || bound ≤ column then { half with column }
      else if half.shownColumn ≤ column then
        let blanks := String.ofList (List.replicate (column - half.shownColumn) ' ')
        { column, shownColumn := column, shown := half.shown ++ blanks }
      else { column, shownColumn := column, shown := half.shown.push c }
  | _ =>
      if isControl then
        if half.column < bound then { half with shown := half.shown.push c } else half
      else if half.column < bound then
        { column := half.column + 1, shownColumn := half.column + 1, shown := half.shown.push c }
      else { half with column := half.column + 1 }

/-- Half a line, and the column behind it. -/
def halfLine (form : DifferenceForm) (bound indent : Nat) (text : String) : String × Nat :=
  let half := (decode (lineContent text)).toList.foldl (form.halfStep bound indent) {}
  (encode half.shown, half.shownColumn)

/-- Two lines side by side with a sign between them. -/
def columnLine (form : DifferenceForm) (left? : Option String) (sign : Char)
    (right? : Option String) : String :=
  let (half, offset) := form.halves
  let hasEnd := fun text? : Option String => text?.any fun text : String => text.endsWith "\n"
  let (left, column) := (left?.map (form.halfLine half 0)).getD ("", 0)
  let sign :=
    if sign == '|' && hasEnd left? != hasEnd right? then if hasEnd left? then '/' else '\\'
    else sign
  let goal := (half + offset - 1) / 2
  let (between, column) :=
    if sign == ' ' then ("", column)
    else (form.gap column goal ++ String.singleton sign, goal + 1)
  let right :=
    match right? with
    | none | some "\n" => ""
    | some text => form.gap column offset ++ (form.halfLine half offset text).1
  left ++ between ++ right ++ if hasEnd left? || hasEnd right? then "\n" else ""

/-- Lines of ranges side by side, as far as both go, then those that are left on one side. -/
def columnRange (form : DifferenceForm) (bothSign leftSign rightSign : Char) :
    List String → List String → String
  | left :: lefts, right :: rights =>
      form.columnLine (some left) bothSign (some right) ++
        columnRange form bothSign leftSign rightSign lefts rights
  | lefts, rights =>
      String.join (rights.map fun text => form.columnLine none rightSign (some text)) ++
        String.join (lefts.map fun text => form.columnLine (some text) leftSign none)

/-- Lines that stay, side by side. -/
def commonColumns (form : DifferenceForm) (lefts rights : List String) : String :=
  if !form.showsCommon then ""
  else form.columnRange ' ' '(' ')' lefts (if form.showsCommonOnce then [] else rights)

/-- Both texts side by side, from two places on. -/
def columnText (form : DifferenceForm) (lines : ComparedLines) :
    Nat → Nat → List Change → String
  | row, column, [] =>
      form.commonColumns (lines.first.extract row lines.first.size).toList
        (lines.second.extract column lines.second.size).toList
  | row, column, change :: rest =>
      form.commonColumns (lines.first.extract row change.row).toList
          (lines.second.extract column change.column).toList ++
        form.columnRange '|' '<' '>' (lines.first.extract change.row change.rowEnd).toList
          (lines.second.extract change.column change.columnEnd).toList ++
        columnText form lines change.rowEnd change.columnEnd rest

/-! ### All changes -/

/-- Shows changes behind a heading, which is left out where nothing follows. -/
def text (form : DifferenceForm) (heading : String) (lines : ComparedLines)
    (changes : List Change) : String :=
  let shown := changes.filter fun change => !form.ignores lines change
  let behindHeading := fun text : String => if text.isEmpty then "" else heading ++ text
  let groups := (form.grouped lines changes).filter fun group =>
    group.any fun change => !form.ignores lines change
  match form.style with
  | .plain => behindHeading (String.join (shown.map (form.plainText lines)))
  | .paired => behindHeading (String.join (groups.map (form.pairedText lines)))
  | .joined => behindHeading (String.join (groups.map (form.joinedText lines)))
  | .commands => behindHeading (String.join (shown.reverse.map (form.commandText lines)))
  | .forwardCommands => behindHeading (String.join (shown.map (form.forwardText lines)))
  | .counted => behindHeading (String.join (shown.map (form.countedText lines)))
  | .guarded name => heading ++ guardedText lines name 0 shown
  | .columns => heading ++ form.columnText lines 0 0 shown

end DifferenceForm

end HingeField.Shell.Utility
