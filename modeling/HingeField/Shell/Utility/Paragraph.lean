import HingeField.Shell.Utility.Desk

/-!
The command that fills lines. The words of a paragraph are broken into lines at the
places that cost least: lines of nearly the wanted width, and breaks where sentences
end are cheap.
-/

namespace HingeField.Shell.Utility

/-! ### Words -/

/-- A word of a paragraph. -/
structure Word where
  text : String
  /-- How many blanks are behind it. -/
  space : Nat := 0
  /-- Whether it starts with a sign that opens something. -/
  opens : Bool := false
  /-- Whether it ends with a sign that may end a sentence. -/
  hasStop : Bool := false
  /-- Whether it ends with any sign. -/
  hasSign : Bool := false
  /-- Whether it ends a sentence. -/
  isFinal : Bool := false

namespace Word

def length (word : Word) : Nat :=
  word.text.length

/-- A word with what its signs say about it. -/
def ofText (text : List Char) : Word :=
  let last := text.getLast?
  let stripped := (text.drop 1).reverse.dropWhile fun c => ")]\x27\x22".toList.contains c
  let stop := stripped.head?.or text.head?
  { text := String.ofList text
    opens := text.head?.any fun c => "([\x27\x60\x22".toList.contains c
    hasStop := stop.any fun c => ".?!".toList.contains c
    hasSign := last.any fun c => '!' ≤ c && c ≤ '~' && !c.isAlphanum }

end Word

/-! ### Breaks -/

/-- The widths of lines: what none may reach, and what each should have. -/
structure LineWidths where
  most : Nat
  goal : Nat

/-- The best way to break the words from one of them on: what it costs, behind how many words it
has its first break, and how long its first line is. -/
structure Breaks where
  cost : Int
  count : Nat
  length : Nat

namespace Breaks

/-- What lines cost that are so many characters shorter or longer than they should be. -/
def missCost (miss : Int) : Int :=
  miss * 10 * (miss * 10)

/-- What a break in front of a word costs or is worth, as the two words before it say. -/
def startCost (before : List Word) (word : Word) : Int :=
  let broken : Int :=
    match before with
    | [] => 0
    | last :: earlier =>
        if last.hasStop then if last.isFinal then -2500 else 360000
        else if last.hasSign then -1600
        else if earlier.head?.any Word.isFinal then 40000 / (last.length + 2)
        else 0
  let started : Int :=
    if word.opens then -1600
    else if word.isFinal then 22500 / (word.length + 2)
    else 0
  4900 + broken + started

/-- What a line costs that is followed by others, or by none. -/
def lineCost (widths : LineWidths) (length : Nat) : List Breaks → Int
  | [] => 0
  | next :: _ =>
      let isLast := next.count = 0
      missCost (widths.goal - length) +
        if isLast then 0 else missCost ((length : Int) - next.length) / 2

/-- The cheapest first line among those that end further and further on. Behind the words stand the
best breaks behind the first of them, and from there on. -/
def cheapest (widths : LineWidths) :
    List Word → List Breaks → Nat → Nat → Option Breaks → Option Breaks
  | [], _, _, _, best? => best?
  | word :: rest, behind, length, count, best? =>
      let length := length + word.length
      let cost := lineCost widths length behind + (behind.head?.map Breaks.cost).getD 0
      let own : Breaks := { cost, count := if rest.isEmpty then 0 else count + 1, length }
      let best? := if best?.all fun best => cost < best.cost then some own else best?
      let next := (rest.head?.map Word.length).getD 0
      if widths.most ≤ length + word.space + next then best?
      else cheapest widths rest (behind.drop 1) (length + word.space) (count + 1) best?

/-- The best breaks of words from each of them on, behind other words. -/
def table (widths : LineWidths) (firstIndent otherIndent : Nat) :
    List Word → List Word → List Breaks
  | _, [] => []
  | before, word :: rest =>
      let behind := table widths firstIndent otherIndent (word :: before.take 1) rest
      let indent := if before.isEmpty then firstIndent else otherIndent
      match cheapest widths (word :: rest) behind indent 0 none with
      | some best => { best with cost := best.cost + startCost before word } :: behind
      | none => behind

/-- The lines that the best breaks make. -/
def lines : Nat → List Word → List Breaks → List (List Word)
  | 0, _, _ => []
  | _ + 1, [], _ | _ + 1, _, [] => []
  | fuel + 1, words, first :: behind =>
      if first.count = 0 then [words]
      else
        words.take first.count ::
          lines fuel (words.drop first.count) ((first :: behind).drop first.count)

end Breaks

/-! ### Paragraphs -/

/-- How paragraphs are found and filled. -/
structure Filling where
  widths : LineWidths
  /-- Whether the second line says how far the lines behind the first one are indented. -/
  isCrown : Bool := false
  /-- Whether a paragraph has its first line indented in another way than the others. -/
  isTagged : Bool := false
  /-- Whether lines are broken and never joined. -/
  isSplit : Bool := false
  /-- Whether blanks between words are made even. -/
  isUniform : Bool := false
  /-- What starts the lines that are filled, without the blanks around it. -/
  lead : List Char := []
  leadSpace : Nat := 0
  /-- The length of the lead with the blanks behind it. -/
  leadLength : Nat := 0

/-- What is still to be read of a text, from some column of a line on. -/
structure FillReading where
  rest : List Char
  column : Nat := 0
  /-- Where the lead of the line is. -/
  leadColumn : Nat := 0
  /-- Whether a tab has been read. -/
  hasTabs : Bool := false
  /-- How far the lines behind the first one of a paragraph are indented. -/
  otherIndent : Nat := 0

namespace FillReading

/-- Whether nothing but the end of a line is ahead. -/
def isAtLineEnd (reading : FillReading) : Bool :=
  reading.rest.head?.all (· == '\n')

/-- The first column behind a tab. -/
def behindTab (column : Nat) : Nat :=
  (column / 8 + 1) * 8

/-- Goes over blanks. -/
def skipSpace (reading : FillReading) : FillReading :=
  let blanks := reading.rest.takeWhile fun c => c == ' ' || c == '\t'
  { reading with
    rest := reading.rest.drop blanks.length
    column := blanks.foldl
      (fun column c => if c == '\t' then behindTab column else column + 1) reading.column
    hasTabs := reading.hasTabs || blanks.contains '\t' }

/-- Goes over the start of a line, up to the lead or behind it. -/
def startLine (filling : Filling) (reading : FillReading) : FillReading :=
  let reading := { reading with column := 0 }.skipSpace
  if filling.lead.isEmpty then { reading with leadColumn := min filling.leadSpace reading.column }
  else skipLead filling.lead { reading with leadColumn := reading.column }
where
  skipLead : List Char → FillReading → FillReading
    | [], reading => reading.skipSpace
    | c :: lead, reading =>
        if reading.rest.head? == some c then
          skipLead lead { reading with rest := reading.rest.drop 1, column := reading.column + 1 }
        else reading

/-- Reads the words of a line, and goes over the start of the next one. -/
def readWords (filling : Filling) : Nat → FillReading → List Word × FillReading
  | 0, reading => ([], reading)
  | fuel + 1, reading =>
      let text := reading.rest.take 1 ++ (reading.rest.drop 1).takeWhile fun c => !isSpace c
      let behind := { reading with
        rest := reading.rest.drop text.length, column := reading.column + text.length }
      let next := behind.skipSpace
      let word := Word.ofText text
      let space := next.column - behind.column
      let isFinal :=
        next.rest.isEmpty || word.hasStop && (next.rest.head? == some '\n' || 1 < space)
      let isEven := next.isAtLineEnd || filling.isUniform
      let space := if isEven then if isFinal then 2 else 1 else space
      let word := { word with space, isFinal }
      if next.isAtLineEnd then
        ([word], { next with rest := next.rest.drop 1 }.startLine filling)
      else
        let (words, reading) := readWords filling fuel next
        (word :: words, reading)

/-- Whether the line at hand may belong to the paragraph of a line with its lead in some column. -/
def goesOn (filling : Filling) (leadColumn : Nat) (reading : FillReading) : Bool :=
  reading.leadColumn == leadColumn && reading.leadColumn + filling.leadLength ≤ reading.column &&
    !reading.isAtLineEnd

/-- Reads lines of a paragraph that are indented as far as the last one. -/
def readLines (filling : Filling) (leadColumn : Nat) :
    Nat → FillReading → List Word × FillReading
  | 0, reading => ([], reading)
  | fuel + 1, reading =>
      if reading.goesOn filling leadColumn && reading.column == reading.otherIndent then
        let (first, reading) := reading.readWords filling (reading.rest.length + 1)
        let (others, reading) := readLines filling leadColumn fuel reading
        (first ++ others, reading)
      else ([], reading)

/-- Blanks from one column to another, as tabs where the text has any. -/
def space (hasTabs : Bool) (column width : Nat) : String :=
  let goal := column + width
  let tabbed := goal / 8 * 8
  if hasTabs && column + 1 < tabbed then
    String.ofList (List.replicate (tabbed / 8 - column / 8) '\t' ++
      List.replicate (goal - tabbed) ' ')
  else String.ofList (List.replicate width ' ')

/-- A line that is not filled, as it is shown, and the reading behind it. -/
def passLine (filling : Filling) (reading : FillReading) : String × FillReading :=
  let text := reading.rest.takeWhile (· != '\n')
  let isBlank := reading.column ≤ reading.leadColumn && reading.isAtLineEnd
  let lead := String.ofList (filling.lead.take (reading.column - reading.leadColumn))
  let column := reading.leadColumn + lead.length
  let gap :=
    if text.isEmpty then "" else space reading.hasTabs column (reading.column - column)
  let isCut :=
    reading.rest.isEmpty && !isBlank &&
      reading.leadColumn + filling.lead.length ≤ reading.column
  let start :=
    if isBlank then "" else space reading.hasTabs 0 reading.leadColumn ++ lead ++ gap
  (start ++ String.ofList text ++ (if isCut then "\n" else ""),
    { reading with rest := reading.rest.drop text.length })

end FillReading

/-- Words with the blanks between them, from some column on. -/
def placedWords (hasTabs : Bool) : Nat → List Word → String
  | _, [] => ""
  | _, [word] => word.text
  | column, word :: rest =>
      let behind := column + word.length
      word.text ++ FillReading.space hasTabs behind word.space ++
        placedWords hasTabs (behind + word.space) rest

namespace Filling

/-- How a line of a paragraph is shown. -/
def line (filling : Filling) (hasTabs : Bool) (leadColumn indent : Nat) (words : List Word) :
    String :=
  let column := leadColumn + filling.lead.length
  FillReading.space hasTabs 0 leadColumn ++ String.ofList filling.lead ++
    FillReading.space hasTabs column (indent - column) ++
    placedWords hasTabs (max column indent) words ++ "\n"

/-- The lines of a paragraph. -/
def paragraph (filling : Filling) (hasTabs : Bool) (leadColumn firstIndent otherIndent : Nat)
    (words : List Word) : String :=
  let words :=
    match words.reverse with
    | [] => []
    | last :: others => ({ last with hasStop := true, isFinal := true } :: others).reverse
  let breaks := Breaks.table filling.widths firstIndent otherIndent [] words
  match Breaks.lines (words.length + 1) words breaks with
  | [] => ""
  | first :: others =>
      filling.line hasTabs leadColumn firstIndent first ++
        String.join (others.map (filling.line hasTabs leadColumn otherIndent))

/-- How far the lines behind the first one are indented, as the line at hand says if it belongs to
the paragraph. -/
def otherIndentOf (filling : Filling) (isSame : Bool) (firstIndent : Nat)
    (reading : FillReading) : Nat :=
  if filling.isSplit then firstIndent
  else if filling.isCrown then if isSame then reading.column else firstIndent
  else if filling.isTagged then
    if isSame && reading.column != firstIndent then reading.column
    else if reading.otherIndent == firstIndent then if firstIndent = 0 then 3 else 0
    else reading.otherIndent
  else firstIndent

/-- Reads the lines of a paragraph behind its first one. -/
def readOthers (filling : Filling) (leadColumn firstIndent : Nat) (reading : FillReading) :
    List Word × FillReading :=
  let fuel := reading.rest.length + 1
  let isSame := reading.goesOn filling leadColumn
  let takesNext := filling.isCrown || filling.isTagged && reading.column != firstIndent
  if filling.isSplit then ([], reading)
  else if filling.isCrown || filling.isTagged then
    if isSame && takesNext then
      let (second, reading) := reading.readWords filling fuel
      let (others, reading) := reading.readLines filling leadColumn fuel
      (second ++ others, reading)
    else ([], reading)
  else reading.readLines filling leadColumn fuel

/-- Fills the paragraphs of a text. -/
def showFilled (filling : Filling) : Nat → FillReading → Work Unit
  | 0, _ => pure ()
  | fuel + 1, reading => do
      if reading.isAtLineEnd || reading.leadColumn < filling.leadSpace ||
          reading.column < reading.leadColumn + filling.leadLength then
        let (text, reading) := reading.passLine filling
        put text
        unless reading.rest.isEmpty do
          put "\n"
          showFilled filling fuel ({ reading with rest := reading.rest.drop 1 }.startLine filling)
      else
        let leadColumn := reading.leadColumn
        let firstIndent := reading.column
        let (first, reading) := reading.readWords filling (reading.rest.length + 1)
        let otherIndent :=
          filling.otherIndentOf (reading.goesOn filling leadColumn) firstIndent reading
        let (others, reading) :=
          filling.readOthers leadColumn firstIndent { reading with otherIndent }
        put (filling.paragraph reading.hasTabs leadColumn firstIndent otherIndent (first ++ others))
        showFilled filling fuel reading

/-- The lead of the lines that are filled, as an option gives it. -/
def withLead (filling : Filling) (text : String) : Filling :=
  let behind := text.toList.dropWhile (· == ' ')
  let lead := (behind.reverse.dropWhile (· == ' ')).reverse
  { filling with lead, leadSpace := text.length - behind.length, leadLength := behind.length }

end Filling

/-- A width that is not beyond another one. -/
def checkedWidth (most : Nat) (text : String) : Work Nat := do
  match text.toNat? with
  | none => refuse 1 ("invalid width: " ++ inCurlyQuotes text)
  | some width =>
      if most < width then
        refuse 1 ("invalid width: " ++ inCurlyQuotes text ++ ": Numerical result out of range")
      else return width

/-- Operands in which a number right behind the first dash is given as a width. -/
def withFirstWidth : List String → List String
  | [] => []
  | operand :: rest =>
      match operand.toList with
      | '-' :: c :: _ =>
          if c.isDigit then ("-w" ++ (operand.drop 1).toString) :: rest else operand :: rest
      | _ => operand :: rest

/-- Fills the lines of paragraphs. -/
def fillLines (operands : List String) : Work Unit :=
  withOptions "0123456789cstuw:p:g:"
    [("crown-margin", 'c'), ("prefix", 'p'), ("split-only", 's'), ("tagged-paragraph", 't'),
      ("uniform-spacing", 'u'), ("width", 'w'), ("goal", 'g')] 1 (withFirstWidth operands)
    fun options => do
    if let some (digit, _) := options.letters.find? fun option => option.1.isDigit then
      warn 1 ("invalid option -- " ++ String.singleton digit ++
        "; -WIDTH is recognized only when it is the first\noption; use -w N instead")
      putError (hintText (← get).command)
      leave
    let most? ← (options.argument? 'w').mapM (checkedWidth 2500)
    let goal? ← (options.argument? 'g').mapM (checkedWidth (most?.getD 75))
    let most := most?.getD ((goal?.map fun goal => goal + 10).getD 75)
    let goal := goal?.getD (most * 187 / 200)
    let filling : Filling :=
      { widths := { most, goal }, isCrown := options.has 'c', isTagged := options.has 't'
        isSplit := options.has 's', isUniform := options.has 'u' }
    let filling := (options.argument? 'p').elim filling filling.withLead
    for name in (if options.operands.isEmpty then ["-"] else options.operands) do
      match ← readOperand name with
      | .error .isDirectory => warn 1 "read error"
      | .error fault =>
          warn 1 ("cannot open " ++ inQuotes name ++ " for reading: " ++ faultText fault)
      | .ok octets =>
          let reading : FillReading := { rest := octets.toList }
          filling.showFilled (octets.length + 2) (reading.startLine filling)

end HingeField.Shell.Utility
