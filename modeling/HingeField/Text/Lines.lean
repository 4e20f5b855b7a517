/-!
Blanks and lines of a text: stripping blanks from its ends, dividing it into
words, and cutting it into lines. The class of blanks is the wide one: besides
the ASCII blanks it holds the four information separators and the spaces of the
general punctuation block.

Lines come under three conventions: pieces that keep the line feed that ends
them, texts in which every line end has been made a line feed, and the lines of
a message, which any vertical separator may end.
-/

namespace HingeField.Text

/-- The characters that separate words and that stripping removes. -/
def isBlank (c : Char) : Bool :=
  let code := c.toNat
  (9 ≤ code && code ≤ 13) || (28 ≤ code && code ≤ 32) || code == 0x85 || code == 0xa0 ||
    code == 0x1680 || (0x2000 ≤ code && code ≤ 0x200a) || code == 0x2028 || code == 0x2029 ||
    code == 0x202f || code == 0x205f || code == 0x3000

/-- The maximal runs of characters between breaks; there is always at least one, possibly empty. -/
def pieces (isBreak : Char → Bool) (text : List Char) : List (List Char) :=
  text.foldr
    (fun c rest =>
      if isBreak c then [] :: rest
      else match rest with
        | [] => [[c]]
        | piece :: later => (c :: piece) :: later)
    [[]]

/-- Removes the blanks at the start. -/
def stripStart (text : List Char) : List Char :=
  text.dropWhile isBlank

/-- Removes the blanks at the end. -/
def stripEnd (text : List Char) : List Char :=
  (text.reverse.dropWhile isBlank).reverse

/-- Removes the blanks at both ends. -/
def strip (text : List Char) : List Char :=
  stripEnd (stripStart text)

/-- The maximal blank-free runs of a text, in order. -/
def words (text : List Char) : List (List Char) :=
  (pieces isBlank text).filter (fun word => !word.isEmpty)

/-- Cuts after every line feed and keeps it; a text that ends in one has no further line. -/
def terminatedLines (text : List Char) : List (List Char) :=
  text.foldr
    (fun c rest =>
      if c = '\n' then [c] :: rest
      else match rest with
        | [] => [[c]]
        | line :: later => (c :: line) :: later)
    []

/-- Makes every line end a line feed: a carriage return becomes one, together with a line feed that
follows it. -/
def unifyLineEnds (text : List Char) : List Char :=
  (text.zip (none :: text.map some)).filterMap fun (c, previous) =>
    if c = '\n' ∧ previous = some '\r' then none
    else if c = '\r' then some '\n'
    else some c

/-- The characters that end a line of a message. -/
def isLineEnd (c : Char) : Bool :=
  let code := c.toNat
  (10 ≤ code && code ≤ 13) || (28 ≤ code && code ≤ 30) || code == 0x85 ||
    code == 0x2028 || code == 0x2029

/-- The lines of a message without their ends; an end at the very end opens no further line. -/
def messageLines (text : List Char) : List (List Char) :=
  let lines := pieces isLineEnd (unifyLineEnds text)
  if lines.getLast? = some [] then lines.dropLast else lines

end HingeField.Text
