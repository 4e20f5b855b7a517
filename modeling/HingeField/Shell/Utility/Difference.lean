import Std.Data.HashMap

/-!
How two rows of lines differ. Lines that have no counterpart are set aside first.
What is left is divided at the middle of a shortest way from the one row to the
other, until only changes stay. At last changes are moved along equal lines to
where those of the two rows meet.
-/

namespace HingeField.Shell.Utility

/-- A range of lines in each of two rows, of which the one takes the place of the other. -/
structure Change where
  row : Nat
  rowEnd : Nat
  column : Nat
  columnEnd : Nat

/-! ### Lines without a counterpart -/

/-- What is known of a line: it stays, has no counterpart, or has so many that it may be set aside
together with others. -/
inductive Standing where
  | kept
  | alone
  | common
deriving DecidableEq

namespace Standing

/-- How many counterparts a line of so many has at most to stay in any case. -/
def manyOf (count : Nat) : Nat :=
  doubled 64 (count / 64 / 4) 5
where
  doubled : Nat → Nat → Nat → Nat
    | 0, _, many => many
    | fuel + 1, rest, many => if rest = 0 then many else doubled fuel (rest / 4) (many * 2)

/-- How many common lines in a row stay within a run of so many lines. -/
def fewestOf (length : Nat) : Nat :=
  doubled 64 (length / 4 / 4) 1 + 1
where
  doubled : Nat → Nat → Nat → Nat
    | 0, _, few => few
    | fuel + 1, rest, few => if rest = 0 then few else doubled fuel (rest / 4) (few * 2)

/-- A run in which common lines stay up to three lines in a row without a counterpart, or one that
is far from the start. -/
def keepStart : Nat → Nat → List Standing → List Standing
  | _, _, [] => []
  | place, count, standing :: rest =>
      if 8 ≤ place && standing == .alone then standing :: rest
      else
        match standing with
        | .alone =>
            if count = 2 then standing :: rest
            else standing :: keepStart (place + 1) (count + 1) rest
        | _ => .kept :: keepStart (place + 1) 0 rest

/-- A run of lines that starts and ends with one that has no counterpart; common lines stay where
they are many. -/
def settleRun (run : List Standing) : List Standing :=
  let keptIfCommon := fun standing : Standing => if standing == .common then .kept else standing
  if run.length < run.count .common * 4 then run.map keptIfCommon
  else
    let few := fewestOf run.length
    let groups := run.splitBy fun first second => first == second
    let thinned := groups.flatMap fun group =>
      if few ≤ group.length then group.map keptIfCommon else group
    (keepStart 0 0 (keepStart 0 0 thinned).reverse).reverse

/-- The run of a row in which lines may be set aside; common lines at its ends stay. -/
def settleSpan (span : List Standing) : List Standing :=
  let lead := span.takeWhile (· == .common)
  let rest := span.drop lead.length
  let ending := rest.reverse.takeWhile (· == .common)
  lead.map (fun _ => .kept) ++ settleRun (rest.take (rest.length - ending.length)) ++
    ending.map fun _ => .kept

/-- The standings of all lines of a row. -/
def settle (standings : List Standing) : List Standing :=
  let spans := standings.splitBy fun first second => (first == .kept) == (second == .kept)
  spans.flatMap fun span => if span.head? == some .kept then span else settleSpan span

/-- How many lines of each class are in a row. -/
def countsOf (classes : Array Nat) : Std.HashMap Nat Nat :=
  classes.foldl (fun counts number => counts.insert number (counts.getD number 0 + 1)) {}

/-- Which lines of a row are set aside when it is compared with another one. -/
def aside (classes others : Array Nat) : Array Bool :=
  let counts := countsOf others
  let many := manyOf classes.size
  let standings := classes.toList.map fun number =>
    let count := counts.getD number 0
    if count = 0 then Standing.alone else if many < count then .common else .kept
  ((settle standings).map (· != .kept)).toArray

end Standing

/-! ### A shortest way -/

/-- A part of two rows: where it starts and ends in each of them. -/
structure Box where
  left : Nat
  right : Nat
  top : Nat
  bottom : Nat

/-- How far a search has come on each diagonal, and between which diagonals. A diagonal is known by
how much more of the first row is behind than of the second. -/
structure Frontier where
  reach : Array Int
  low : Int
  high : Int

/-- The two rows that are searched. -/
structure Rows where
  first : Array Nat
  second : Array Nat

namespace Rows

/-- Where the reach on a diagonal is kept. -/
def slot (rows : Rows) (diagonal : Int) : Nat :=
  (diagonal + rows.second.size + 1).toNat

def reachAt (rows : Rows) (frontier : Frontier) (diagonal : Int) : Int :=
  frontier.reach[rows.slot diagonal]?.getD 0

def setReach (rows : Rows) (frontier : Frontier) (diagonal reach : Int) : Frontier :=
  { frontier with reach := frontier.reach.setIfInBounds (rows.slot diagonal) reach }

def isSame (rows : Rows) (row column : Nat) : Bool :=
  rows.first[row]? == rows.second[column]?

/-- How many lines are the same from two places on, up to the end of a box. -/
def sameAhead (rows : Rows) (box : Box) : Nat → Nat → Nat → Nat
  | 0, _, _ => 0
  | fuel + 1, row, column =>
      if row < box.right && column < box.bottom && rows.isSame row column then
        sameAhead rows box fuel (row + 1) (column + 1) + 1
      else 0

/-- How many lines are the same in front of two places, down to the start of a box. -/
def sameBehind (rows : Rows) (box : Box) : Nat → Nat → Nat → Nat
  | 0, _, _ => 0
  | fuel + 1, row, column =>
      if box.left < row && box.top < column && rows.isSame (row - 1) (column - 1) then
        sameBehind rows box fuel (row - 1) (column - 1) + 1
      else 0

/-- A frontier with its limits moved outwards, or inwards where it is at the edge of a box; what is
beyond the new limits has no reach. -/
def widened (rows : Rows) (box : Box) (noReach : Int) (frontier : Frontier) : Frontier :=
  let least : Int := box.left - box.bottom
  let most : Int := box.right - box.top
  let frontier :=
    if least < frontier.low then
      rows.setReach { frontier with low := frontier.low - 1 } (frontier.low - 2) noReach
    else { frontier with low := frontier.low + 1 }
  if frontier.high < most then
    rows.setReach { frontier with high := frontier.high + 1 } (frontier.high + 2) noReach
  else { frontier with high := frontier.high - 1 }

/-- Searches one step further ahead on every second diagonal, until the other search is met. -/
def stepAhead (rows : Rows) (box : Box) (meets : Bool) (other : Frontier) :
    Nat → Int → Frontier → Except (Nat × Nat) Frontier
  | 0, _, frontier => .ok frontier
  | fuel + 1, diagonal, frontier =>
      if diagonal < frontier.low then .ok frontier
      else
        let below := rows.reachAt frontier (diagonal - 1)
        let above := rows.reachAt frontier (diagonal + 1)
        let start := if below < above then above else below + 1
        let size := rows.first.size + rows.second.size
        let row := start + rows.sameAhead box size start.toNat (start - diagonal).toNat
        let frontier := rows.setReach frontier diagonal row
        if meets && other.low ≤ diagonal && diagonal ≤ other.high &&
            rows.reachAt other diagonal ≤ row then
          .error (row.toNat, (row - diagonal).toNat)
        else stepAhead rows box meets other fuel (diagonal - 2) frontier

/-- Searches one step further back on every second diagonal, until the other search is met. -/
def stepBack (rows : Rows) (box : Box) (meets : Bool) (other : Frontier) :
    Nat → Int → Frontier → Except (Nat × Nat) Frontier
  | 0, _, frontier => .ok frontier
  | fuel + 1, diagonal, frontier =>
      if diagonal < frontier.low then .ok frontier
      else
        let below := rows.reachAt frontier (diagonal - 1)
        let above := rows.reachAt frontier (diagonal + 1)
        let start := if below < above then below else above - 1
        let size := rows.first.size + rows.second.size
        let row := start - rows.sameBehind box size start.toNat (start - diagonal).toNat
        let frontier := rows.setReach frontier diagonal row
        if meets && other.low ≤ diagonal && diagonal ≤ other.high &&
            row ≤ rows.reachAt other diagonal then
          .error (row.toNat, (row - diagonal).toNat)
        else stepBack rows box meets other fuel (diagonal - 2) frontier

/-- Searches from both ends of a box until the two searches meet. -/
def meet (rows : Rows) (box : Box) (isOdd : Bool) :
    Nat → Frontier → Frontier → Except (Nat × Nat) Unit
  | 0, _, _ => .ok ()
  | fuel + 1, ahead, back => do
      let size := rows.first.size + rows.second.size + 2
      let ahead := rows.widened box (-1) ahead
      let ahead ← rows.stepAhead box isOdd back size ahead.high ahead
      let back := rows.widened box (size : Nat) back
      let back ← rows.stepBack box (!isOdd) ahead size back.high back
      meet rows box isOdd fuel ahead back

/-- A place on a shortest way through a box, near its middle. -/
def middle (rows : Rows) (box : Box) : Nat × Nat :=
  let size := rows.first.size + rows.second.size + 4
  let start : Int := box.left - box.top
  let goal : Int := box.right - box.bottom
  let frontier := fun (diagonal reach : Int) =>
    rows.setReach { reach := Array.replicate size 0, low := diagonal, high := diagonal }
      diagonal reach
  let isOdd := (start - goal) % 2 != 0
  match rows.meet box isOdd size (frontier start box.left) (frontier goal box.right) with
  | .error place => place
  | .ok () => (box.right, box.bottom)

end Rows

/-- Which lines of each of two rows are changes. -/
structure Marks where
  first : Array Bool
  second : Array Bool

namespace Marks

def markFirst (marks : Marks) (place : Nat) : Marks :=
  { marks with first := marks.first.setIfInBounds place true }

def markSecond (marks : Marks) (place : Nat) : Marks :=
  { marks with second := marks.second.setIfInBounds place true }

end Marks

/-- Marks the changes in a box. -/
def Rows.markBox (rows : Rows) : Nat → Box → Marks → Marks
  | 0, _, marks => marks
  | fuel + 1, box, marks =>
      let size := rows.first.size + rows.second.size
      let ahead := rows.sameAhead box size box.left box.top
      let box := { box with left := box.left + ahead, top := box.top + ahead }
      let behind := rows.sameBehind box size box.right box.bottom
      let box := { box with right := box.right - behind, bottom := box.bottom - behind }
      if box.left = box.right then
        (List.range' box.top (box.bottom - box.top)).foldl Marks.markSecond marks
      else if box.top = box.bottom then
        (List.range' box.left (box.right - box.left)).foldl Marks.markFirst marks
      else
        let (row, column) := rows.middle box
        let marks := rows.markBox fuel { box with right := row, bottom := column } marks
        rows.markBox fuel { box with left := row, top := column } marks

/-! ### Where changes stand -/

/-- The start of the run of changes that ends at a place. -/
def runStart (marks : Array Bool) : Nat → Nat
  | 0 => 0
  | place + 1 => if marks[place]?.getD false then runStart marks place else place + 1

/-- The first place from one on that is no change. -/
def nextKept (marks : Array Bool) : Nat → Nat → Nat
  | 0, place => place
  | fuel + 1, place =>
      if marks[place]?.getD false then nextKept marks fuel (place + 1) else place

/-- The last place in front of one that is no change. -/
def lastKept (marks : Array Bool) : Nat → Nat
  | 0 => 0
  | place + 1 => if marks[place]?.getD false then lastKept marks place else place

/-- A run of changes that is being moved, and the place of its end in the other row. -/
structure Moving where
  marks : Array Bool
  start : Nat
  stop : Nat
  place : Nat
  /-- Where the run has ended last when it was next to changes of the other row. -/
  meeting? : Option Nat := none

namespace Moving

/-- Moves a run one line back. -/
def back (other : Array Bool) (moving : Moving) : Moving :=
  { moving with
    marks := (moving.marks.setIfInBounds (moving.start - 1) true).setIfInBounds
      (moving.stop - 1) false
    start := moving.start - 1, stop := moving.stop - 1, place := lastKept other moving.place }

/-- Moves a run back as far as the line before it is the same as its last one. Runs that it comes to
are joined to it. -/
def furthestBack (classes : Array Nat) (other : Array Bool) : Nat → Moving → Moving
  | 0, moving => moving
  | fuel + 1, moving =>
      if 0 < moving.start && classes[moving.start - 1]? == classes[moving.stop - 1]? then
        let moved := moving.back other
        furthestBack classes other fuel { moved with start := runStart moved.marks moved.start }
      else moving

/-- Moves a run on as far as the line behind it is the same as its first one. Runs that it comes to
are joined to it. -/
def furthestOn (classes : Array Nat) (other : Array Bool) : Nat → Moving → Moving
  | 0, moving => moving
  | fuel + 1, moving =>
      if moving.stop < classes.size && classes[moving.start]? == classes[moving.stop]? then
        let marks :=
          (moving.marks.setIfInBounds moving.start false).setIfInBounds moving.stop true
        let stop := nextKept marks classes.size (moving.stop + 1)
        let place := nextKept other other.size (moving.place + 1)
        furthestOn classes other fuel
          { marks, start := moving.start + 1, stop, place
            meeting? := if moving.place + 1 < place then some stop else moving.meeting? }
      else moving

/-- Moves a run to and fro until it joins no more. -/
def settle (classes : Array Nat) (other : Array Bool) : Nat → Moving → Moving
  | 0, moving => moving
  | fuel + 1, moving =>
      let length := moving.stop - moving.start
      let moved := moving.furthestBack classes other classes.size
      let isMeeting := 0 < moved.place && other[moved.place - 1]?.getD false
      let moved := { moved with meeting? := if isMeeting then some moved.stop else none }
      let moved := moved.furthestOn classes other classes.size
      if moved.stop - moved.start = length then moved else settle classes other fuel moved

/-- Moves a run back to where it has last been next to changes of the other row. -/
def backTo (other : Array Bool) (goal : Nat) : Nat → Moving → Moving
  | 0, moving => moving
  | fuel + 1, moving =>
      if goal < moving.stop then backTo other goal fuel (moving.back other) else moving

end Moving

/-- Moves the changes of a row to where they meet those of another one, or as far on as they go. -/
def moveChanges (classes : Array Nat) (other : Array Bool) :
    Nat → Nat → Nat → Array Bool → Array Bool
  | 0, _, _, marks => marks
  | fuel + 1, place, otherPlace, marks =>
      if classes.size ≤ place then marks
      else if marks[place]?.getD false then
        let moving : Moving :=
          { marks, start := place, stop := nextKept marks classes.size place
            place := nextKept other other.size otherPlace }
        let moved := moving.settle classes other (classes.size + 1)
        let moved := moved.backTo other (moved.meeting?.getD moved.stop) classes.size
        moveChanges classes other fuel moved.stop moved.place moved.marks
      else
        moveChanges classes other fuel (place + 1) (nextKept other other.size otherPlace + 1) marks

/-! ### Changes -/

/-- The changes that are marked, from two places on that belong together. -/
def Marks.changes (marks : Marks) : Nat → Nat → Nat → List Change
  | 0, _, _ => []
  | fuel + 1, row, column =>
      if marks.first.size ≤ row && marks.second.size ≤ column then []
      else
        let rowEnd := nextKept marks.first marks.first.size row
        let columnEnd := nextKept marks.second marks.second.size column
        let own : List Change :=
          if row = rowEnd && column = columnEnd then [] else [{ row, rowEnd, column, columnEnd }]
        own ++ marks.changes fuel (rowEnd + 1) (columnEnd + 1)

/-- The places that are not set aside. -/
def placesLeft (aside : Array Bool) : Array Nat :=
  (Array.range aside.size).filter fun place => !(aside[place]?.getD false)

/-- Which lines of two rows are changes. No lines are set aside if the changes are to be as few as
can be. -/
def Rows.marks (rows : Rows) (isLeast : Bool) : Marks :=
  let none := fun row : Array Nat => Array.replicate row.size false
  let firstAside :=
    if isLeast then none rows.first else Standing.aside rows.first rows.second
  let secondAside :=
    if isLeast then none rows.second else Standing.aside rows.second rows.first
  let firstLeft := placesLeft firstAside
  let secondLeft := placesLeft secondAside
  let left : Rows :=
    { first := firstLeft.map fun place => rows.first[place]?.getD 0
      second := secondLeft.map fun place => rows.second[place]?.getD 0 }
  let box : Box := { left := 0, right := firstLeft.size, top := 0, bottom := secondLeft.size }
  let found := left.markBox (firstLeft.size + secondLeft.size + 1) box
    { first := Array.replicate firstLeft.size false
      second := Array.replicate secondLeft.size false }
  let merged := fun (aside : Array Bool) (left : Array Nat) (found : Array Bool) =>
    (left.zip found).foldl (fun marks (place, isChange) => marks.setIfInBounds place isChange) aside
  let first := merged firstAside firstLeft found.first
  let second := merged secondAside secondLeft found.second
  let fuel := 2 * (rows.first.size + rows.second.size) + 2
  let first := moveChanges rows.first second fuel 0 0 first
  { first, second := moveChanges rows.second first fuel 0 0 second }

/-- Rows of lines by numbers for their classes: lines are in one class if their keys are the
same. -/
def rowsOf (first second : List String) : Rows :=
  let step := fun (state : Std.HashMap String Nat × Array Nat) (key : String) =>
    match state.1[key]? with
    | some number => (state.1, state.2.push number)
    | none => (state.1.insert key state.1.size, state.2.push state.1.size)
  let (table, numbers) := first.foldl step ({}, #[])
  { first := numbers, second := (second.foldl step (table, #[])).2 }

/-- How many pairs at the start of two lists are the same. -/
def sameStart {α : Type} [BEq α] : List α → List α → Nat
  | first :: firsts, second :: seconds =>
      if first == second then sameStart firsts seconds + 1 else 0
  | _, _ => 0

/-- How changes are looked for. -/
structure ChangeSearch where
  /-- How many of the equal lines around all changes may be part of them. -/
  horizon : Nat := 0
  isLeast : Bool := false
  /-- Whether equal lines at the ends are left out of the search. -/
  dropsEnd : Bool := true

/-- The changes between lines, which are given as they are and by the keys they are compared by. -/
def ChangeSearch.changes (search : ChangeSearch) (first second firstKeys secondKeys : List String) :
    List Change :=
  let start := sameStart first second - search.horizon
  let behind := fun lines : List String => (lines.drop start).reverse
  let ending :=
    if search.dropsEnd then sameStart (behind first) (behind second) - search.horizon else 0
  let inside := fun keys : List String => (keys.drop start).take (keys.length - start - ending)
  let rows := rowsOf (inside firstKeys) (inside secondKeys)
  let marks := rows.marks search.isLeast
  (marks.changes (rows.first.size + rows.second.size + 2) 0 0).map fun change =>
    { row := change.row + start, rowEnd := change.rowEnd + start
      column := change.column + start, columnEnd := change.columnEnd + start }

end HingeField.Shell.Utility
