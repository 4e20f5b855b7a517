import HingeField.Shell.Utility.Desk

/-!
The command that puts words in an order in which, of each pair that it is given,
the first stands before the second. Words that nothing has to stand before come
out first; where the pairs lead in a circle, one of them is dropped.
-/

namespace HingeField.Shell.Utility.Dependence

/-- A word: how many others still have to stand before it, and those it stands before, the last
named first. -/
structure Item where
  text : String
  count : Nat := 0
  behind : List Nat := []
  isDone : Bool := false
  /-- The next item on the way along which a circle is looked for. -/
  link? : Option Nat := none

/-- The words in order of their bytes. -/
abbrev Items := Array Item

/-- The items of the words, with the pairs noted. -/
def ofPairs (words : List String) : Items :=
  let names := (words.mergeSort fun first second => !(second < first)).eraseReps
  let place := fun text : String => (names.idxOf? text).getD 0
  let rec note : Nat → List String → Items → Items
    | 0, _, items => items
    | fuel + 1, first :: second :: rest, items =>
        let items :=
          if first == second then items
          else
            let upper := place first
            let lower := place second
            let items := items.modify lower fun item => { item with count := item.count + 1 }
            items.modify upper fun item => { item with behind := lower :: item.behind }
        note fuel rest items
    | _, _, items => items
  note (words.length + 1) words (names.map fun text => { text : Item }).toArray

/-- Puts out the words of a queue and those that come to its end meanwhile. -/
def release : Nat → List Nat → Items → List String → Items × List String
  | 0, _, items, shown => (items, shown)
  | _, [], items, shown => (items, shown)
  | fuel + 1, place :: queue, items, shown =>
      let item := items.getD place { text := "" }
      let items := items.modify place fun item => { item with isDone := true }
      let (items, freed) := item.behind.foldl
        (fun (items, freed) (lower : Nat) =>
          let items : Items := items.modify lower fun item => { item with count := item.count - 1 }
          if (items[lower]?).any fun item => item.count = 0 then (items, freed ++ [lower])
          else (items, freed))
        (items, ([] : List Nat))
      release fuel (queue ++ freed) items (item.text :: shown)

/-- What looking for a circle has come to at an item. -/
structure Hunt where
  items : Items
  /-- The item that the way has come to. -/
  loop? : Option Nat := none
  /-- The words of the circle. -/
  circle : List String := []
  isFound : Bool := false

/-- The words on the way from an item back to another one, whose link is dropped. -/
def unwind (last : Nat) : Nat → Nat → Items → List String × Items
  | 0, _, items => ([], items)
  | fuel + 1, place, items =>
      let item := items.getD place { text := "" }
      if place = last then ([item.text], items)
      else
        let items := items.modify place fun item => { item with link? := none }
        match item.link? with
        | none => ([item.text], items)
        | some next =>
            let (texts, items) := unwind last fuel next items
            (item.text :: texts, items)

/-- Looks at an item on the way along which a circle may be found. -/
def inspect (hunt : Hunt) (place : Nat) : Hunt :=
  let item := hunt.items.getD place { text := "" }
  if hunt.isFound || item.count = 0 then hunt
  else
    match hunt.loop? with
    | none => { hunt with loop? := some place }
    | some loop =>
        if !item.behind.contains loop then hunt
        else if item.link?.isSome then
          let (texts, items) := unwind place (hunt.items.size + 1) loop hunt.items
          let items := items.modify loop fun item => { item with count := item.count - 1 }
          let items := items.modify place fun item =>
            { item with behind := item.behind.erase loop }
          { items := items.map fun item => { item with link? := none }
            circle := texts, isFound := true }
        else
          { hunt with
            items := hunt.items.modify place fun item => { item with link? := some loop }
            loop? := some place }

/-- Finds a circle and drops a pair of it: goes over all items again until the way along which one
is looked for has met itself. -/
def breakCircle : Nat → Hunt → Hunt
  | 0, hunt => hunt
  | fuel + 1, hunt =>
      let after := (List.range hunt.items.size).foldl inspect hunt
      if after.isFound || after.loop?.isNone then after else breakCircle fuel after

end Dependence

open Dependence in
/-- Puts out all words; where there is a circle, it is reported. -/
def putInOrder (name : String) : Nat → Items → Work Unit
  | 0, _ => pure ()
  | fuel + 1, items => do
      let ready := (List.range items.size).filter fun place =>
        (items[place]?).any fun item => item.count = 0 && !item.isDone
      let (items, shown) := release (items.size + 1) ready items []
      for text in shown.reverse do put (text ++ "\n")
      unless items.all Item.isDone do
        warn 1 (name ++ ": input contains a loop:")
        let hunt := breakCircle (items.size * items.size + 2) { items }
        for text in hunt.circle do remark text
        putInOrder name fuel hunt.items

def sortByPairs (operands : List String) : Work Unit :=
  withOptions "" [] 1 operands fun options => do
    match options.operands with
    | _ :: extra :: _ => misuse 1 ("extra operand " ++ inCurlyQuotes extra)
    | names =>
        let name := names.headD "-"
        match ← readOperand name with
        | .error fault => warn 1 (shownName name ++ ": " ++ faultText fault)
        | .ok octets =>
            let words := (octets.splitToList fun c => c == ' ' || c == '\t' || c == '\n').filter
              fun word => !word.isEmpty
            if words.length % 2 = 1 then
              warn 1 (shownName name ++ ": input contains an odd number of tokens")
            else putInOrder (shownName name) (words.length + 2) (Dependence.ofPairs words)

end HingeField.Shell.Utility
