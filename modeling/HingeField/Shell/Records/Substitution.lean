import HingeField.Shell.Records.Expression

/-!
Matches replaced in texts of bytes. In the replacement an ampersand stands for the
match; of backslashes in front of one, each two stand for one, and one that is left
over makes the ampersand stand for itself.
-/

namespace HingeField.Shell.Records

open Utility (Regex Matching)

/-- The text that replaces a match. -/
def replacementFor (matched : List Char) : Nat → List Char → List Char
  | 0, _ => []
  | _ + 1, [] => []
  | fuel + 1, c :: rest =>
      if c == '\\' then
        let run := (c :: rest).takeWhile (· == '\\')
        match (c :: rest).drop run.length with
        | '&' :: behind =>
            let front := List.replicate (run.length / 2) '\\'
            let sign := if run.length % 2 = 1 then ['&'] else matched
            front ++ sign ++ replacementFor matched fuel behind
        | behind => run ++ replacementFor matched fuel behind
      else if c == '&' then matched ++ replacementFor matched fuel rest
      else c :: replacementFor matched fuel rest

/-- A text with the first match, or all of them, replaced from a place on, and how many there were.
An empty match right behind another one does not count. -/
def replaceIn (matching : Matching) (regex : Regex) (isGlobal : Bool) (replacement : List Char) :
    Nat → Nat → Option Nat → List Char × Nat
  | 0, _, _ => ([], 0)
  | fuel + 1, place, behind? =>
      let text := fun start stop : Nat => (matching.text.extract start stop).toList
      match matching.find? regex place with
      | none => (text place matching.text.size, 0)
      | some (start, way) =>
          let isEmpty := start == way.place
          let next := text start (start + 1)
          if isEmpty && behind? == some start then
            if next.isEmpty then (text place start, 0)
            else
              let (rest, count) :=
                replaceIn matching regex isGlobal replacement fuel (start + 1) none
              (text place (start + 1) ++ rest, count)
          else
            let replaced :=
              replacementFor (text start way.place) (replacement.length + 1) replacement
            let front := text place start ++ replaced
            if !isGlobal then (front ++ text way.place matching.text.size, 1)
            else if isEmpty then
              if next.isEmpty then (front, 1)
              else
                let (rest, count) :=
                  replaceIn matching regex isGlobal replacement fuel (start + 1) none
                (front ++ next ++ rest, count + 1)
            else
              let (rest, count) :=
                replaceIn matching regex isGlobal replacement fuel way.place (some way.place)
              (front ++ rest, count + 1)

/-- A text with matches replaced, and how many there were. -/
def replaced (regex : Regex) (isGlobal : Bool) (replacement octets : String) : String × Nat :=
  let matching := matchingOf octets
  let (text, count) :=
    replaceIn matching regex isGlobal replacement.toList (octets.length + 2) 0 none
  (String.ofList text, count)

/-- Where a text stands in another one, from one on; zero if it does not. -/
def indexIn (octets part : String) : Nat :=
  if part.isEmpty then if octets.isEmpty then 0 else 1
  else
    match octets.splitOn part with
    | front :: _ :: _ => front.length + 1
    | _ => 0

/-- The bytes of a text from a place on, as many as asked for. A place in front of the text lets the
piece grow by as much as it lies there. -/
def substring (octets : String) (start : Int) (length? : Option Int) : String :=
  let length := length?.getD octets.length
  let (start, length) := if start < 1 then (1, length - start) else (start, length)
  ((octets.drop (start.toNat - 1)).toString.take length.toNat).toString

end HingeField.Shell.Records
