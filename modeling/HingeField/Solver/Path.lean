import HingeField.Text.Lines

/-!
Paths by their text alone: separators that repeat and components that name
the same directory are dropped, components that name the parent are kept.
-/

namespace HingeField

/-- The root of a path, empty for a relative one, and its components. Exactly two leading separators
make a root of their own. -/
structure Path where
  root : String
  parts : List String
deriving DecidableEq

namespace Path

def rootOf (text : List Char) : String :=
  match (text.takeWhile (· == '/')).length with
  | 0 => ""
  | 2 => "//"
  | _ => "/"

def ofString (text : String) : Path :=
  let pieces := (Text.pieces (· == '/') text.toList).map String.ofList
  { root := rootOf text.toList
    parts := pieces.filter fun piece => piece != "" && piece != "." }

/-- A second path that has a root replaces the first. -/
def join (base next : Path) : Path :=
  if next.root = "" then { base with parts := base.parts ++ next.parts } else next

def isAbsolute (path : Path) : Bool :=
  path.root != ""

/-- The path without its last component. -/
def parent (path : Path) : Path :=
  { path with parts := path.parts.dropLast }

/-- The path of no components is the current directory. -/
def text (path : Path) : String :=
  let joined := path.root ++ String.intercalate "/" path.parts
  if joined.isEmpty then "." else joined

end Path

end HingeField
