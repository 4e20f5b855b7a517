import HingeField.Shell.Fields
import HingeField.Shell.Host.Status

/-!
The names of files that a field stands for. The field is a pattern of paths:
signs of one component never fit a separator, and a name that starts with a dot
must have that dot in the pattern.
-/

namespace HingeField.Shell

/-- The names in a directory, in order. -/
def namesIn (disk : Disk) (directory : Nat) : List String :=
  ((disk.names directory).map (·.1)).mergeSort fun first second => !(second < first)

/-- The names in a directory given by a path, with those that lead to itself and out of it. -/
def namesAt (machine : Machine) (path : String) : List String :=
  match machine.disk.find? machine.own.here (if path.isEmpty then "." else path) with
  | some number =>
      if machine.disk.isDirectory number then "." :: ".." :: namesIn machine.disk number else []
  | none => []

/-- Whether a name fits a component of a path. -/
def fitsComponent (component : Pattern) (name : String) : Bool :=
  let start := (Pattern.plainText component).head?
  (start == some '.' || !name.startsWith ".") && component.fitsText name.toList

/-- The paths that a pattern leads to behind a path already found. -/
def pathsFrom (machine : Machine) : Nat → String → Pattern → List String
  | 0, _, _ => []
  | _ + 1, found, [] =>
      if (machine.status false found).isOk then [found] else []
  | fuel + 1, found, (c, isActive) :: rest =>
      if c == '/' then pathsFrom machine fuel (found.push '/') rest
      else
        let component := ((c, isActive) :: rest).takeWhile fun part => part.1 != '/'
        let behind := ((c, isActive) :: rest).drop component.length
        if Pattern.isSelective component then
          let names := (namesAt machine found).filter (fitsComponent component)
          names.flatMap fun name => pathsFrom machine fuel (found ++ name) behind
        else
          pathsFrom machine fuel (found ++ String.ofList (Pattern.plainText component)) behind

/-- The texts that a field stands for: the paths it fits, in order, or itself if it is no pattern or
fits none. -/
def textsOf (machine : Machine) (field : List Item) : List String :=
  let pattern := patternOf field
  if !Pattern.isSelective pattern then [Pattern.text pattern]
  else
    match pathsFrom machine (pattern.length + 1) "" pattern with
    | [] => [Pattern.text pattern]
    | paths => paths.mergeSort fun first second => !(second < first)

end HingeField.Shell
