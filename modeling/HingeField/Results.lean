import HingeField.Decimal.Numeral
import HingeField.Fault

/-!
The results text that a solver writes:

    <task>
    1                       marks a solution, which is the next line,
    <count> <code> …        whatever that line holds
    -BEGIN-                 may separate solutions, as may blank lines

The first line names the task. Solvers write ever better solutions, and the
last one counts: its words after the first are the category codes.
-/

namespace HingeField.Results

/-- Trimmed lines that may stand between solutions. -/
def isSeparator (line : List Char) : Bool :=
  line.isEmpty || line == "-BEGIN-".toList

/-- The trimmed line that announces a solution. -/
def marker : String := "1"

/-- The last solution line of the remaining lines with its line number, or else the one found
before them. -/
def lastSolution (number : Nat) (found : Option (Nat × String)) :
    List String → Except Fault (Option (Nat × String))
  | [] => .ok found
  | line :: rest =>
      let trimmed := Text.strip line.toList
      if isSeparator trimmed then lastSolution (number + 1) found rest
      else if trimmed ≠ marker.toList then
        .error <| .format {
          summary := "results contain multiple assignments in a single solution"
          expected := some marker
          actual := some (String.ofList trimmed)
          line := some number }
      else match rest with
        | [] =>
            .error <| .format {
              summary := "missing assignment line after solution marker"
              line := some (number + 1) }
        | solution :: rest => lastSolution (number + 2) (some (number + 1, solution)) rest

/-- The codes of a solution line. -/
def codesOf (number : Nat) (solution : String) : Except Fault (List Int) :=
  match Text.words solution.toList with
  | [] => .error <| .format { summary := "assignment line is empty", line := some number }
  | _ :: words =>
      words.mapM fun word =>
        match Decimal.integer word with
        | .ok code => .ok code
        | .error defect =>
            .error <| .format {
              summary := "malformed assignment: " ++ numeralMessage (String.ofList word) defect
              actual := some (String.ofList (Text.strip solution.toList))
              line := some number }

/-- The category codes of the last solution. -/
def parse (lines : List String) (task : String) : Except Fault (List Int) :=
  match lines with
  | [] =>
      .error <| .format { summary := "results are empty", expected := some task, line := some 1 }
  | header :: rest => do
      let trimmed := Text.stripEnd header.toList
      if trimmed ≠ task.toList then
        throw <| .format {
          summary := "results are not for the requested task"
          expected := some task
          actual := some (String.ofList trimmed)
          line := some 1 }
      match (← lastSolution 2 none rest) with
      | none =>
          throw <| .format {
            summary := "results contain no solution"
            expected := some marker
            line := some 2 }
      | some (number, solution) => codesOf number solution

/-- The lines of a text, each with the line feed that ends it. -/
def linesOf (text : String) : List String :=
  (Text.terminatedLines text.toList).map String.ofList

end HingeField.Results
