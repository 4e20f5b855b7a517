import HingeField.Model
import HingeField.Results

/-!
Solutions of a solver, put into a model: the category codes of its blocks in
order, from a list, from a results text, or from the bytes of a results file.
-/

namespace HingeField.Solution

/-- Puts one block into the state of its code, which must be one of its categories. -/
def applyCode (position : Nat) (code : Int) : Action Float Unit := do
  let block ← Effect.ofExcept ((← get).blockAt position)
  unless 0 ≤ code ∧ code < block.cardinality do
    throw <| .format {
      summary := "category out of range for variable " ++ toString position
      expected := some ("0.." ++ toString (block.cardinality - 1))
      actual := some (toString code) }
  Model.assignCategory position code

/-- Puts the blocks into the states of their codes, one after the other; a code out of range leaves
the blocks before it changed. Blocks without a code are left alone. -/
def apply (codes : List Int) : Action Float Unit := do
  let count := (← get).blocks.length
  if count < codes.length then
    throw <| .format {
      summary := "assignment references more variables than the model has"
      expected := some ("<= " ++ toString count ++ " values")
      actual := some (toString codes.length ++ " values") }
  codes.zipIdx.forM fun (code, position) => applyCode position code

/-- Reads a results text into a model and returns its codes. -/
def read (lines : List String) (task : String) : Action Float (List Int) := do
  let codes ← Effect.ofExcept (Results.parse lines task)
  apply codes
  return codes

/-- The characters of an ASCII file. The fault shows the first byte of another kind, on the line
counted by the line feeds before it. -/
def asciiText (bytes : List UInt8) : Except Fault (List Char) :=
  let ascii := bytes.takeWhile (· < 128)
  match bytes.drop ascii.length with
  | [] => .ok (ascii.map fun byte => Char.ofNat byte.toNat)
  | byte :: _ =>
      .error <| .format {
        summary := "non-ASCII byte in solver output"
        expected := some "ASCII text"
        actual := some (Text.quotedHighByte byte)
        line := some (ascii.count 10 + 1) }

/-- Reads the bytes of a results file into a model; any line end ends a line. -/
def readBytes (bytes : List UInt8) (task : String) : Action Float (List Int) := do
  let text ← Effect.ofExcept (asciiText bytes)
  let lines := (Text.terminatedLines (Text.unifyLineEnds text)).map String.ofList
  read lines task

end HingeField.Solution
