import HingeField.Shell.Utility.Dump

/-!
The command that compares the bytes of two files and tells where they differ
first, or all places where they do.
-/

namespace HingeField.Shell.Utility

/-- Two byte texts as they are compared: their names, and what is left of them. -/
structure Compared where
  first : String
  second : String
  left : String
  right : String

/-- Puts out where the texts differ: each place, or the first one with its bytes on request. -/
def Compared.showDifference (compared : Compared) (options : Options) (place : Nat) :
    Work Unit := do
  let pairs := compared.left.toList.zip compared.right.toList
  let octal := fun c : Char => padLeft 3 (String.ofList (Nat.toDigits 8 c.toNat))
  if options.has 'l' then
    let width := (toString (min compared.left.length compared.right.length)).length
    for ((a, b), index) in pairs.zipIdx do
      if a != b then
        put (padLeft width (toString (index + 1)) ++ " " ++ octal a ++ " " ++ octal b ++ "\n")
  else unless options.has 's' do
    let number := ((compared.left.toList.take place).count '\n') + 1
    let shown :=
      match options.has 'b', pairs[place]? with
      | true, some (a, b) =>
          " is " ++ octal a ++ " " ++ String.singleton a ++ " " ++ octal b ++ " " ++
            String.singleton b
      | _, _ => ""
    put (compared.first ++ " " ++ compared.second ++ " differ: byte " ++ toString (place + 1) ++
      ", line " ++ toString number ++ shown ++ "\n")

/-- Reports the text that ends where the other one goes on. -/
def Compared.showEnd (compared : Compared) (options : Options) : Work Unit := do
  let (name, shorter) :=
    if compared.left.length < compared.right.length then (compared.first, compared.left)
    else (compared.second, compared.right)
  let lines := shorter.toList.count '\n'
  let place :=
    if shorter.isEmpty then " which is empty"
    else " after byte " ++ toString shorter.length ++ ", " ++
      (if shorter.endsWith "\n" then "line " ++ toString lines
       else "in line " ++ toString (lines + 1))
  unless options.has 's' do remark ("EOF on " ++ name ++ place)

def compareWith (options : Options) (first second : String) (skips : List Nat) : Work Unit := do
  match ← readOperand first, ← readOperand second with
  | .error fault, _ => warn 2 (first ++ ": " ++ faultText fault)
  | _, .error fault => warn 2 (second ++ ": " ++ faultText fault)
  | .ok left, .ok right =>
      let limited := fun octets : String =>
        match (options.argument? 'n').bind count? with
        | some most => (octets.take most).toString
        | none => octets
      let compared : Compared :=
        { first, second
          left := limited (left.drop (skips.headD 0)).toString
          right := limited (right.drop (skips.getD 1 0)).toString }
      let pairs := compared.left.toList.zip compared.right.toList
      match pairs.findIdx? fun (a, b) => a != b with
      | some place =>
          setStatus 1
          compared.showDifference options place
      | none =>
          if compared.left.length ≠ compared.right.length then
            setStatus 1
            compared.showEnd options

def compareBytes (operands : List String) : Work Unit := do
  let names : LongNames :=
    [("silent", 's'), ("quiet", 's'), ("verbose", 'l'), ("print-bytes", 'b'), ("bytes", 'n'),
      ("ignore-initial", 'i')]
  match findOptions "slbn:i:".toList names false operands with
  | .error defect => misuseNamed defect.message
  | .ok options =>
      let given := (((options.argument? 'i').getD "").splitOn ":").filter fun text => text ≠ ""
      let given := if given.length = 1 then given ++ given else given
      match options.operands with
      | [] => misuseNamed "missing operand after 'cmp'"
      | _ :: _ :: _ :: _ :: extra :: _ =>
          misuseNamed ("extra operand '" ++ extra ++ "'")
      | first :: rest =>
          let skips := if rest.length < 2 then given else rest.drop 1
          match skips.find? fun text => (count? text).isNone with
          | some text => misuseNamed ("invalid --ignore-initial value '" ++ text ++ "'")
          | none => compareWith options first (rest.headD "-") (skips.filterMap count?)

end HingeField.Shell.Utility
