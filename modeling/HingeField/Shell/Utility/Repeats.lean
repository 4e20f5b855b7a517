import HingeField.Shell.Utility.Order

/-!
The command on lines that repeat: of each run of lines that are the same, up to
what is left out, one is shown, or none, or all of them.
-/

namespace HingeField.Shell.Utility

/-- A text without its first fields. -/
def withoutFields : Nat → List Char → List Char
  | 0, text => text
  | count + 1, text =>
      let behind := text.dropWhile isFieldBlank
      withoutFields count (behind.dropWhile fun c => !isFieldBlank c)

/-- Where an empty line is put between the groups of lines that are shown. -/
inductive Parting where
  | none
  | before
  | between
  | after
  | around
deriving DecidableEq

/-- Which lines are shown, and how. -/
structure RepeatPlan where
  isCounted : Bool
  showsSingle : Bool
  showsFirst : Bool
  showsLater : Bool
  /-- Where all lines are shown in groups, how these are parted. -/
  grouping? : Option Parting
  parting : Parting
  lineEnd : Char
  key : String → String

/-- How far a run of lines has come. -/
structure RepeatState where
  /-- The last line and its key. -/
  line? : Option (String × String) := none
  /-- How often the line has been repeated. -/
  count : Nat := 0
  isFirst : Bool := true

namespace RepeatPlan

def putLine (plan : RepeatPlan) (write : String → Work Unit) (text : String) (isLater : Bool)
    (count : Nat) : Work Unit := do
  let isShown :=
    if count = 0 then plan.showsSingle
    else if isLater then plan.showsLater
    else plan.showsFirst
  if isShown then
    let digits := toString (count + 1)
    let lead :=
      if plan.isCounted then
        String.ofList (List.replicate (7 - digits.length) ' ') ++ digits ++ " "
      else ""
    write ((lead ++ text).push plan.lineEnd)

/-- Deals with the next line where groups are shown. -/
def stepGrouped (plan : RepeatPlan) (write : String → Work Unit) (parting : Parting)
    (state : RepeatState) (text : String) : Work RepeatState := do
  let key := plan.key text
  let isNew := state.line?.all fun (_, before) => before != key
  let parts :=
    match parting with
    | .before | .around => true
    | .between | .after => !state.isFirst
    | .none => false
  if isNew && parts then write (String.singleton plan.lineEnd)
  write (text.push plan.lineEnd)
  return { state with line? := some (text, key), isFirst := false }

/-- Deals with the next line. -/
def step (plan : RepeatPlan) (write : String → Work Unit) (state : RepeatState) (text : String) :
    Work RepeatState := do
  match plan.grouping?, state.line? with
  | some parting, _ => plan.stepGrouped write parting state text
  | none, none => return { state with line? := some (text, plan.key text) }
  | none, some (before, beforeKey) =>
      let key := plan.key text
      let isSame := key == beforeKey
      let count := if isSame then state.count + 1 else state.count
      let isFirst := state.isFirst && (isSame || count = 0)
      if plan.parting != .none && isSame && count = 1 then
        if plan.parting == .before || !isFirst then write (String.singleton plan.lineEnd)
      if !isSame || plan.showsLater then
        plan.putLine write before isSame count
        return { line? := some (text, key), count := if isSame then count else 0, isFirst }
      else return { state with count, isFirst }

/-- Deals with the end. -/
def close (plan : RepeatPlan) (write : String → Work Unit) (state : RepeatState) : Work Unit := do
  match plan.grouping?, state.line? with
  | some parting, _ =>
      if (parting == .after || parting == .around) && !state.isFirst then
        write (String.singleton plan.lineEnd)
  | none, some (text, _) => plan.putLine write text false state.count
  | none, none => pure ()

/-- Deals with the lines of a descriptor. -/
def run (plan : RepeatPlan) (write : String → Work Unit) (descriptor : Nat) :
    Nat → RepeatState → Work (Except FileFault Unit)
  | 0, _ => return .ok ()
  | fuel + 1, state => do
      match ← nextLine descriptor endlessSteps with
      | .error fault => return .error fault
      | .ok none =>
          plan.close write state
          return .ok ()
      | .ok (some line) =>
          let text :=
            if line.toList.getLast? == some plan.lineEnd then (line.dropEnd 1).toString else line
          plan.run write descriptor fuel (← plan.step write state text)

end RepeatPlan

/-- Where lines part groups, by the word for that. -/
def partingOf? (word : String) : Option Parting :=
  match word with
  | "none" => some .none
  | "prepend" => some .before
  | "separate" => some .between
  | "append" => some .after
  | "both" => some .around
  | _ => none

/-- Operands in which long options without a word get the usual one. -/
def withPartingWords (operands : List String) : List String :=
  operands.map fun operand =>
    match operand with
    | "--group" => "--group=separate"
    | "--all-repeated" => "-D"
    | operand => operand

def repeatNames : LongNames :=
  [("count", 'c'), ("repeated", 'd'), ("unique", 'u'), ("ignore-case", 'i'), ("skip-fields", 'f'),
    ("skip-chars", 's'), ("check-chars", 'w'), ("zero-terminated", 'z'), ("group", 'G'),
    ("all-repeated", 'A')]

/-- The plan that options ask for. -/
def repeatPlanOf (options : Options) : Work RepeatPlan := do
  let number := fun (letter : Char) (phrase : String) => do
    match options.argument? letter with
    | none => return none
    | some text =>
        match text.toNat? with
        | some number => return some number
        | none =>
            warn 1 (text ++ ": invalid number of " ++ phrase)
            leave
  let fields ← number 'f' "fields to skip"
  let skipped ← number 's' "bytes to skip"
  let most ← number 'w' "bytes to compare"
  let parting := fun (letter : Char) (name : String) (allowed : List String) => do
    match options.argument? letter with
    | none => return none
    | some word =>
        match (partingOf? word).filter fun _ => allowed.contains word with
        | some parting => return some parting
        | none =>
            misuseWord 1 word name (allowed.map fun word => [word])
            leave
  let grouping? ← parting 'G' "--group" ["prepend", "append", "separate", "both"]
  let allRepeated? ← parting 'A' "--all-repeated" ["none", "prepend", "separate"]
  let showsLater := options.has 'D' || allRepeated?.isSome
  if grouping?.isSome && (options.has 'c' || options.has 'd' || showsLater || options.has 'u') then
    misuse 1 "--group is mutually exclusive with -c/-d/-D/-u"
    leave
  if showsLater && options.has 'c' then
    misuse 1 "printing all duplicated lines and repeat counts is meaningless"
    leave
  let key := fun text : String =>
    let chars := withoutFields (fields.getD 0) text.toList
    let chars := chars.drop (skipped.getD 0)
    let chars := (most.map chars.take).getD chars
    String.ofList (if options.has 'i' then chars.map Char.toLower else chars)
  let isPlain := fields.isNone && skipped.isNone && most.isNone && !options.has 'i'
  return {
    isCounted := options.has 'c'
    showsSingle := !options.has 'd' && !showsLater
    showsFirst := !options.has 'u'
    showsLater, grouping?
    parting := allRepeated?.getD .none
    lineEnd := if options.has 'z' then '\x00' else '\n'
    key := if isPlain then id else key }

/-- Operands in which numbers right behind a dash or a plus are given as options. -/
def withSkipOptions (operands : List String) : List String :=
  operands.map fun operand =>
    match operand.toList with
    | '-' :: c :: digits =>
        if (c :: digits).all Char.isDigit then "-f" ++ String.ofList (c :: digits) else operand
    | '+' :: c :: digits =>
        if (c :: digits).all Char.isDigit then "-s" ++ String.ofList (c :: digits) else operand
    | _ => operand

def uniqueLines (operands : List String) : Work Unit :=
  withOptions "cduif:s:w:zD G:A:" repeatNames 1 (withSkipOptions (withPartingWords operands))
    fun options => do
    let plan ← repeatPlanOf options
    match options.operands with
    | _ :: _ :: extra :: _ => misuse 1 ("extra operand " ++ inCurlyQuotes extra)
    | names =>
        let name := names.headD "-"
        match ← openOperand name with
        | .error fault => warn 1 (shownName name ++ ": " ++ faultText fault)
        | .ok descriptor =>
            setLineEnd descriptor plan.lineEnd.toNat.toUInt8
            let outlet ←
              match names[1]? with
              | none | some "-" => pure 1
              | some target =>
                  match ← Course.openFrom 3 .forWriting target with
                  | .ok outlet => pure outlet
                  | .error fault =>
                      warn 1 (shownName target ++ ": " ++ faultText fault)
                      leave
            match ← plan.run (putTo outlet) descriptor endlessSteps {} with
            | .ok () => closeOperand descriptor
            | .error fault =>
                warn 1 ("error reading " ++ inQuotes name ++ ": " ++ faultText fault)

end HingeField.Shell.Utility
