import HingeField.Shell.Utility.Desk

/-!
The commands that pass whole texts on: as they are, to several places, with
their lines numbered or made visible, or in another order.
-/

namespace HingeField.Shell.Utility

/-- A number at the right end of a width. -/
def rightAligned (width number : Nat) : String :=
  let digits := toString number
  String.ofList (List.replicate (width - digits.length) ' ') ++ digits

/-! ### As they are -/

/-- Passes bytes on as they are read. -/
def passOn (descriptor : Nat) : Nat → Work (Except FileFault Unit)
  | 0 => return .ok ()
  | fuel + 1 => do
      match ← Course.read descriptor passSize with
      | .error fault => return .error fault
      | .ok content =>
          if content.isEmpty then return .ok ()
          else
            match ← Course.write 1 content with
            | .ok () => passOn descriptor fuel
            | .error fault =>
                modify fun desk => { desk with fault? := some fault }
                leave
where
  /-- How many bytes are passed on at once. -/
  passSize : Nat := 131072

/-- Whether what is written to the output would be read again from a descriptor. -/
def feedsItself (descriptor : Nat) (machine : Machine) : Bool :=
  match machine.channel? descriptor, machine.channel? 1 with
  | some { medium := .node number, offset, .. }, some { medium := .node other, .. } =>
      number == other && offset < (machine.disk.node number).size &&
        !machine.disk.isDirectory number
  | _, _ => false

/-- Does something with the descriptor of each operand, or of the input if there is none. -/
def forEachOperand (status : Nat) (phrase : String → String) (operands : List String)
    (work : Nat → Work (Except FileFault Unit)) : Work Unit :=
  (if operands.isEmpty then ["-"] else operands).forM fun name => do
    match ← openOperand name with
    | .error fault => warn status (phrase name ++ ": " ++ faultText fault)
    | .ok descriptor => do
        let outcome ←
          if ← Course.ask (feedsItself descriptor) then
            warn status (phrase name ++ ": input file is output file")
            pure (.ok ())
          else work descriptor
        closeOperand descriptor
        match outcome with
        | .ok () => pure ()
        | .error fault => warn status (phrase name ++ ": " ++ faultText fault)

/-- A byte as visible characters. -/
def visibleByte (showsTabs : Bool) (c : Char) : List Char :=
  let plain := fun c : Char =>
    if c == '\n' || (c == '\t' && !showsTabs) then [c]
    else if c < ' ' then ['^', Char.ofNat (c.toNat + 64)]
    else if c == '\x7f' then ['^', '?']
    else [c]
  if c.toNat < 128 then plain c
  else ['M', '-'] ++
    (let low := Char.ofNat (c.toNat - 128)
     if low < ' ' then ['^', Char.ofNat (low.toNat + 64)]
     else if low == '\x7f' then ['^', '?'] else [low])

/-- How lines are decorated: which of them are numbered, and what of them is made visible. -/
structure Decoration where
  numbersAll : Bool
  numbersFilled : Bool
  squeezes : Bool
  isVisible : Bool
  showsTabs : Bool
  showsEnds : Bool

/-- How far the decoration of lines has come. -/
structure Decorating where
  number : Nat := 1
  behindEmpty : Bool := false
  /-- Whether the line before has no end, so that the next one goes on with it. -/
  isInside : Bool := false

/-- A line under a decoration. -/
def Decoration.line (decoration : Decoration) (state : Decorating) (text : String) :
    String × Decorating :=
  let isEmpty := text == "\n" && !state.isInside
  if isEmpty && state.behindEmpty && decoration.squeezes then ("", state)
  else
    let isNumbered :=
      !state.isInside && (if decoration.numbersFilled then !isEmpty else decoration.numbersAll)
    let lead := if isNumbered then rightAligned 6 state.number ++ "\t" else ""
    let hasEnd := text.endsWith "\n"
    let content := if hasEnd then (text.dropEnd 1).toString else text
    let shown :=
      if decoration.isVisible then
        String.ofList (content.toList.flatMap (visibleByte decoration.showsTabs))
      else if decoration.showsTabs then content.replace "\t" "^I"
      else content
    let ending :=
      if !hasEnd then "" else if decoration.showsEnds then "$\n" else "\n"
    (lead ++ shown ++ ending,
      { number := if isNumbered then state.number + 1 else state.number
        behindEmpty := isEmpty, isInside := !hasEnd })

/-- Shows the lines of descriptors under a decoration. -/
def decorateLines (decoration : Decoration) (descriptor : Nat) :
    Nat → Decorating → Work (Except FileFault Unit × Decorating)
  | 0, state => return (.ok (), state)
  | fuel + 1, state => do
      match ← nextLine descriptor endlessSteps with
      | .error fault => return (.error fault, state)
      | .ok none => return (.ok (), state)
      | .ok (some text) =>
          let (shown, state) := decoration.line state text
          put shown
          decorateLines decoration descriptor fuel state

def concatenate (operands : List String) : Work Unit :=
  withOptions "nbsETAvetu"
    [("number", 'n'), ("number-nonblank", 'b'), ("squeeze-blank", 's'), ("show-ends", 'E'),
      ("show-tabs", 'T'), ("show-all", 'A'), ("show-nonprinting", 'v')] 1 operands fun options => do
    let has := fun letters : String => letters.toList.any options.has
    if options.letters.all fun option => option.1 == 'u' then
      forEachOperand 1 shownName options.operands fun descriptor =>
        passOn descriptor endlessSteps
    else
      let decoration : Decoration :=
        { numbersAll := options.has 'n', numbersFilled := options.has 'b'
          squeezes := options.has 's', isVisible := has "vAet", showsTabs := has "TAt"
          showsEnds := has "EAe" }
      let mut state : Decorating := {}
      for name in (if options.operands.isEmpty then ["-"] else options.operands) do
        match ← openOperand name with
        | .error fault => warn 1 (shownName name ++ ": " ++ faultText fault)
        | .ok descriptor =>
            let (outcome, after) ← decorateLines decoration descriptor endlessSteps state
            closeOperand descriptor
            state := after
            match outcome with
            | .ok () => pure ()
            | .error fault => warn 1 (shownName name ++ ": " ++ faultText fault)

/-! ### To several places -/

/-- Copies what is read to descriptors. -/
def spreadOn (descriptors : List Nat) : Nat → Work Unit
  | 0 => pure ()
  | fuel + 1 => do
      match ← Course.read 0 chunkSize with
      | .error fault => warn 1 ("read error: " ++ faultText fault)
      | .ok content =>
          unless content.isEmpty do
            for descriptor in descriptors do
              match ← Course.write descriptor content with
              | .ok () => pure ()
              | .error fault =>
                  if descriptor = 1 then warn 1 ("standard output: " ++ faultText fault)
            spreadOn descriptors fuel

/-- Copies the input to files and to the output. -/
def spread (operands : List String) : Work Unit :=
  withOptions "aip" [("append", 'a'), ("ignore-interrupts", 'i')] 1 operands fun options => do
    let opening := if options.has 'a' then Opening.forAdding else .forWriting
    let mut descriptors := [1]
    for name in options.operands do
      match ← Course.openFrom 3 opening name with
      | .error fault => warn 1 (shownName name ++ ": " ++ faultText fault)
      | .ok descriptor => descriptors := descriptors ++ [descriptor]
    spreadOn descriptors endlessSteps

/-! ### In another order -/

/-- Pieces of a text with what separates them: behind each of them, or in front of it. -/
def separatedPieces (separator : String) (isBefore : Bool) (octets : String) : List String :=
  let pieces := octets.splitOn separator
  if isBefore then
    match pieces with
    | [] => []
    | first :: rest =>
        (if first.isEmpty then [] else [first]) ++ rest.map fun piece => separator ++ piece
  else
    let ended := pieces.dropLast.map fun piece => piece ++ separator
    let last := pieces.getLastD ""
    if last.isEmpty then ended else ended ++ [last]

def reverseLines (operands : List String) : Work Unit :=
  withOptions "bs:r" [("before", 'b'), ("separator", 's')] 1 operands fun options =>
    let separator := (options.argument? 's').getD "\n"
    let separator := if separator.isEmpty then "\x00" else separator
    forEachInput 1 (fun name => "failed to open '" ++ name ++ "' for reading") options.operands
      fun _ octets =>
        put (String.join (separatedPieces separator (options.has 'b') octets).reverse)

def reverseEachLine (operands : List String) : Work Unit :=
  withOptions "" [] 1 operands fun options =>
    forEachInputLine 1 (fun name => "cannot open " ++ name) options.operands fun text => do
      let ending := if text.endsWith "\n" then "\n" else ""
      let content := (text.dropEnd ending.length).toString
      put (encode (String.ofList (decode content).toList.reverse) ++ ending)

end HingeField.Shell.Utility
