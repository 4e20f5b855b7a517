import HingeField.Shell.Utility.Parts

/-!
The command that copies blocks of bytes. What is read at once is a block of the
input, whole or partial; what is written at once is a block of the output.
-/

namespace HingeField.Shell.Utility

/-- The value of a setting among operands such as a name, an equals sign and a value. -/
def settingOf? (operands : List String) (name : String) : Option String :=
  (operands.reverse.find? fun operand => operand.startsWith (name ++ "=")).map fun operand =>
    (operand.drop (name.length + 1)).toString

/-- The names of a setting that is a list of them, from all places where it stands. -/
def namesOfSetting (operands : List String) (name : String) : List String :=
  (operands.filter fun operand => operand.startsWith (name ++ "=")).flatMap fun operand =>
    ((operand.drop (name.length + 1)).toString.splitOn ",").filter fun word => !word.isEmpty

/-- A number of blocks, or of bytes if a sign for them stands behind it. Factors may be joined. -/
def blockNumber? (text : String) : Option (Nat × Bool) := do
  let isBytes := text.endsWith "B" && !text.endsWith "kB" && !text.endsWith "MB" &&
    !text.endsWith "GB" && !text.endsWith "iB"
  let text := if isBytes then (text.dropEnd 1).toString else text
  let factors ← (text.splitOn "x").mapM count?
  return (factors.foldl (· * ·) 1, isBytes)

/-- The bytes of two neighbours change places; one that has none stays at the end. -/
def swapPairs (content : ByteArray) : ByteArray :=
  ⟨((List.range content.size).map fun place =>
    let other := if place % 2 = 0 then place + 1 else place - 1
    (content.data[other]?).getD (content.data.getD place 0)).toArray⟩

/-- What is done to the bytes on the way. -/
structure BlockChange where
  isUpper : Bool
  isLower : Bool
  isSwapped : Bool
  /-- Whether partial blocks are filled up. -/
  isFilled : Bool
  /-- Lines become records of so many bytes, or records lines. -/
  record? : Option (Nat × Bool)

namespace BlockChange

/-- Whether bytes stay as they are. -/
def isNone (change : BlockChange) : Bool :=
  !change.isUpper && !change.isLower && !change.isSwapped && change.record?.isNone

def ofByte (change : BlockChange) (byte : UInt8) : UInt8 :=
  let c := Char.ofNat byte.toNat
  if change.isUpper && c.isLower then c.toUpper.toNat.toUInt8
  else if change.isLower && c.isUpper then c.toLower.toNat.toUInt8
  else byte

def apply (change : BlockChange) (size : Nat) (content : ByteArray) : ByteArray :=
  let filled :=
    if change.isFilled && content.size < size then
      let filler : UInt8 := if change.record?.isSome then 32 else 0
      content ++ ⟨Array.replicate (size - content.size) filler⟩
    else content
  let swapped := if change.isSwapped then swapPairs filled else filled
  if change.isUpper || change.isLower then ⟨swapped.data.map change.ofByte⟩ else swapped

end BlockChange

/-- How blocks are copied. -/
structure BlockPlan where
  inSize : Nat
  outSize : Nat
  /-- Whether each block is written as it has been read. -/
  isDirect : Bool
  isFull : Bool
  /-- How many blocks or bytes are copied, if there is a bound. -/
  most? : Option (Nat × Bool)
  change : BlockChange
  input : String
  output : String

/-- How far the copying has come. -/
structure BlockCount where
  readWhole : Nat := 0
  readPart : Nat := 0
  writtenWhole : Nat := 0
  writtenPart : Nat := 0
  bytes : Nat := 0
  read : Nat := 0
  truncated : Nat := 0
  held : ByteArray := .empty
  /-- What is left of the last record or line. -/
  open? : Option ByteArray := none

namespace BlockPlan

/-- Writes a block. Tells whether that could be done. -/
def writeBlock (plan : BlockPlan) (count : BlockCount) (content : ByteArray) :
    Work (BlockCount × Bool) := do
  match ← Course.write 1 content with
  | .error fault =>
      warn 1 ("error writing " ++ inQuotes plan.output ++ ": " ++ faultText fault)
      return (count, false)
  | .ok () =>
      let bytes := count.bytes + content.size
      if content.size = plan.outSize then
        return ({ count with bytes, writtenWhole := count.writtenWhole + 1 }, true)
      else return ({ count with bytes, writtenPart := count.writtenPart + 1 }, true)

/-- Writes the whole blocks of what is held. -/
def writeHeld (plan : BlockPlan) : Nat → BlockCount → Work (BlockCount × Bool)
  | 0, count => return (count, true)
  | fuel + 1, count => do
      if count.held.size < plan.outSize then return (count, true)
      let content := count.held.extract 0 plan.outSize
      let held := count.held.extract plan.outSize count.held.size
      match ← plan.writeBlock { count with held } content with
      | (count, true) => plan.writeHeld fuel count
      | stopped => return stopped

/-- The records that lines become, each filled up with blanks or cut; how many are cut, and what is
left of the last one. -/
def records (size : Nat) (before content : ByteArray) : ByteArray × Nat × ByteArray :=
  let closed := fun line : ByteArray =>
    line.extract 0 size ++ ⟨Array.replicate (size - line.size) 32⟩
  content.foldl
    (fun (written, cut, line) byte =>
      if byte == 10 then
        (written ++ closed line, cut + (if size < line.size then 1 else 0), .empty)
      else (written, cut, line.push byte))
    (.empty, 0, before)

/-- The lines that records become, each without the blanks at its end, and what is left. -/
def linesOfRecords (size : Nat) (before content : ByteArray) : ByteArray × ByteArray :=
  let trimmed := fun record : ByteArray =>
    let kept := record.data.toList.reverse.dropWhile (· == 32)
    (⟨kept.reverse.toArray⟩ : ByteArray).push 10
  content.foldl
    (fun (written, record) byte =>
      let record := record.push byte
      if record.size = size then (written ++ trimmed record, .empty) else (written, record))
    (.empty, before)

/-- Passes on a block that has been read. -/
def passBlock (plan : BlockPlan) (count : BlockCount) (content : ByteArray) :
    Work (BlockCount × Bool) := do
  let content := plan.change.apply plan.inSize content
  if plan.isDirect then plan.writeBlock count content
  else
    let before := count.open?.getD .empty
    let (count, content) :=
      match plan.change.record? with
      | none => (count, content)
      | some (size, true) =>
          let (written, cut, left) := records size before content
          ({ count with open? := some left, truncated := count.truncated + cut }, written)
      | some (size, false) =>
          let (written, left) := linesOfRecords size before content
          ({ count with open? := some left }, written)
    plan.writeHeld (content.size + 1) { count with held := count.held ++ content }

/-- Reads a block: what comes at once, or as much as it takes. -/
def readBlock (plan : BlockPlan) (size : Nat) : Work (Except FileFault ByteArray) :=
  if plan.isFull then readUpTo 0 endlessSteps size .empty else Course.read 0 size

/-- Copies blocks until the input ends or there are as many as asked for. -/
def copy (plan : BlockPlan) : Nat → BlockCount → Work (BlockCount × Bool)
  | 0, count => return (count, true)
  | fuel + 1, count => do
      let left :=
        match plan.most? with
        | none => plan.inSize
        | some (most, true) => min plan.inSize (most - count.read)
        | some (most, false) =>
            if count.readWhole + count.readPart < most then plan.inSize else 0
      if left = 0 then return (count, true)
      match ← plan.readBlock left with
      | .error fault =>
          warn 1 ("error reading " ++ inQuotes plan.input ++ ": " ++ faultText fault)
          return (count, true)
      | .ok content =>
          if content.isEmpty then return (count, true)
          let count := { count with read := count.read + content.size }
          let count :=
            if content.size = plan.inSize then { count with readWhole := count.readWhole + 1 }
            else { count with readPart := count.readPart + 1 }
          match ← plan.passBlock count content with
          | (count, true) => plan.copy fuel count
          | stopped => return stopped

/-- Writes what is left at the end. -/
def complete (plan : BlockPlan) (count : BlockCount) : Work BlockCount := do
  let left := count.open?.getD .empty
  let closing : ByteArray :=
    match plan.change.record? with
    | some (size, true) =>
        if left.isEmpty then .empty
        else left.extract 0 size ++ ⟨Array.replicate (size - left.size) 32⟩
    | some (_, false) =>
        if left.isEmpty then .empty
        else
          let kept := left.data.toList.reverse.dropWhile (· == 32)
          (⟨kept.reverse.toArray⟩ : ByteArray).push 10
    | none => .empty
  let cut :=
    match plan.change.record? with
    | some (size, true) => if size < left.size then 1 else 0
    | _ => 0
  let count := { count with held := count.held ++ closing, truncated := count.truncated + cut }
  match ← plan.writeHeld (count.held.size + 1) count with
  | (count, true) =>
      if count.held.isEmpty then return count
      else return (← plan.writeBlock { count with held := .empty } count.held).1
  | (count, false) => return count

end BlockPlan

/-- Skips bytes of the input; tells whether there were as many. -/
def skipBytes (size : Nat) : Nat → Nat → Work Bool
  | 0, _ => return true
  | fuel + 1, left => do
      if left = 0 then return true
      match ← Course.read 0 (min left size) with
      | .error _ => return true
      | .ok content =>
          if content.isEmpty then return false
          else skipBytes size fuel (left - content.size)

/-- How many bytes have been copied, in words. -/
def copiedText (count : Nat) : String :=
  let scaled := fun (base : Nat) (units : List String) =>
    let rec go : Nat → List String → String
      | _, [] => ""
      | unit, letter :: letters =>
          if count < unit * base || letters.isEmpty then
            let tenths := (10 * count + unit / 2) / unit
            (if tenths < 100 then toString (tenths / 10) ++ "." ++ toString (tenths % 10)
              else toString ((count + unit / 2) / unit)) ++ " " ++ letter
          else go (unit * base) letters
    go base units
  let size := toString count ++ (if count = 1 then " byte" else " bytes")
  if count < 1000 then size
  else if count < 1024 then size ++ " (" ++ scaled 1000 ["kB", "MB", "GB"] ++ ")"
  else size ++ " (" ++ scaled 1000 ["kB", "MB", "GB"] ++ ", " ++
    scaled 1024 ["KiB", "MiB", "GiB"] ++ ")"

def blockSettings : List String :=
  ["if", "of", "bs", "ibs", "obs", "count", "skip", "seek", "conv", "status", "iflag", "oflag",
    "cbs", "iseek", "oseek"]

def blockConversions : List String :=
  ["ucase", "lcase", "swab", "notrunc", "sync", "noerror", "fsync", "fdatasync", "excl", "nocreat",
    "sparse", "ascii", "ebcdic", "ibm", "block", "unblock"]

def blockFlags : List String :=
  ["append", "binary", "cio", "direct", "directory", "dsync", "noatime", "nocache", "noctty",
    "nofollow", "nolinks", "nonblock", "sync", "text", "fullblock", "count_bytes", "skip_bytes",
    "seek_bytes"]

/-- Refuses operands that are wrong. -/
def checkBlockOperands (operands : List String) : Work Unit := do
  let isKnown := fun operand : String =>
    blockSettings.any fun name => operand.startsWith (name ++ "=")
  match operands.find? fun operand => !isKnown operand with
  | some operand =>
      if operand.startsWith "-" then
        misuse 1 ("unrecognized option '" ++ operand ++ "'")
      else misuse 1 ("unrecognized operand " ++ inQuotes operand)
      leave
  | none => pure ()
  let checkNames := fun (setting kind : String) (known : List String) => do
    match (namesOfSetting operands setting).find? fun name => !known.contains name with
    | some name =>
        misuse 1 ("invalid " ++ kind ++ ": " ++ inCurlyQuotes name)
        leave
    | none => pure ()
  checkNames "conv" "conversion" blockConversions
  checkNames "iflag" "input flag" blockFlags
  checkNames "oflag" "output flag" blockFlags
  checkNames "status" "status level" ["none", "noxfer", "progress"]
  for name in ["bs", "ibs", "obs", "cbs", "skip", "iseek", "seek", "oseek", "count"] do
    match settingOf? operands name with
    | none => pure ()
    | some text =>
        let isSize := ["bs", "ibs", "obs", "cbs"].contains name
        match blockNumber? text with
        | some (number, _) =>
            if isSize && number = 0 then
              warn 1 ("invalid number: " ++ inQuotes text)
              leave
        | none =>
            warn 1 ("invalid number: " ++ inQuotes text)
            leave

/-- Opens what is written to, and cuts it off where writing starts. -/
def openBlockOutput (operands : List String) (start : Nat) : Work Unit := do
  let conversions := namesOfSetting operands "conv"
  let keeps := conversions.contains "notrunc"
  match settingOf? operands "of" with
  | none => pure ()
  | some name =>
      let isNew := conversions.contains "excl"
      let appends := (namesOfSetting operands "oflag").contains "append"
      let creates := !conversions.contains "nocreat"
      let isThere ← Course.ask fun machine => (machine.status? name).isSome
      if !creates && !isThere then
        warn 1 ("failed to open " ++ inQuotes name ++ ": " ++ faultText .notFound)
        leave
      let opening : Opening :=
        { writes := true, reads := false, creates, empties := !keeps && start = 0, appends, isNew }
      match ← Course.openPath opening name with
      | .error fault =>
          warn 1 ("failed to open " ++ inQuotes name ++ ": " ++ faultText fault)
          leave
      | .ok channel =>
          Course.lead 1 channel
          if start ≠ 0 then
            Course.onMachine fun machine =>
              match machine.channels[channel]? with
              | some { medium := .node node, .. } =>
                  let machine :=
                    if keeps then machine
                    else { machine with disk := machine.disk.resize node start machine.time }
                  { machine with
                    channels := machine.channels.modify channel fun channel =>
                      { channel with offset := start } }
              | _ => machine

def copyBlocks (operands : List String) : Work Unit := do
  checkBlockOperands operands
  let setting := settingOf? operands
  let number := fun (names : List String) (isInBytes : Bool) (size : Nat) =>
    match (names.findSome? setting).bind blockNumber? with
    | some (count, true) => count
    | some (count, false) => if isInBytes then count else count * size
    | none => 0
  let sizeOf := fun (name : String) (usual : Nat) =>
    (((setting "bs").or (setting name)).bind blockNumber?).elim usual (·.1)
  let inSize := sizeOf "ibs" 512
  let outSize := sizeOf "obs" 512
  let conversions := namesOfSetting operands "conv"
  let inFlags := namesOfSetting operands "iflag"
  let outFlags := namesOfSetting operands "oflag"
  let has := fun name : String => conversions.contains name
  let records := ((setting "cbs").bind blockNumber?).elim 0 (·.1)
  let change : BlockChange :=
    { isUpper := has "ucase", isLower := has "lcase", isSwapped := has "swab"
      isFilled := has "sync"
      record? :=
        if records = 0 then none
        else if has "block" then some (records, true)
        else if has "unblock" then some (records, false)
        else none }
  match setting "if" with
  | none => pure ()
  | some name =>
      match ← Course.openPath .forReading name with
      | .error fault =>
          warn 1 ("failed to open " ++ inQuotes name ++ ": " ++ faultText fault)
          leave
      | .ok channel => Course.lead 0 channel
  openBlockOutput operands (number ["oseek", "seek"] (outFlags.contains "seek_bytes") outSize)
  let plan : BlockPlan :=
    { inSize, outSize, change
      isDirect := (setting "bs").isSome && change.isNone && !change.isFilled
      isFull := inFlags.contains "fullblock"
      most? := ((setting "count").bind blockNumber?).map fun (count, isBytes) =>
        (count, isBytes || inFlags.contains "count_bytes")
      input := (setting "if").getD "standard input"
      output := (setting "of").getD "standard output" }
  let skipped := number ["iseek", "skip"] (inFlags.contains "skip_bytes") inSize
  unless ← skipBytes inSize endlessSteps skipped do
    remark (shownName plan.input ++ ": cannot skip to specified offset")
  let (count, goesOn) ← plan.copy endlessSteps {}
  let count ← if goesOn then plan.complete count else pure count
  let level := setting "status"
  unless level == some "none" do
    let records := fun (whole part : Nat) => toString whole ++ "+" ++ toString part ++ " records "
    putError (records count.readWhole count.readPart ++ "in\n" ++
      records count.writtenWhole count.writtenPart ++ "out\n")
    if count.truncated ≠ 0 then
      putError (toString count.truncated ++
        (if count.truncated = 1 then " truncated record\n" else " truncated records\n"))
    unless level == some "noxfer" do
      putError (copiedText count.bytes ++ " copied, 0 s, 0 B/s\n")

end HingeField.Shell.Utility
