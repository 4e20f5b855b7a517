import HingeField.Shell.Utility.Digest
import HingeField.Shell.Utility.Figures

/-!
The commands that show digests of files, and those that check files against the
digests in a list.
-/

namespace HingeField.Shell.Utility

/-- A kind of digest: what it is called in tagged lists, how many digits it has, and how it is
computed. -/
structure DigestKind where
  tag : String
  digits : Nat
  compute : ByteArray → String

def digestKinds : List (String × DigestKind) :=
  [("md5", ⟨"MD5", 32, Digest.md5⟩), ("sha1", ⟨"SHA1", 40, Digest.sha1⟩),
    ("sha224", ⟨"SHA224", 56, Digest.sha224⟩), ("sha256", ⟨"SHA256", 64, Digest.sha256⟩),
    ("sha384", ⟨"SHA384", 96, Digest.sha384⟩), ("sha512", ⟨"SHA512", 128, Digest.sha512⟩),
    ("blake2b", ⟨"BLAKE2b", 128, Digest.blake2b⟩)]

/-- The bytes of a file; a dash stands for the input. -/
def contentOf (name : String) : Work (Except FileFault ByteArray) := do
  match ← openOperand name with
  | .error fault => return .error fault
  | .ok descriptor =>
      let content ← readRest descriptor endlessSteps .empty
      closeOperand descriptor
      return content

namespace DigestKind

/-- A name with what would break its line written with backslashes. -/
def escapedName (name : String) : String :=
  ((name.replace "\\" "\\\\").replace "\n" "\\n").replace "\r" "\\r"

/-- The line for a digest of a file. -/
def shown (kind : DigestKind) (options : Options) (name digest : String) : String :=
  let isZero := options.has 'z'
  let needsEscapes := !isZero && name.toList.any fun c => "\\\n\r".toList.contains c
  let lead := if needsEscapes then "\\" else ""
  let name := if needsEscapes then escapedName name else name
  let text :=
    if options.has 'T' then kind.tag ++ " (" ++ name ++ ") = " ++ digest
    else digest ++ (if options.has 'b' then " *" else "  ") ++ name
  lead ++ text ++ (if isZero then "\x00" else "\n")

/-- Shows the digests of files. -/
def showAll (kind : DigestKind) (options : Options) (names : List String) : Work Unit := do
  for name in names do
    match ← contentOf name with
    | .error fault => warn 1 (shownName name ++ ": " ++ faultText fault)
    | .ok content => put (kind.shown options name (kind.compute content))

/-- The digest and the name on a line of a list. -/
def readLine? (kind : DigestKind) (text : String) : Option (String × String) :=
  let isHex := fun digits : String =>
    digits.length = kind.digits && digits.all fun c => (digitOf? 16 c).isSome
  let text := (text.dropWhile (· == ' ')).toString
  let text := if text.startsWith "\\" then (text.drop 1).toString else text
  let tagged := kind.tag ++ " ("
  if text.startsWith tagged then
    let inside := (text.drop tagged.length).toString
    match (inside.splitOn ") = ").reverse with
    | digest :: rest =>
        if rest.isEmpty || !isHex digest then none
        else some (digest, String.intercalate ") = " rest.reverse)
    | [] => none
  else
    let digest := (text.take kind.digits).toString
    let rest := (text.drop kind.digits).toString
    if !isHex digest then none
    else if rest.startsWith "  " || rest.startsWith " *" then
      let name := (rest.drop 2).toString
      if name.isEmpty then none else some (digest, name)
    else if rest.startsWith " " && 1 < rest.length then some (digest, (rest.drop 1).toString)
    else none

/-- How many lines of a list have turned out how. -/
structure Tally where
  lines : Nat := 0
  malformed : Nat := 0
  wrong : Nat := 0
  unread : Nat := 0
  right : Nat := 0

/-- Checks a file against a line of a list. -/
def checkLine (kind : DigestKind) (options : Options) (list : String) (number : Nat)
    (tally : Tally) (text : String) : Work Tally := do
  let say := fun text : String => unless options.has 'S' do put (text ++ "\n")
  match kind.readLine? text with
  | none =>
      if options.has 'w' then
        remark (list ++ ": " ++ toString number ++ ": improperly formatted " ++ kind.tag ++
          " checksum line")
      return { tally with malformed := tally.malformed + 1 }
  | some (digest, name) =>
      let tally := { tally with lines := tally.lines + 1 }
      match ← contentOf name with
      | .error fault =>
          if options.has 'I' && fault == .notFound then return tally
          remark (shownName name ++ ": " ++ faultText fault)
          say (name ++ ": FAILED open or read")
          return { tally with unread := tally.unread + 1 }
      | .ok content =>
          if kind.compute content == String.ofList (digest.toList.map Char.toLower) then
            unless options.has 'q' do say (name ++ ": OK")
            return { tally with right := tally.right + 1 }
          else
            say (name ++ ": FAILED")
            return { tally with wrong := tally.wrong + 1 }

/-- Checks files against lists. -/
def checkAll (kind : DigestKind) (options : Options) (names : List String) : Work Unit := do
  for list in names do
    match ← readOperand list with
    | .error fault => warn 1 (shownName list ++ ": " ++ faultText fault)
    | .ok octets =>
        let mut tally : Tally := {}
        for (text, place) in (linesOf octets).zipIdx do
          unless text.startsWith "#" do
            tally ← kind.checkLine options list (place + 1) tally text
        let shownList := if list = "-" then "standard input" else shownName list
        if tally.lines = 0 then
          warn 1 (shownList ++ ": no properly formatted checksum lines found")
        else
          let say := fun (count : Nat) (one many : String) =>
            unless count = 0 || options.has 'S' do
              remark ("WARNING: " ++ toString count ++ " " ++ if count = 1 then one else many)
          say tally.malformed "line is improperly formatted" "lines are improperly formatted"
          say tally.unread "listed file could not be read" "listed files could not be read"
          say tally.wrong "computed checksum did NOT match" "computed checksums did NOT match"
          if options.has 'I' && tally.right = 0 && tally.wrong = 0 && tally.unread = 0 then
            warn 1 (shownList ++ ": no file was verified")
          if tally.wrong ≠ 0 || tally.unread ≠ 0 ||
              (options.has 'R' && tally.malformed ≠ 0) then
            raiseStatus 1

end DigestKind

def digestNames : LongNames :=
  [("binary", 'b'), ("check", 'c'), ("tag", 'T'), ("text", 't'), ("zero", 'z'),
    ("ignore-missing", 'I'), ("quiet", 'q'), ("status", 'S'), ("strict", 'R'), ("warn", 'w')]

/-- Shows the digests of files, or checks files against digests. -/
def showDigests (kind : DigestKind) (operands : List String) : Work Unit :=
  withOptions "bctzw TIqSR" digestNames 1 operands fun options => do
    let names := if options.operands.isEmpty then ["-"] else options.operands
    let refuseWithout := fun (letter : Char) (name : String) =>
      if options.has letter && !options.has 'c' then do
        misuse 1 ("the --" ++ name ++ " option is meaningful only when verifying checksums")
        leave
      else pure ()
    refuseWithout 'I' "ignore-missing"
    refuseWithout 'S' "status"
    refuseWithout 'w' "warn"
    refuseWithout 'q' "quiet"
    refuseWithout 'R' "strict"
    if options.has 'c' then
      if options.has 'T' then
        misuse 1 "the --tag option is meaningless when verifying checksums"
      else kind.checkAll options names
    else kind.showAll options names

/-- A number with zeros in front, in so many places. -/
def zeroPadded (width number : Nat) : String :=
  let digits := toString number
  String.ofList (List.replicate (width - digits.length) '0') ++ digits

/-- The line for a sum of a file: by rotating, by folding, or by division. -/
def sumLine (kind : String) (content : ByteArray) (name : String) : String :=
  let behind := if name.isEmpty then "\n" else " " ++ name ++ "\n"
  match kind with
  | "bsd" =>
      let blocks := toString ((content.size + 1023) / 1024)
      zeroPadded 5 (Digest.rotatedSum content) ++ " " ++
        String.ofList (List.replicate (5 - blocks.length) ' ') ++ blocks ++ behind
  | "sysv" =>
      toString (Digest.foldedSum content) ++ " " ++ toString ((content.size + 511) / 512) ++ behind
  | _ => toString (Digest.checksum content) ++ " " ++ toString content.size ++ behind

/-- Shows the sums of files. The input has no name unless it is an operand. -/
def showSums (kind : String) (operands : List String) : Work Unit := do
  if operands.isEmpty then
    match ← contentOf "-" with
    | .ok content => put (sumLine kind content "")
    | .error fault => warn 1 ("-: " ++ faultText fault)
  else
    for name in operands do
      match ← contentOf name with
      | .ok content => put (sumLine kind content name)
      | .error fault => warn 1 (shownName name ++ ": " ++ faultText fault)

def showPlainSums (operands : List String) : Work Unit :=
  withOptions "rs" [("sysv", 's')] 1 operands fun options =>
    let kind := if options.letters.getLast?.any fun option => option.1 == 's' then "sysv" else "bsd"
    showSums kind options.operands

/-- The kinds of checksums that can be chosen. -/
def checksumKinds : List String :=
  ["bsd", "sysv", "crc", "md5", "sha1", "sha224", "sha256", "sha384", "sha512", "blake2b", "sm3"]

def showChecksums (operands : List String) : Work Unit :=
  withOptions "a:bctzw TIqSRU" (("algorithm", 'a') :: ("untagged", 'U') :: digestNames) 1 operands
    fun options => do
    let kind := (options.argument? 'a').getD "crc"
    let names := if options.operands.isEmpty then ["-"] else options.operands
    match digestKinds.lookup kind with
    | some digest =>
        if options.has 'c' then digest.checkAll options names
        else
          let options :=
            if options.has 'U' then options
            else { options with letters := ('T', "") :: options.letters }
          digest.showAll options names
    | none =>
        if ["bsd", "sysv", "crc"].contains kind then showSums kind options.operands
        else
          misuseWord 1 kind "--algorithm" (checksumKinds.map fun name => [name])

end HingeField.Shell.Utility
