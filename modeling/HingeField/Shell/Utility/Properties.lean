import HingeField.Shell.Escape
import HingeField.Shell.Utility.Listing

/-!
The command that tells what is known of files, by a format whose directives
stand for single properties.
-/

namespace HingeField.Shell.Utility

/-- How a property is fitted into a format. -/
structure Fitting where
  flags : List Char := []
  width : Nat := 0
  precision? : Option Nat := none

/-- A text as wide as it has to be. -/
def Fitting.text (fitting : Fitting) (text : String) : String :=
  let text :=
    match fitting.precision? with
    | some most => (text.take most).toString
    | none => text
  let fill := String.ofList (List.replicate (fitting.width - text.length) ' ')
  if fitting.flags.contains '-' then text ++ fill else fill ++ text

/-- A number as wide as it has to be. -/
def Fitting.number (fitting : Fitting) (sign digits : String) : String :=
  let digits :=
    String.ofList (List.replicate (fitting.precision?.getD 0 - digits.length) '0') ++ digits
  let sign :=
    if !sign.isEmpty then sign
    else if fitting.flags.contains '+' then "+"
    else if fitting.flags.contains ' ' then " "
    else ""
  let missing := fitting.width - sign.length - digits.length
  if fitting.flags.contains '-' then
    sign ++ digits ++ String.ofList (List.replicate missing ' ')
  else if fitting.flags.contains '0' && fitting.precision?.isNone then
    sign ++ String.ofList (List.replicate missing '0') ++ digits
  else String.ofList (List.replicate missing ' ') ++ sign ++ digits

def Fitting.nat (fitting : Fitting) (value : Nat) : String :=
  fitting.number "" (toString value)

/-- A time in seconds, with places behind the point if that is asked for. -/
def Fitting.seconds (fitting : Fitting) (time : Int) : String :=
  let seconds := Int.fdiv time 1000000000
  let sign := if seconds < 0 then "-" else ""
  let whole := toString seconds.natAbs
  match fitting.precision? with
  | none => fitting.number sign whole
  | some places =>
      let part := toString (time - seconds * 1000000000).toNat
      let part := String.ofList (List.replicate (9 - part.length) '0') ++ part
      let digits := whole ++ (if places = 0 then "" else "." ++ (part.take places).toString)
      ({ fitting with precision? := none } : Fitting).number sign digits

/-- What kind of file there is, in words. -/
def kindText (status : FileStatus) : String :=
  match status.kind with
  | .directory => "directory"
  | .regular => if status.node.size = 0 then "regular empty file" else "regular file"
  | .link => "symbolic link"
  | .fifo => "fifo"
  | .device => "character special file"

/-- The bits for what kind of file there is. -/
def kindBits : FileKind → Nat
  | .directory => 0o040000
  | .regular => 0o100000
  | .link => 0o120000
  | .fifo => 0o010000
  | .device => 0o020000

/-- A time of the calendar, to the nanosecond. -/
def fullTime (time : Int) : String :=
  let format := "%Y-%m-%d %H:%M:%S.%N %z"
  (CalendarTime.ofNanoseconds time).format (format.length + 1) format.toList

/-- What a directive stands for. -/
def propertyText (status : FileStatus) (name : String) (fitting : Fitting) (letter : Char) :
    String :=
  let node := status.node
  let text := fitting.text
  match letter with
  | 'n' => text name
  | 'N' =>
      text <| inQuotes name ++
        match goalOf? status with
        | some goal => " -> " ++ inQuotes goal
        | none => ""
  | 's' => fitting.nat node.size
  | 'F' => text (kindText status)
  | 'a' =>
      let digits := Permission.digitsOf 1 node.mode
      fitting.number "" (if fitting.flags.contains '#' then "0" ++ digits else digits)
  | 'A' => text (modeText status)
  | 'f' =>
      fitting.number "" (String.ofList (Nat.toDigits 16 (kindBits status.kind + node.mode)))
  | 'u' => fitting.nat node.owner
  | 'g' => fitting.nat node.group
  | 'U' => text (ownerText false node.owner)
  | 'G' => text (ownerText false node.group)
  | 'h' => fitting.nat node.links
  | 'i' => fitting.nat (1000 + status.number)
  | 'b' => fitting.nat (allotted status / 512)
  | 'B' => fitting.nat 512
  | 'o' => fitting.nat 4096
  | 'd' => fitting.nat 50
  | 'D' => fitting.number "" "32"
  | 't' | 'T' | 'r' | 'R' | 'W' => fitting.nat 0
  | 'm' => text "/"
  | 'w' => text "-"
  | 'x' => text (fullTime node.accessed)
  | 'y' => text (fullTime node.modified)
  | 'z' => text (fullTime node.changed)
  | 'X' => fitting.seconds node.accessed
  | 'Y' => fitting.seconds node.modified
  | 'Z' => fitting.seconds node.changed
  | 'C' => text "?"
  | '%' => "%"
  | _ => "?"

/-- What is known of a file, by a format. -/
def described (status : FileStatus) (name : String) : Nat → List Char → String
  | 0, _ => ""
  | _ + 1, [] => ""
  | fuel + 1, '%' :: rest =>
      let flags := rest.takeWhile fun c => "#-+0 '".toList.contains c
      let rest := rest.drop flags.length
      let width := rest.takeWhile Char.isDigit
      let rest := rest.drop width.length
      let (precision?, rest) : Option Nat × List Char :=
        match rest with
        | '.' :: rest =>
            let digits := rest.takeWhile Char.isDigit
            let usual := if digits.isEmpty then 9 else 0
            (some ((String.ofList digits).toNat?.getD usual), rest.drop digits.length)
        | rest => (none, rest)
      let rest :=
        match rest with
        | 'H' :: c :: _ | 'L' :: c :: _ => if c == 'd' || c == 'r' then rest.drop 1 else rest
        | rest => rest
      match rest with
      | letter :: rest =>
          let fitting : Fitting :=
            { flags, width := (String.ofList width).toNat?.getD 0, precision? }
          propertyText status name fitting letter ++ described status name fuel rest
      | [] => "%"
  | fuel + 1, c :: rest => String.singleton c ++ described status name fuel rest

/-- The format for all that is known. -/
def wholeFormat (kind : FileKind) : String :=
  "  File: " ++ (if kind = .link then "%N" else "%n") ++
    "\n  Size: %-10s\tBlocks: %-10b IO Block: %-6o %F\n" ++
    "Device: 0,%d\tInode: %-10i  Links: %h\n" ++
    "Access: (%04a/%10.10A)  Uid: (%5u/%8U)   Gid: (%5g/%8G)\n" ++
    "Access: %x\nModify: %y\nChange: %z\n Birth: %w\n"

/-- The format for all that is known on one line. -/
def shortFormat : String :=
  "%n %s %b %f %u %g %D %i %h %t %T %X %Y %Z %W %o\n"

/-- Tells what is known of files. -/
def showProperties (operands : List String) : Work Unit :=
  withOptions "c:Lft P:" [("format", 'c'), ("printf", 'P'), ("dereference", 'L'), ("terse", 't'),
      ("file-system", 'f')] 1 operands fun options => do
    if options.operands.isEmpty then misuse 1 "missing operand"
    for name in options.operands do
      let found : Except FileFault FileStatus ← Course.ask fun machine =>
        if name = "-" then
          match machine.descriptorStatus? 0 with
          | some status => .ok status
          | none => .error .badDescriptor
        else machine.status (options.has 'L') name
      match found with
      | .error fault =>
          let phrase := if name = "-" then "cannot stat standard input" else cannot "statx" name
          warn 1 (phrase ++ ": " ++ faultText fault)
      | .ok status =>
          let shown := fun format : String =>
            described status name (format.length + 1) format.toList
          match options.argument? 'c', options.argument? 'P' with
          | some format, _ => put (shown format ++ "\n")
          | none, some format => put (shown (unescaped format).1)
          | none, none =>
              put (shown (if options.has 't' then shortFormat else wholeFormat status.kind))

end HingeField.Shell.Utility
