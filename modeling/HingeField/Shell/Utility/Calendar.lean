import HingeField.Shell.Integer

/-!
Days and times of the calendar, in universal time: how they are told from a
count of seconds, written by a format, and read from a text.
-/

namespace HingeField.Shell

/-- A time of the calendar. Months and days count from one. -/
structure CalendarTime where
  year : Int
  month : Nat
  day : Nat
  hour : Nat := 0
  minute : Nat := 0
  second : Nat := 0
  nanosecond : Nat := 0

namespace CalendarTime

/-- The days from the start of the calendar to a day. -/
def daysOf (year : Int) (month day : Int) : Int :=
  let year := if month ≤ 2 then year - 1 else year
  let era := Int.fdiv year 400
  let yearOfEra := year - era * 400
  let shifted := Int.emod (month + 9) 12
  let dayOfYear := (153 * shifted + 2) / 5 + day - 1
  let dayOfEra := yearOfEra * 365 + yearOfEra / 4 - yearOfEra / 100 + dayOfYear
  era * 146097 + dayOfEra - 719468

/-- The year, month and day that so many days lead to. -/
def ofDays (days : Int) : Int × Nat × Nat :=
  let days := days + 719468
  let era := Int.fdiv days 146097
  let dayOfEra := days - era * 146097
  let yearOfEra := (dayOfEra - dayOfEra / 1460 + dayOfEra / 36524 - dayOfEra / 146096) / 365
  let dayOfYear := dayOfEra - (365 * yearOfEra + yearOfEra / 4 - yearOfEra / 100)
  let shifted := (5 * dayOfYear + 2) / 153
  let day := dayOfYear - (153 * shifted + 2) / 5 + 1
  let month := if shifted < 10 then shifted + 3 else shifted - 9
  let year := yearOfEra + era * 400 + if month ≤ 2 then 1 else 0
  (year, month.toNat, day.toNat)

/-- How many nanoseconds a second has. -/
def perSecond : Int := 1000000000

def ofNanoseconds (time : Int) : CalendarTime :=
  let seconds := Int.fdiv time perSecond
  let days := Int.fdiv seconds 86400
  let rest := (seconds - days * 86400).toNat
  let (year, month, day) := ofDays days
  { year, month, day, hour := rest / 3600, minute := rest / 60 % 60, second := rest % 60
    nanosecond := (time - seconds * perSecond).toNat }

def days (time : CalendarTime) : Int :=
  daysOf time.year time.month time.day

def toSeconds (time : CalendarTime) : Int :=
  time.days * 86400 + time.hour * 3600 + time.minute * 60 + time.second

def toNanoseconds (time : CalendarTime) : Int :=
  time.toSeconds * perSecond + time.nanosecond

/-- The day of the week; the first one is a Sunday. -/
def weekday (time : CalendarTime) : Nat :=
  (Int.emod (time.days + 4) 7).toNat

/-- The day of the year, from one. -/
def yearday (time : CalendarTime) : Nat :=
  (time.days - daysOf time.year 1 1).toNat + 1

def weekdayNames : List String :=
  ["Sunday", "Monday", "Tuesday", "Wednesday", "Thursday", "Friday", "Saturday"]

def monthNames : List String :=
  ["January", "February", "March", "April", "May", "June", "July", "August", "September",
    "October", "November", "December"]

/-- The week of the year that starts on Mondays and has most of its days there, and its year. -/
def standardWeek (time : CalendarTime) : Int × Nat :=
  let monday := (time.weekday + 6) % 7
  let thursday := time.days - monday + 3
  let (year, _, _) := ofDays thursday
  (year, ((thursday - daysOf year 1 1) / 7).toNat + 1)

/-! ### Writing -/

/-- A number in at least so many places. -/
def padded (fill : Char) (width : Nat) (number : Int) : String :=
  let digits := toString number.natAbs
  let lead := if number < 0 then "-" else ""
  lead ++ String.ofList (List.replicate (width - digits.length - lead.length) fill) ++ digits

/-- How a directive fills up a number: as it is asked to, or as it does by itself. -/
def number (flag? : Option Char) (width? : Option Nat) (fill : Char) (width : Nat) (value : Int) :
    String :=
  match flag? with
  | some '-' => toString value
  | some '_' => padded ' ' (width?.getD width) value
  | some '0' => padded '0' (width?.getD width) value
  | _ => padded fill (width?.getD width) value

/-- What a directive of a format stands for. -/
def directive (time : CalendarTime) (flag? : Option Char) (width? : Option Nat) (letter : Char) :
    Option String :=
  let number := number flag? width?
  let hour := if time.hour % 12 = 0 then 12 else time.hour % 12
  let text := fun text : String =>
    let text :=
      match flag? with
      | some '^' => text.toUpper
      | some '#' => text.toUpper
      | _ => text
    String.ofList (List.replicate (width?.getD 0 - text.length) ' ') ++ text
  let two := fun value : Nat => padded '0' 2 value
  match letter with
  | 'Y' => some (number '0' 1 time.year)
  | 'C' => some (number '0' 2 (Int.fdiv time.year 100))
  | 'y' => some (number '0' 2 (Int.emod time.year 100))
  | 'm' => some (number '0' 2 time.month)
  | 'd' => some (number '0' 2 time.day)
  | 'e' => some (number ' ' 2 time.day)
  | 'H' => some (number '0' 2 time.hour)
  | 'k' => some (number ' ' 2 time.hour)
  | 'I' => some (number '0' 2 hour)
  | 'l' => some (number ' ' 2 hour)
  | 'M' => some (number '0' 2 time.minute)
  | 'S' => some (number '0' 2 time.second)
  | 'N' =>
      let digits := padded '0' 9 time.nanosecond
      some ((digits.take (width?.getD 9)).toString)
  | 's' => some (number '0' 1 time.toSeconds)
  | 'j' => some (number '0' 3 time.yearday)
  | 'u' => some (toString (if time.weekday = 0 then 7 else time.weekday))
  | 'w' => some (toString time.weekday)
  | 'q' => some (toString ((time.month + 2) / 3))
  | 'U' => some (number '0' 2 ((time.yearday + 6 - time.weekday) / 7 : Nat))
  | 'W' => some (number '0' 2 ((time.yearday + 6 - (time.weekday + 6) % 7) / 7 : Nat))
  | 'V' => some (number '0' 2 time.standardWeek.2)
  | 'G' => some (number '0' 1 time.standardWeek.1)
  | 'g' => some (number '0' 2 (Int.emod time.standardWeek.1 100))
  | 'a' => some (text ((weekdayNames.getD time.weekday "").take 3).toString)
  | 'A' => some (text (weekdayNames.getD time.weekday ""))
  | 'b' | 'h' => some (text ((monthNames.getD (time.month - 1) "").take 3).toString)
  | 'B' => some (text (monthNames.getD (time.month - 1) ""))
  | 'p' =>
      let half := if time.hour < 12 then "AM" else "PM"
      some (if flag? == some '#' then half.toLower else text half)
  | 'P' => some (if time.hour < 12 then "am" else "pm")
  | 'Z' => some "UTC"
  | 'z' => some "+0000"
  | 'n' => some "\n"
  | 't' => some "\t"
  | '%' => some "%"
  | 'F' =>
      some (padded '0' 1 time.year ++ "-" ++ two time.month ++ "-" ++ two time.day)
  | 'T' | 'X' => some (two time.hour ++ ":" ++ two time.minute ++ ":" ++ two time.second)
  | 'R' => some (two time.hour ++ ":" ++ two time.minute)
  | 'D' | 'x' =>
      some (two time.month ++ "/" ++ two time.day ++ "/" ++
        padded '0' 2 (Int.emod time.year 100))
  | 'r' =>
      some (two hour ++ ":" ++ two time.minute ++ ":" ++ two time.second ++
        (if time.hour < 12 then " AM" else " PM"))
  | 'c' =>
      some (((weekdayNames.getD time.weekday "").take 3).toString ++ " " ++
        ((monthNames.getD (time.month - 1) "").take 3).toString ++ " " ++
        padded ' ' 2 time.day ++ " " ++ two time.hour ++ ":" ++ two time.minute ++ ":" ++
        two time.second ++ " " ++ toString time.year)
  | _ => none

/-- A time by a format. -/
def format (time : CalendarTime) : Nat → List Char → String
  | 0, _ => ""
  | _ + 1, [] => ""
  | fuel + 1, '%' :: rest =>
      let flag? := rest.head?.filter fun c => "-_0^#+".toList.contains c
      let behind := if flag?.isSome then rest.drop 1 else rest
      let width := behind.takeWhile Char.isDigit
      let behind := behind.drop width.length
      let behind := if "EO".toList.any (behind.head? == some ·) then behind.drop 1 else behind
      match behind with
      | ':' :: 'z' :: later => "+00:00" ++ format time fuel later
      | letter :: later =>
          match time.directive flag? ((String.ofList width).toNat?) letter with
          | some text => text ++ format time fuel later
          | none =>
              "%" ++ String.ofList (rest.take (rest.length - later.length)) ++
                format time fuel later
      | [] => "%" ++ String.ofList rest
  | fuel + 1, c :: rest => String.singleton c ++ format time fuel rest

/-! ### Reading -/

/-- The places of a text between signs, as numbers. -/
def numbers? (signs : List Char) (text : String) : Option (List Nat) :=
  ((text.splitToList fun c => signs.contains c).mapM fun piece => piece.toNat?)

/-- Reads a time of day, with a part of a second. -/
def dayTime? (text : String) : Option (Nat × Nat × Nat × Nat) := do
  let whole := (text.splitOn ".").headD ""
  let part := ((text.splitOn ".").drop 1).headD ""
  let nanoseconds ← if part.isEmpty then some 0
    else ((part ++ "000000000").take 9).toString.toNat?
  match ← numbers? [':'] whole with
  | [hour, minute] =>
      if hour < 24 && minute < 60 then return (hour, minute, 0, nanoseconds) else none
  | [hour, minute, second] =>
      if hour < 24 && minute < 60 && second < 61 then return (hour, minute, second, nanoseconds)
      else none
  | _ => none

/-- How many days a month has. -/
def monthLength (year : Int) (month : Nat) : Nat :=
  let next := if month = 12 then daysOf (year + 1) 1 1 else daysOf year (month + 1) 1
  (next - daysOf year month 1).toNat

/-- Reads a date by numbers. -/
def date? (text : String) : Option (Int × Nat × Nat) := do
  let check := fun (year : Int) (month day : Nat) =>
    if 1 ≤ month && month ≤ 12 && 1 ≤ day && day ≤ monthLength year month then
      some (year, month, day)
    else none
  match text.toList.contains '-', text.toList.contains '/', text.length with
  | true, _, _ =>
      match ← numbers? ['-'] text with
      | [year, month, day] => check year month day
      | _ => none
  | _, true, _ =>
      match ← numbers? ['/'] text with
      | [month, day, year] => check year month day
      | _ => none
  | _, _, 8 =>
      let number ← text.toNat?
      check (number / 10000) (number / 100 % 100) (number % 100)
  | _, _, _ => none

/-- The offset of a zone, in seconds. -/
def zone? (text : String) : Option Int :=
  match text.toLower.toList with
  | [letter] =>
      let hour? := ("zabcdefghiklm".toList.findIdx? (· == letter)).map Int.ofNat
      let later? := ("nopqrstuvwxy".toList.findIdx? (· == letter)).map fun place =>
        -Int.ofNat (place + 1)
      if letter == 'j' then some 0 else ((hour?.or later?).map (· * 3600))
  | sign :: digits =>
      if ["UTC", "GMT", "UT", "WET"].contains text.toUpper then some 0
      else if sign == '+' || sign == '-' then
        let plain := digits.filter (· != ':')
        match (String.ofList plain).toNat?, plain.length with
        | some number, 4 =>
            let seconds : Int := number / 100 * 3600 + number % 100 * 60
            some (if sign == '-' then -seconds else seconds)
        | some number, 2 =>
            let seconds : Int := number * 3600
            some (if sign == '-' then -seconds else seconds)
        | _, _ => none
      else none
  | [] => none

/-- What a text has said about a time so far. -/
structure Told where
  time : CalendarTime
  hasTime : Bool := false
  /-- Seconds, months and years to be added. -/
  seconds : Int := 0
  months : Int := 0
  zone : Int := 0

/-- The seconds or the months of a unit. -/
def unit? (name : String) : Option (Int × Int) :=
  let name := if name.endsWith "s" && 3 < name.length then (name.dropEnd 1).toString else name
  match name with
  | "sec" | "second" => some (1, 0)
  | "min" | "minute" => some (60, 0)
  | "hour" => some (3600, 0)
  | "day" => some (86400, 0)
  | "week" => some (604800, 0)
  | "fortnight" => some (1209600, 0)
  | "month" => some (0, 1)
  | "year" => some (0, 12)
  | _ => none

def monthOf? (name : String) : Option Nat :=
  let name := name.toLower
  (monthNames.findIdx? fun month =>
    3 ≤ name.length && month.toLower.startsWith name).map (· + 1)

def weekdayOf? (name : String) : Option Nat :=
  let name := (name.toLower.replace "," "")
  weekdayNames.findIdx? fun day => 3 ≤ name.length && day.toLower.startsWith name

/-- Takes the words of a text one after another. -/
def tell : Nat → Told → List String → Option Told
  | 0, _, _ => none
  | _ + 1, told, [] => some told
  | fuel + 1, told, word :: rest =>
      let midnight := fun told : Told =>
        if told.hasTime then told
        else { told with
          time := { told.time with hour := 0, minute := 0, second := 0, nanosecond := 0 } }
      let add := fun (count : Int) (name : String) (rest : List String) => do
        let (seconds, months) ← unit? name
        let (count, rest) :=
          match rest with
          | "ago" :: rest => (-count, rest)
          | rest => (count, rest)
        tell fuel
          { told with
            seconds := told.seconds + count * seconds, months := told.months + count * months }
          rest
      match date? word, dayTime? word, zone? word, word with
      | some (year, month, day), _, _, _ =>
          let told := midnight told
          tell fuel { told with time := { told.time with year, month, day } } rest
      | _, some (hour, minute, second, nanosecond), _, _ =>
          tell fuel
            { told with
              time := { told.time with hour, minute, second, nanosecond }, hasTime := true }
            rest
      | _, _, _, "now" => tell fuel told rest
      | _, _, _, "today" => tell fuel told rest
      | _, _, _, "midnight" => tell fuel (midnight told) rest
      | _, _, _, "tomorrow" => tell fuel { told with seconds := told.seconds + 86400 } rest
      | _, _, _, "yesterday" => tell fuel { told with seconds := told.seconds - 86400 } rest
      | _, _, _, "next" => do add 1 (← rest.head?) (rest.drop 1)
      | _, _, _, "last" => do add (-1) (← rest.head?) (rest.drop 1)
      | _, _, _, word =>
          let digits := (word.toList.dropWhile fun c => c == '+' || c == '-')
          let sign : Int := if word.startsWith "-" then -1 else 1
          let count := digits.takeWhile Char.isDigit
          let name := String.ofList (digits.drop count.length)
          match (String.ofList count).toNat?, name, rest with
          | some count, "", next :: rest' =>
              match unit? next, monthOf? next, zone? word with
              | some _, _, _ => add (sign * count) next rest'
              | none, some month, _ =>
                  let told := midnight told
                  let year? := rest'.head?.bind String.toNat?
                  let time := { told.time with month, day := count }
                  match year? with
                  | some year =>
                      tell fuel { told with time := { time with year } } (rest'.drop 1)
                  | none => tell fuel { told with time } rest'
              | none, none, some offset => tell fuel { told with zone := offset } rest
              | none, none, none => none
          | some count, name, rest =>
              match unit? name, zone? word with
              | some _, _ => add (sign * count) name rest
              | none, some offset => tell fuel { told with zone := offset } rest
              | none, none => none
          | none, _, rest =>
              match zone? word, unit? word, monthOf? word, weekdayOf? word, rest with
              | some offset, _, _, _, rest => tell fuel { told with zone := offset } rest
              | none, some _, _, _, rest => add 1 word rest
              | none, none, some month, _, day :: rest => do
                  let day ← (day.replace "," "").toNat?
                  let told := midnight told
                  let year? := rest.head?.bind String.toNat?
                  let time := { told.time with month, day }
                  match year? with
                  | some year =>
                      tell fuel { told with time := { time with year } } (rest.drop 1)
                  | none => tell fuel { told with time } rest
              | none, none, none, some _, rest => tell fuel told rest
              | _, _, _, _, _ => none

/-- Reads a time, in nanoseconds; what a text does not tell is as it is now. -/
def read? (now : Int) (text : String) : Option Int :=
  let trimmed := text.trimAscii.toString
  if trimmed.startsWith "@" then
    let digits := (trimmed.drop 1).toString
    let whole := (digits.splitOn ".").headD ""
    let part := ((digits.splitOn ".").drop 1).headD ""
    match decimal? whole, ((part ++ "000000000").take 9).toString.toNat? with
    | some seconds, some nanoseconds => some (seconds * perSecond + nanoseconds)
    | _, _ => none
  else
    let start := ofNanoseconds now
    let spaced := String.ofList <|
      (trimmed.toList.zip (trimmed.toList.drop 1 ++ [' '])).flatMap fun (c, next) =>
        if c == 'T' && next.isDigit then [' ']
        else if c == 'Z' && next == ' ' then [' ', 'Z']
        else [c]
    let words := (spaced.split fun c => isSpace c).toList.map fun piece => piece.toString
    let words := (words.filter fun word => !word.isEmpty).flatMap fun word =>
      match (word.toList.dropWhile (· != '+')) with
      | '+' :: _ =>
          let before := word.toList.takeWhile (· != '+')
          if before.contains ':' then
            [String.ofList before, String.ofList (word.toList.drop before.length)]
          else [word]
      | _ => [word]
    let begun : Told :=
      if words.isEmpty then
        { time := { start with hour := 0, minute := 0, second := 0, nanosecond := 0 } }
      else { time := start }
    (tell (words.length + 1) begun words).map fun told =>
      let months : Int := told.time.year * 12 + told.time.month - 1 + told.months
      let moved :=
        { told.time with year := Int.fdiv months 12, month := (Int.emod months 12).toNat + 1 }
      moved.toNanoseconds + (told.seconds - told.zone) * perSecond

end CalendarTime

end HingeField.Shell
