import HingeField.Shell.Escape
import HingeField.Shell.Utility.Launch

/-!
Running a command on words from the input. Words stand between blanks, in which
quotes and backslashes keep blanks; as many of them as are asked for go to one
run of the command.
-/

namespace HingeField.Shell.Utility

/-- Words between blanks, in which quotes and backslashes keep blanks; the mark of a quote that is
open if one is. A word `stop` may end them. -/
def inputWords (byLines : Bool) : Nat → Option Char → Option (List Char) → List Char →
    Except Char (List String)
  | 0, _, _, _ => .ok []
  | _ + 1, some mark, _, [] => .error mark
  | _ + 1, none, current?, [] => .ok (current?.map fun word => String.ofList word.reverse).toList
  | fuel + 1, some mark, current?, c :: rest =>
      if c == mark then inputWords byLines fuel none (some (current?.getD [])) rest
      else if c == '\n' then .error mark
      else inputWords byLines fuel (some mark) (some (c :: current?.getD [])) rest
  | fuel + 1, none, current?, c :: rest =>
      if c == '\x27' || c == '\x22' then
        inputWords byLines fuel (some c) (some (current?.getD [])) rest
      else if c == '\\' then
        match rest with
        | next :: rest => inputWords byLines fuel none (some (next :: current?.getD [])) rest
        | [] => inputWords byLines fuel none current? []
      else if c == '\n' || (isSpace c && (!byLines || current?.isNone)) then
        let word := (current?.map fun word => String.ofList word.reverse).toList
        match inputWords byLines fuel none none rest with
        | .ok words => .ok (word ++ words)
        | .error mark => .error mark
      else inputWords byLines fuel none (some (c :: current?.getD [])) rest

/-- How many bytes the words of one run may have. -/
def longestCommand : Nat := 131072

/-- Words for one run and those left: up to a number of them, and of bytes. -/
def takeWords (most : Nat) (size : Nat) : List String → List String × List String
  | [] => ([], [])
  | word :: rest =>
      match most with
      | 0 => ([], word :: rest)
      | most + 1 =>
          if size < word.length + 1 then ([], word :: rest)
          else
            let (taken, left) := takeWords most (size - word.length - 1) rest
            (word :: taken, left)

/-- Lists of so many words each. -/
def groupedWords (size : Nat) : Nat → List String → List (List String)
  | 0, _ => []
  | fuel + 1, words =>
      if words.isEmpty then []
      else
        match takeWords size longestCommand words with
        | ([], word :: rest) => [word] :: groupedWords size fuel rest
        | (taken, left) => taken :: groupedWords size fuel left

/-- The status of a command that has others do its work, from its own so far and theirs. -/
def delegatedStatus (status own : Nat) : Nat :=
  if own = 0 then status else 123

section

variable (launch : Launcher)

/-- Runs commands one after another until one cannot go on. -/
def runEach (shows : Bool) : List (List String) → Work Unit
  | [] => pure ()
  | words :: rest => do
      if shows then putError (String.intercalate " " (words.map shownName) ++ "\n")
      let name := words.headD ""
      let refusal := refusalOf (← get).command id words
      let arrange := fun process : Process => process
      let ending ← runProgram launch refusal arrange words
      match ending.signal? with
      | some signal =>
          remark (name ++ ": terminated by signal " ++ toString signal)
          setStatus 125
      | none =>
          if ending.status = 127 || ending.status = 126 then setStatus ending.status
          else if ending.status = 255 then
            remark (name ++ ": exited with status 255; aborting")
            setStatus 124
          else
            setStatus (delegatedStatus (← get).status ending.status)
            runEach shows rest

/-- The pieces of a text between signs. -/
def dividedBy (sign : Char) (text : String) : List String :=
  let pieces := (text.split (· == sign)).toList.map fun piece => piece.toString
  if pieces.getLast? = some "" then pieces.dropLast else pieces

/-- The words of an input. -/
def wordsOf (options : Options) (input : String) : Except Char (List String) :=
  if options.has '0' then .ok (dividedBy '\x00' input)
  else
    match options.argument? 'd' with
    | some sign => .ok (dividedBy ((unescaped sign).1.toList.headD '\n') input)
    | none =>
        let byLines := options.has 'I' || options.has 'L'
        let words := inputWords byLines (input.length + 1) none none input.toList
        match words, options.argument? 'E' with
        | .ok words, some stop => .ok (words.takeWhile (· != stop))
        | words, _ => words

/-- The commands that are run on words. -/
def commandsOn (options : Options) (words : List String) : List (List String) :=
  let command := if options.operands.isEmpty then ["echo"] else options.operands
  match options.argument? 'I' with
  | some sign =>
      words.map fun word =>
        command.take 1 ++ (command.drop 1).map fun part => part.replace sign word
  | none =>
      if words.isEmpty then if options.has 'r' then [] else [command]
      else
        match (options.argument? 'L').bind String.toNat? with
        | some count =>
            (groupedWords (max 1 count) (words.length + 1) words).map fun lines =>
              command ++ lines.flatMap fun line =>
                (inputWords false (line.length + 1) none none line.toList).toOption.getD [line]
        | none =>
            let size := ((options.argument? 'n').bind String.toNat?).getD words.length
            (groupedWords (max 1 size) (words.length + 1) words).map fun group =>
              command ++ group

/-- Runs a command on words from the input. -/
def runOnWords (operands : List String) : Work Unit := do
  match findOptions "0d:n:I:L:rtP:s:xE:a:o".toList
    [("null", '0'), ("max-args", 'n'), ("no-run-if-empty", 'r'), ("delimiter", 'd'),
      ("max-procs", 'P'), ("replace", 'I'), ("max-lines", 'L'), ("verbose", 't'),
      ("arg-file", 'a'), ("eof", 'E'), ("exit", 'x'), ("max-chars", 's')] true operands with
  | .error defect => misuse 1 defect.message
  | .ok options =>
      match ← readOperand ((options.argument? 'a').getD "-") with
      | .error fault =>
          warn 1 ("Cannot open input file " ++ inCurlyQuotes ((options.argument? 'a').getD "-") ++
            ": " ++ faultText fault)
      | .ok input =>
          match wordsOf options input with
          | .error mark =>
              let kind := if mark == '\x27' then "single" else "double"
              warn 1 ("unmatched " ++ kind ++
                " quote; by default quotes are special to xargs unless you use the -0 option")
          | .ok words =>
              if (options.argument? 'a').isNone then
                match ← Course.openPath .forReading "/dev/null" with
                | .ok channel => Course.lead 0 channel
                | .error _ => pure ()
              runEach launch (options.has 't') (commandsOn options words)

end

end HingeField.Shell.Utility
