import HingeField.Shell.Builtin

/-!
Carrying out the commands of a script. A simple command sets variables, or has
its name looked up: among functions, among the commands of the script's own
language, and last among programs.

Commands are carried out by fuel, which bounds how deep they are nested.
-/

namespace HingeField.Shell

/-- How long a command takes, in microseconds. -/
def commandTime : Nat := 10

/-- What a simple command calls. -/
inductive Callee where
  | nothing
  | function (function : Function)
  | builtin (isSpecial : Bool) (name : String)
  | program (name : String)

/-- The fields behind the names that only have functions passed over; a request for a description
is none of them. -/
def behindCommand : Nat → List String → Option (List String)
  | fuel + 1, "command" :: rest =>
      let options := rest.takeWhile fun option => option == "-p"
      let rest := rest.drop options.length
      let rest := if rest.head? == some "--" then rest.drop 1 else rest
      match rest with
      | [] => none
      | name :: _ =>
          if name.startsWith "-" then none else some ((behindCommand fuel rest).getD rest)
  | _, _ => none

/-- Whether the operands of a command that are settings are expanded as such. -/
def takesSettings (fields : List String) : Bool :=
  match fields.find? fun field => field != "command" && field != "-p" && field != "--" with
  | some name => ["export", "readonly", "local"].contains name
  | none => false

section

variable (evaluate : Evaluator)

/-- The fields that the words of a command stand for. -/
def commandFields : List String → List Word → Act (List String)
  | fields, [] => return fields
  | fields, word :: rest => do
      let own ←
        if isSetting word && takesSettings fields then
          pure [← settingText evaluate word]
        else fieldsOf evaluate word
      commandFields (fields ++ own) rest

/-- Sets a variable as a word says, and marks it for programs if asked to. -/
def carrySetting (isHidden isExported : Bool) (word : Word) : Act String := do
  let text ← settingText evaluate word
  let (name, value?) := splitSetting text
  if isHidden then hideVariable name
  setVariable name (value?.getD "")
  if isExported then
    let before := ((← get).binding? name).getD {}
    putVariable name (some { before with isExported := true })
  return text

/-- What stands in front of a command that is shown. -/
def traceLead : Act String := do
  let session ← get
  let text := (session.valueOf? "PS4").getD "+ "
  match readInside text with
  | .error _ => return text
  | .ok word =>
      restoring (fun before after => { after with settings := before.settings }) do
        set { session with settings := session.settings.filter (· != 'x') }
        return textOf (← expandParts (outputOf evaluate) wordFuel {} false word)

/-- Shows a command before it is carried out, on the error output from before its redirections,
which is given by its channel. -/
def trace (errors? : Option Nat) (texts : List String) : Act Unit := do
  if (← get).hasSetting 'x' then
    let lead ← traceLead evaluate
    match errors? with
    | some channel =>
        let content := octetsContent (lead ++ String.intercalate " " texts ++ "\n")
        let _ ← Course.writeChannel channel endlessSteps content
    | none => pure ()

/-- How many programs may start one another. -/
def deepestStart : Nat := 1000

/-- Starts the program at the first path of several where there is one, in place of the script, or
of a copy of it. -/
def startProgram (name : String) (paths arguments : List String) : Act Unit := do
  let refuse := fun fault => do
    let (text, status) := startRefusal (← get).isWordy fault
    complain (name ++ ": " ++ text)
    setStatus status
  modify fun session => { session with traps := [] }
  startFirst (runImage evaluate deepestStart) refuse paths arguments

/-- Whether the script has commands for signals or for its end. -/
def hasTraps : Act Bool := do
  return (← get).traps.any fun entry => !entry.2.isEmpty

/-- Runs a program and waits for it, or ends with it. -/
def runProgram (manner : Manner) (name : String) (arguments : List String) : Act Unit := do
  match ← if name.contains '/' then pure (.ok 0) else findCommand name with
  | .error fault =>
      let absence := if (← get).isWordy then "command not found" else "not found"
      complain (name ++ ": " ++ if isAbsence fault then absence else faultText fault)
      setStatus 127
  | .ok place =>
      let start := startProgram evaluate name (((← get).pathsOf name).drop place) arguments
      if manner.isLast && !(← hasTraps) then
        start
        throw .finish
      else waitForCopy evaluate start

/-- Calls what a simple command names. -/
def call (manner : Manner) (isGuarded : Bool) (callee : Callee) (fields : List String) :
    Act Unit := do
  match callee with
  | .nothing => setStatus (← get).outputStatus
  | .function function => callFunction evaluate manner function (fields.drop 1)
  | .program name => runProgram evaluate manner name fields
  | .builtin _ "exec" =>
      match fields.drop 1 with
      | [] => setStatus 0
      | name :: arguments =>
          restoring (fun before after => { after with commandName := before.commandName }) do
            modify fun session => { session with commandName := some "exec" }
            startProgram evaluate name ((← get).pathsOf name) (name :: arguments)
            throw .finish
  | .builtin _ name =>
      let outcome ← outcomeOf <|
        restoring (fun before after => { after with commandName := before.commandName }) do
          modify fun session => { session with commandName := some name }
          setStatus (← perform evaluate name (fields.drop 1))
      match outcome with
      | .ok () => pure ()
      | .error .failure => unless isGuarded do throw .failure
      | .error stop => throw stop

/-- Carries out a simple command. -/
def runSimple (manner : Manner) (settings words : List Word) (redirections : List Redirection) :
    Act Unit := do
  modify fun session => { session with outputStatus := 0 }
  let whole ← commandFields evaluate [] words
  let session ← get
  let passed? :=
    if (session.functions.lookup "command").isSome then none else behindCommand whole.length whole
  let fields := passed?.getD whole
  let callee : Callee :=
    match fields with
    | [] => .nothing
    | name :: _ =>
        match if passed?.isSome then none else session.functions.lookup name with
        | some function => .function function
        | none =>
            if specialNames.contains name then .builtin passed?.isNone name
            else if regularNames.contains name then .builtin false name
            else .program name
  let (isSpecial, isHiding) :=
    match callee with
    | .nothing => (false, false)
    | .builtin isSpecial _ => (isSpecial, !isSpecial)
    | _ => (false, true)
  let isReplacing := fields.head? == some "exec" && 1 < fields.length
  let errors? ← Course.ask fun machine =>
    (machine.own.descriptor? 2).map Descriptor.channel
  withRedirections evaluate redirections (fields == ["exec"])
    (if isSpecial then throw .failure else pure ()) do
    let act := do
      let texts ← settings.mapM (carrySetting evaluate isHiding (isHiding || isReplacing))
      unless texts.isEmpty && whole.isEmpty do trace evaluate errors? (texts ++ whole)
      call evaluate manner (!isSpecial) callee fields
    if isHiding then withHiding act else act

/-- Ends the script if a failure is to end it. -/
def checkFailure (manner : Manner) : Act Unit := do
  let session ← get
  if !manner.isTested && session.hasSetting 'e' && session.status != 0 then throw .finish

/-- Carries out a command, with what carries out the commands inside it. -/
def carryOut (manner : Manner) (command : Command) : Act Unit := do
  runTraps evaluate
  match command with
  | .nothing => pure ()
  | .simple line settings words redirections =>
      atLine line
      Course.spend commandTime
      runSimple evaluate manner settings words redirections
      runTraps evaluate
      checkFailure manner
  | .pipeline stages isBackground =>
      if isBackground then runStagesInBackground evaluate stages
      else
        runStages evaluate manner stages
        runTraps evaluate
        checkFailure manner
  | .background line body =>
      atLine line
      match body with
      | .redirected _ inside redirections =>
          let leads ← leadsOf evaluate redirections
          runInBackground evaluate
            (withLeads leads false (throw .failure) (evaluate { isLast := true } inside))
      | .apart _ inside redirections =>
          runInBackground evaluate
            (withRedirections evaluate redirections false (throw .failure)
              (evaluate { isLast := true } inside))
      | body => runInBackground evaluate (evaluate { isLast := true } body)
  | .redirected line body redirections =>
      atLine line
      withRedirections evaluate redirections false (pure ()) (evaluate manner.followed body)
  | .apart line body redirections =>
      atLine line
      let leads ← leadsOf evaluate redirections
      let whole :=
        withLeads leads false (throw .failure) (evaluate { manner with isLast := true } body)
      waitForCopy evaluate whole
      runTraps evaluate
      checkFailure manner
  | .sequence first second =>
      evaluate manner.followed first
      evaluate manner second
  | .onSuccess first second =>
      evaluate .tested first
      if (← get).status == 0 then evaluate manner second
  | .onFailure first second =>
      evaluate .tested first
      if (← get).status != 0 then evaluate manner second
  | .negated body =>
      let outcome ← outcomeOf (evaluate .tested body)
      let turn : Act Unit := do setStatus (if (← get).status == 0 then 1 else 0)
      match outcome with
      | .ok () => turn
      | .error stop =>
          if stop.isSkip then turn
          throw stop
  | .conditional condition body otherwise =>
      evaluate .tested condition
      if (← get).status == 0 then
        if body.isNothing then setStatus 0 else evaluate manner body
      else if otherwise.isNothing then setStatus 0
      else evaluate manner otherwise
  | .repeated untilSuccess condition body =>
      insideLoop (runLoop evaluate manner untilSuccess condition body endlessRounds 0)
  | .forEach line name words body =>
      atLine line
      let texts := (← words.mapM (fieldsOf evaluate)).flatten
      setStatus 0
      insideLoop (runForEach evaluate manner name body texts)
  | .choice line subject arms =>
      atLine line
      runArms evaluate manner (← textOfWord evaluate subject) arms
  | .define line name body =>
      modify fun session =>
        let others := session.functions.filter fun entry => entry.1 != name
        { session.forget name with status := 0, functions := (name, { body, line }) :: others }

end

/-- Carries out a command that is nested no deeper than the fuel lasts, unless commands are only to
be read. -/
def evaluate : Nat → Evaluator
  | 0 => fun _ _ => throw .exhausted
  | fuel + 1 => fun manner command => do
      if (← get).hasSetting 'n' then setStatus 0
      else carryOut (evaluate fuel) manner command

/-- More than the nesting of any script. -/
def nestingFuel : Nat := 100000

end HingeField.Shell
