import HingeField.Shell.Lookup
import HingeField.Shell.Process

/-!
The flow of a script: conditionals, loops, choices, pipelines and functions.
-/

namespace HingeField.Shell

/-- Takes a step inside a loop. -/
def insideLoop (act : Act Unit) : Act Unit :=
  restoring (fun before after => { after with loopDepth := before.loopDepth }) do
    modify fun session => { session with loopDepth := session.loopDepth + 1 }
    act

/-- How a loop goes on behind a part of a round. -/
inductive Round where
  | onward
  | next
  | done
  | stopped (stop : Stop)

/-- How a loop goes on behind a part of a round that has ended in a certain way. -/
def roundOf : Except Stop Unit → Round
  | .ok () => .onward
  | .error (.leave 0) => .done
  | .error (.leave (loops + 1)) => .stopped (.leave loops)
  | .error (.again 0) => .next
  | .error (.again (loops + 1)) => .stopped (.again loops)
  | .error stop => .stopped stop

/-- Whether a stop only leaves loops or a function. -/
def Stop.isSkip : Stop → Bool
  | .leave _ => true
  | .again _ => true
  | .back => true
  | _ => false

section

variable (evaluate : Evaluator)

/-- Repeats commands while a condition succeeds, or until it does. The status is that of the last
round. -/
def runLoop (manner : Manner) (untilSuccess : Bool) (condition body : Command) :
    Nat → Nat → Act Unit
  | 0, _ => throw .exhausted
  | fuel + 1, last => do
      match roundOf (← outcomeOf (evaluate .tested condition)) with
      | .next => runLoop manner untilSuccess condition body fuel last
      | .done => setStatus last
      | .stopped stop =>
          unless stop == .back do if stop.isSkip then setStatus last
          throw stop
      | .onward =>
          if ((← get).status == 0) == untilSuccess then setStatus last
          else
            let outcome ← outcomeOf (evaluate manner.followed body)
            let last := (← get).status
            match roundOf outcome with
            | .onward | .next => runLoop manner untilSuccess condition body fuel last
            | .done => pure ()
            | .stopped stop => throw stop

/-- Repeats commands for each of some texts. -/
def runForEach (manner : Manner) (name : String) (body : Command) : List String → Act Unit
  | [] => pure ()
  | text :: rest => do
      setVariable name text
      match roundOf (← outcomeOf (evaluate manner.followed body)) with
      | .onward | .next => runForEach manner name body rest
      | .done => pure ()
      | .stopped stop => throw stop

/-- Whether one of some patterns fits a text. -/
def fitsOne (text : String) : List Word → Act Bool
  | [] => return false
  | word :: rest => do
      let items ← expandWord (outputOf evaluate) wordFuel {} word
      if (patternOf items).fitsText text.toList then return true
      else fitsOne text rest

/-- Carries out the first arm one of whose patterns fits a text. -/
def runArms (manner : Manner) (text : String) : List (List Word × Command) → Act Unit
  | [] => setStatus 0
  | (patterns, body) :: rest => do
      if ← fitsOne evaluate text patterns then
        if body.isNothing then setStatus 0 else evaluate manner body
      else runArms manner text rest

/-- Leads the input of a process that is not waited for nowhere. -/
def closeInput : Act Unit := do
  match ← Course.openPath .forReading "/dev/null" with
  | .ok channel => Course.lead 0 channel
  | .error _ => Course.close 0

/-- Has a process that is not waited for ignore the signals of the keyboard. -/
def ignoreKeyboard : Act Unit := do
  disposeOf 2 (some "")
  disposeOf 3 (some "")
  modify fun session => { session with ignored := [2, 3] ++ session.ignored }

/-- Finds the command of a stage before the stage is started, so that the finding is kept. -/
def findStage (stage : Command) : Act Unit := do
  if let some name := stage.plainName? then
    let isOwn := (specialNames ++ regularNames).contains name ||
      ((← get).functions.lookup name).isSome
    unless isOwn do
      let _ ← findCommand name

/-- Starts commands of which each reads what the one before it writes; returns their numbers. -/
def startStages (manner : Manner) (isBackground : Bool) :
    List Command → Option Nat → Act (List Nat)
  | [], _ => return []
  | stage :: rest, input? => do
      findStage stage
      let pipe? ←
        if rest.isEmpty then pure none
        else do
          let (input, output) ← Course.makePipe .empty
          pure (some (← keepChannel input, ← keepChannel output))
      let number ← startCopy evaluate do
        if isBackground then
          ignoreKeyboard
          if input?.isNone then closeInput
        if let some (next, output) := pipe? then
          Course.close next
          restoreDescriptor (1, some output)
        if let some input := input? then restoreDescriptor (0, some input)
        evaluate { manner with isLast := true } stage
      if let some input := input? then Course.close input
      if let some (_, output) := pipe? then Course.close output
      let numbers ← startStages manner isBackground rest (pipe?.map (·.1))
      return number :: numbers

/-- Carries out commands of which each reads what the one before it writes. -/
def runStages (manner : Manner) (stages : List Command) : Act Unit := do
  let _ ← takeJobNumber
  let members ← startStages evaluate manner false stages none
  setStatus (← awaitJob members).status

/-- Starts processes as a job that is not waited for. -/
def startJob (start : Act (List Nat)) : Act Unit := do
  let number ← takeJobNumber
  let members ← start
  modify fun session =>
    let job : Job := { number, process := members.getLastD 0, members }
    { session with
      status := 0, background := job :: session.background, lastJob := some job.process }

/-- Carries out commands in a pipeline that is not waited for. -/
def runStagesInBackground (stages : List Command) : Act Unit := do
  startJob (startStages evaluate {} true stages none)

/-- Carries out a command that is not waited for. It has no input of its own. -/
def runInBackground (body : Act Unit) : Act Unit := do
  startJob do
    let number ← startCopy evaluate do
      ignoreKeyboard
      closeInput
      body
    return [number]

/-- How deep functions may call one another. -/
def deepestCall : Nat := 1000

/-- Carries out a function with arguments of its own. -/
def callFunction (manner : Manner) (function : Function) (arguments : List String) : Act Unit := do
  let before ← get
  if deepestCall ≤ before.callDepth then
    fail ("Maximum function recursion depth (" ++ toString deepestCall ++ ") reached")
  let restore := fun before after : Session =>
    { after with
      arguments := before.arguments
      nextOption := before.nextOption
      optionOffset := before.optionOffset
      loopDepth := before.loopDepth
      callDepth := before.callDepth }
  restoring restore do
    set { before with
      arguments, nextOption := 1, optionOffset := none, loopDepth := 0
      callDepth := before.callDepth + 1 }
    match ← outcomeOf (evaluate manner.followed function.body) with
    | .ok () => pure ()
    | .error .back => pure ()
    | .error stop => throw stop

end

end HingeField.Shell
