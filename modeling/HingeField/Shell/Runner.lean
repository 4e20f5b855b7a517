import HingeField.Shell.Evaluation
import HingeField.Shell.Host.Schedule
import HingeField.Solver.Run
import HingeField.Text.Lines

/-!
The runner that has the system carry out a solver command: a machine is set up
with the files of the call, on which the executable is looked for and started in
the directory of the call; its output is read as text.
-/

namespace HingeField.Shell

open Solver

/-- The variables that a command is given. -/
def givenVariables : List (String × String) :=
  [("HOME", "/root"), ("LANG", "C.UTF-8"),
    ("PATH", "/usr/local/bin:/usr/local/sbin:/usr/local/bin:/usr/sbin:/usr/bin:/sbin:/bin")]

/-- What starts with an executable. One without a separator is looked for in the directories that
are searched; of several reasons why none starts, the first counts that is not just a missing
file. -/
def executableImage (machine : Machine) (name : String) (arguments : List String) :
    Except FileFault Image :=
  if name.contains '/' then imageAt machine deepestInterpreter name arguments
  else
    let directories := ((givenVariables.lookup "PATH").getD "").splitOn ":"
    directories.foldl
      (fun (found : Except FileFault Image) directory =>
        match found with
        | .error .notFound =>
            match imageAt machine deepestInterpreter (directory ++ "/" ++ name) arguments with
            | .error .notDirectory => .error .notFound
            | image => image
        | found => found)
      (.error .notFound)

/-- The state that a command starts from. -/
def startSession (title : String) (place : String) : Session :=
  let bindings := givenVariables.map fun (name, value) =>
    (name, ({ value := some value, isExported := true } : Variable))
  { bindings, name := title, place }

/-- The pipes that keep the two outputs of a command. -/
def outputPipe : Nat := 0
def errorPipe : Nat := 1

/-- The machine that a command starts on: its input is empty, and both its outputs are kept. -/
def machineOn (disk : Disk) (here : Nat) : Machine :=
  { disk
    pipes := #[{ isKept := true }, { isKept := true }]
    channels :=
      #[{ medium := .device .null }, { medium := .pipe outputPipe, reads := false },
        { medium := .pipe errorPipe, reads := false }]
    processes :=
      [{ number := firstProcess, parent := firstProcess - 1, here
         descriptors :=
          [{ number := 0, channel := 0 }, { number := 1, channel := 1 },
            { number := 2, channel := 2 }] }]
    current := firstProcess
    nextProcess := firstProcess + 1 }

/-- The bytes that a pipe has kept. -/
def Machine.keptIn (machine : Machine) (pipe : Nat) : List UInt8 :=
  (machine.pipes[pipe]?.map fun pipe => pipe.content.data.toList).getD []

/-- The status that a command ends with; a negative one names the signal that has ended it. -/
def statusOf (machine : Machine) : Int :=
  match (machine.process? firstProcess).bind Process.ending? with
  | some { signal? := some signal, .. } => -signal
  | some ending => ending.status
  | none => 0

/-- How a command has ended. Both outputs must be texts; line ends of the error output are all line
feeds. -/
def completionOf (status : Int) (output errors : List UInt8) : Completion :=
  match Text.decode output, Text.decode errors with
  | .error defect, _ => .failed (.undecodable defect)
  | .ok _, .error defect => .failed (.undecodable defect)
  | .ok _, .ok text =>
      .exited (some status) (String.ofList (Text.unifyLineEnds text.toList))

/-- The machine after what starts with a file has been carried out. -/
def carriedOut (machine : Machine) (title : String) (image : Image) : Machine :=
  let work := evaluate nestingFuel
  let act := toItsEnd work (runImage work deepestStart image)
  let task : Machine → Task := fun machine =>
    act (startSession title machine.herePath) machine fun outcome _ machine =>
      let ending :=
        match outcome with
        | .ok ending => ending
        | .error stop => stoppedEnding stop
      .ended (machine.finish machine.current ending)
  machine.run [outputPipe, errorPipe] endlessSteps
    [{ number := firstProcess, wait := { event := .never }, ready? := some (0, .happened)
       next := fun _ => task }]

/-- Starts a command in the directory it is to run in. -/
def start (machine : Machine) (command : List String) : Completion × Machine :=
  match command.map encode with
  | [] => (.failed (.file .notFound), machine)
  | name :: arguments =>
      match executableImage machine name (name :: arguments) with
      | .error fault => (.failed (.file fault), machine)
      | .ok image =>
          let machine := carriedOut machine name image
          (completionOf (statusOf machine) (machine.keptIn outputPipe) (machine.keptIn errorPipe),
            machine)

/-- Carries out a command. -/
def runner : Runner := fun call =>
  if call.command.any fun word => word.contains '\x00' then
    (.failed (.file .embeddedNull), call.files)
  else
    let system := Disk.ofSystem programNames
    let disk := system.withFiles call.files (Machine.startSeconds * 1000000000 : Nat)
    match call.files.movedTo call.directory with
    | .error fault => (.failed (.file fault), call.files)
    | .ok inside =>
        let path := "/" ++ String.intercalate "/" (inside.here.map encode)
        let here := (disk.find? Disk.root path).getD Disk.root
        let (completion, machine) := start (machineOn disk here) call.command
        (completion, machine.disk.toFiles system.nodes.size call.files.here)

end HingeField.Shell
