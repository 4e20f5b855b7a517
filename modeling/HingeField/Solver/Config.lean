import HingeField.Fault
import HingeField.Solver.Path
import HingeField.Text.Letter

/-!
The configuration of a solver: the executable, the inference task, a seed and
the files through which model and results are exchanged. Settings arrive as
property values. Task, seed and cleanup are checked in this order when the
configuration is made; the names of the executable, the directory and the files
are kept as given, and one that is no text is refused where it is first used.
-/

namespace HingeField

/-- The inference tasks of a solver: the most probable state, or the marginals. -/
inductive Task where
  | mpe
  | mar
deriving DecidableEq

/-- The name is an argument of the solver and the ending of its results file. -/
def Task.name : Task → String
  | .mpe => "MPE"
  | .mar => "MAR"

/-- The task that a value names, letter for letter. -/
def Property.toTask : Property → Except Fault Task
  | .text name =>
      if name = Task.mpe.name then .ok .mpe
      else if name = Task.mar.name then .ok .mar
      else .error (.unknownTask (.text name))
  | value => .error (.unknownTask value)

/-- The integer of a property value: the part of a number before its point, or a numeral. -/
def Property.toInteger : Property → Except Fault Int
  | .boolean value => .ok (if value then 1 else 0)
  | .integer value => .ok value
  | .real value =>
      match Decimal.Reading.ofFloat value with
      | .notANumber => .error .notANumberSeed
      | .infinite _ => .error .infiniteSeed
      | reading => .ok (reading.truncated.getD 0)
  | .text value =>
      match Decimal.integer value.toList with
      | .ok number => .ok number
      | .error defect => .error (.numeral defect value)
  | value => .error (.notNumeric value)

/-- The words that mean false, in lower case. All their letters are ASCII. -/
def falseWords : List String :=
  ["false", "0", "no", "off", ""]

/-- The number that a property value stands for; an integer may be too great for one. -/
def Property.toReal : Property → Except Fault Float
  | .boolean value => .ok (if value then 1.0 else 0.0)
  | .integer value =>
      let magnitude := Float.ofScientific value.natAbs false 0
      if magnitude.isInf then .error .realOverflow
      else .ok (if value < 0 then -magnitude else magnitude)
  | .real value => .ok value
  | .text "nan" => .ok (0.0 / 0.0)
  | .text "inf" => .ok (1.0 / 0.0)
  | .text "-inf" => .ok (-1.0 / 0.0)
  | .text "-0.0" => .ok (-0.0)
  | value => .error (.notNumeric value)

/-- A text is a switch by its word, whatever its case and the blanks around it. -/
def Property.toSwitch : Property → Bool
  | .text value =>
      !falseWords.contains
        (String.ofList ((Text.strip value.toList).map Char.toLower))
  | value => value.isTruthy

/-- The path that a value names. -/
def Property.toPath : Property → Except Fault Path
  | .text name => .ok (Path.ofString name)
  | value => .error (.notAPath value)

/-- The path that a value names from a directory. -/
def Property.toPathFrom (directory : Path) : Property → Except Fault Path
  | .text name => .ok (directory.join (Path.ofString name))
  | value => .error (.notAFileName value)

/-- A word of a command, which stands at the given place in it. -/
def Property.toWord (place : Nat) : Property → Except Fault String
  | .text word => .ok word
  | value => .error (.notAWord place value)

namespace Solver

/-- Settings as given, before any check. -/
structure Settings where
  executable : Property := .text ""
  task : Property := .text Task.mpe.name
  seed : Property := .integer 0
  workDirectory : Property := .text "."
  modelFile : Property := .text "model.uai"
  evidenceFile : Property := .text "no.evid"
  cleanup : Property := .boolean true

/-- The section of a property file that holds the settings. -/
def settingsSection : String := "uaiformatreasoner"

/-- The names of the settings. -/
def settingNames : List String :=
  ["executable", "task", "seed", "work_dir", "model_filename", "evidence_filename", "cleanup"]

/-- Settings that are not found keep their defaults. -/
def Settings.ofLookup (find : String → Option Property) : Settings :=
  let defaults : Settings := {}
  { executable := (find "executable").getD defaults.executable
    task := (find "task").getD defaults.task
    seed := (find "seed").getD defaults.seed
    workDirectory := (find "work_dir").getD defaults.workDirectory
    modelFile := (find "model_filename").getD defaults.modelFile
    evidenceFile := (find "evidence_filename").getD defaults.evidenceFile
    cleanup := (find "cleanup").getD defaults.cleanup }

/-- The name that stands for the configuration itself. -/
def reservedName : String := "self"

/-- Settings given by their bare names, each of which must be one. -/
def Settings.ofFields (fields : List (String × Property)) : Except Fault Settings :=
  match fields.find? fun field => !settingNames.contains field.1 with
  | some field =>
      if field.1 = reservedName then .error (.reservedSetting field.1)
      else .error (.unknownSetting field.1)
  | none => .ok (Settings.ofLookup fun name => fields.lookup name)

/-- Settings from dotted property keys: the section, a point, and the name of the setting. Other
properties are left alone. -/
def Settings.ofProperties (sectionName : String) (properties : List (String × Property)) :
    Settings :=
  Settings.ofLookup fun name => properties.lookup (sectionName ++ "." ++ name)

structure Config where
  executable : Property
  task : Task
  seed : Int
  workDirectory : Property
  modelFile : Property
  evidenceFile : Property
  cleanup : Bool

def Settings.check (settings : Settings) : Except Fault Config := do
  let taskName := String.ofList (Text.upper settings.task.shown.toList)
  let task ← (Property.text taskName).toTask
  let seed ← settings.seed.toInteger
  return {
    executable := settings.executable
    task
    seed
    workDirectory := settings.workDirectory
    modelFile := settings.modelFile
    evidenceFile := settings.evidenceFile
    cleanup := settings.cleanup.toSwitch }

namespace Config

/-- A solver cannot be run without an executable. -/
def requireExecutable (config : Config) : Except Fault Unit :=
  if config.executable.isTruthy then .ok () else .error .missingExecutable

def workPath (config : Config) : Except Fault Path :=
  config.workDirectory.toPath

def modelPath (config : Config) : Except Fault Path := do
  config.modelFile.toPathFrom (← config.workPath)

def evidencePath (config : Config) : Except Fault Path := do
  config.evidenceFile.toPathFrom (← config.workPath)

/-- The solver names its results after the model and the task. -/
def outputPath (config : Config) : Except Fault Path := do
  let name := config.modelFile.shown ++ "." ++ config.task.name
  return (← config.workPath).join (Path.ofString name)

def arguments (config : Config) : List Property :=
  [config.modelFile, config.evidenceFile, .text (toString config.seed), .text config.task.name]

/-- The executable with its arguments, all of which must be texts. -/
def command (config : Config) : Except Fault (List String) :=
  (config.executable :: config.arguments).zipIdx.mapM fun (word, place) => word.toWord place

end Config

end Solver

end HingeField
