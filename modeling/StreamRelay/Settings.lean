import StreamRelay.Settings.Reading

/-!
# Settings

Five settings, each from the first of the command line, the arguments, the environment and the
settings file that has it, else by default. All of them name settings in letters of either case; of
two spellings the first counts among the arguments, and the later one elsewhere. A name in the file
or the arguments that is no setting, nor an option of the reading, is a fault.
-/

namespace StreamRelay

/-- The settings of the relay. -/
structure Settings where
  serviceName : String
  logLevel : String
  awsRegion : String
  awsEndpointUrl : Option String
  expectedEventSource : String
deriving DecidableEq, Repr

namespace Settings

def default : Settings :=
  ⟨"dynamodb-trigger-handler", "INFO", "us-east-1", none, "aws:dynamodb"⟩

/-- The names of the settings, and whether null is a value of them. -/
def names : List (String × Bool) := [
  ("service_name", false), ("log_level", false), ("aws_region", false),
  ("aws_endpoint_url", true), ("expected_event_source", false)]

def isName (s : String) : Bool := names.any (·.1 = s)

/-- What is wrong with a name. -/
inductive Fault where
  | unknownName (name : String)
  | notText (name : String)
deriving DecidableEq

def Fault.text : Fault → String
  | unknownName n => n ++ ": extra_forbidden"
  | notText n => n ++ ": string_type"

/-- The setting that an argument names, or else the name as it is. -/
def argumentName (s : String) : String := if isName (Text.lower s) then Text.lower s else s

/-- Arguments by the settings that they name; of two spellings the first one counts. -/
def foldArguments (arguments : List (String × Value)) : List (String × Value) :=
  arguments.foldl (fun acc a =>
    let name := argumentName a.1
    if acc.any (·.1 = name) then acc else acc ++ [(name, a.2)]) []

/-- The value of a setting: from the command line, the arguments, the environment, or the file. -/
def find? (r : Reading) (arguments : List (String × Value)) (environment file : List Dotenv.Binding)
    (name : String) : Option Value :=
  let given := (arguments.find? (·.1 = name)).map Prod.snd
  ((r.line.find? r.fold name).or given).or ((r.find? environment name).or (r.find? file name))

/-- What is wrong with the value of a setting. -/
def fault? (name : String) (nullable : Bool) : Option Value → Option Fault
  | none | some (.text _) => none
  | some .null => if nullable then none else some (.notText name)
  | some _ => some (.notText name)

/-- The faults of the sources: settings whose value is no text, unknown names among the arguments,
and unknown names in the file that have a value. -/
def faults (r : Reading) (arguments : List (String × Value))
    (environment file : List Dotenv.Binding) : List Fault :=
  let wrong := names.filterMap fun (name, nullable) =>
    fault? name nullable (find? r arguments environment file name)
  let given := arguments.filterMap fun (name, _) =>
    if isName name || Reading.options.contains name then none else some (.unknownName name)
  let bound := file.filterMap fun (name, v) =>
    if isName name || names.any (r.sourceName ·.1 = name) || (v.getD "").isEmpty then none
    else some (.unknownName name)
  wrong ++ given ++ bound.filter fun f => !given.contains f

def text? : Value → Option String
  | .text s => some s
  | _ => none

/-- The texts of faults in order, as one. -/
def report (fs : List Fault) : String :=
  "; ".intercalate ((fs.map Fault.text).mergeSort fun a b => decide (a ≤ b))

/-- The settings, or the faults that stand in their way; all names are as given. -/
def load (environment : List (String × String)) (file : Option String)
    (arguments : List (String × Value)) : Except (List Fault) Settings :=
  let reading := Reading.ofArguments arguments
  let arguments := foldArguments arguments
  let environment := environment.foldl (fun acc b => Dotenv.put (b.1, some b.2) acc) []
  let file := ((reading.fileText? file).map (Dotenv.read environment)).getD []
  let file := reading.foldNames file
  let environment := reading.foldNames environment
  match faults reading arguments environment file with
  | [] =>
    let text (name : String) : Option String :=
      (find? reading arguments environment file name).bind text?
    .ok {
      serviceName := (text "service_name").getD default.serviceName
      logLevel := (text "log_level").getD default.logLevel
      awsRegion := (text "aws_region").getD default.awsRegion
      awsEndpointUrl := text "aws_endpoint_url"
      expectedEventSource := (text "expected_event_source").getD default.expectedEventSource }
  | fs => .error fs

end Settings

end StreamRelay
