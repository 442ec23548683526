import DeviceModel.Command.Arguments
import DeviceModel.Config.Load
import DeviceModel.Device.Summary
import DeviceModel.Json.Printer

/-!
# Commands

Every command loads the model file, if one is given, and installs the catalog with its attributes;
two of them then build its resources. The first stage that fails decides the error, and nothing is
printed before all stages have succeeded.
-/

namespace DeviceModel

namespace Command

/-- Why a command printed nothing. -/
inductive Failure
  /-- The arguments mean no command. -/
  | usage
  /-- The model could not be loaded or built. -/
  | model (e : Error)
  /-- No registered suffix ends the key. -/
  | noAttribute (key : String)
  /-- No unique id begins with the given one. -/
  | noDevice (uniqueId : String)

/-- The exit code after a failure. -/
def Failure.exitCode : Failure → UInt32
  | usage => 2
  | model .cutCharacter => 101
  | _ => 1

/-- The text of a failure. -/
def Failure.message : Failure → String
  | usage => "usage: catalog [-c FILE] [--json] | lookup KEY [-c FILE] | dump -c FILE | " ++
      "device ID -c FILE"
  | model e => e.message
  | noAttribute key => "no attribute matches " ++ key
  | noDevice uniqueId => "no resource with unique id " ++ uniqueId

/-- A line of output. -/
def line (s : String) : String :=
  s ++ "\n"

/-- The configuration at a path, or the empty one if there is no path. -/
def loadModel (environment : Config.Environment) : Option String → Except Failure Config
  | none => .ok {}
  | some path => (Config.load environment path).mapError .model

/-- The catalog that a configuration installs. -/
def installCatalog (config : Config) : Except Failure Catalog := do
  let descriptors ← config.descriptors.mapError .model
  (Catalog.install none descriptors).mapError .model

/-- The resources that a configuration declares. An instant is never shown, so one is as good as
another. -/
def buildResources (catalog : Catalog) (config : Config) : Except Failure (List (Resource Unit)) :=
  (config.buildResources catalog ()).mapError .model

/-- The attributes of a catalog, one a line. -/
def listing (catalog : Catalog) : String :=
  catalog.descriptors.foldl (fun text descriptor => text ++ line descriptor.text) ""

/-- A resource as `dump` shows it. -/
def resourceJson {τ : Type} (resource : Resource τ) : Json :=
  .object [("items", resource.toJson.toJson), ("prefix", .string resource.path)]

/-- What a command prints with the catalog that a configuration installed. -/
def answer (catalog : Catalog) (config : Config) : Command → Except Failure String
  | .catalog _ json => .ok (if json then line catalog.toJson.prettyText else listing catalog)
  | .lookup key _ =>
    match catalog.lookup? key with
    | some descriptor => .ok (line descriptor.text)
    | none => .error (.noAttribute key)
  | .dump _ => do
    let resources ← buildResources catalog config
    return line (Json.array (resources.map resourceJson)).prettyText
  | .device uniqueId _ => do
    let resources ← buildResources catalog config
    let summary := DeviceSummary.collect uniqueId resources
    if summary.sub.isEmpty then .error (.noDevice uniqueId)
    else return line summary.toJson.prettyText

/-- What a command prints for a configuration. -/
def output (command : Command) (config : Config) : Except Failure String := do
  command.answer (← installCatalog config) config

/-- What a command prints. -/
def run (environment : Config.Environment) (command : Command) : Except Failure String := do
  command.output (← loadModel environment command.model?)

/-- What the program prints for its arguments. -/
def runArguments (environment : Config.Environment) (arguments : List String) :
    Except Failure String :=
  match ofArguments? arguments with
  | some command => command.run environment
  | none => .error .usage

/-- What the program leaves behind: its exit code, and what it prints on either stream. -/
structure Report where
  exitCode : UInt32
  output : String
  errors : String
deriving DecidableEq

/-- A failure is told on the other stream than the output. -/
def report : Except Failure String → Report
  | .ok text => ⟨0, text, ""⟩
  | .error failure => ⟨failure.exitCode, "", line ("Error: " ++ failure.message)⟩

end Command

end DeviceModel
