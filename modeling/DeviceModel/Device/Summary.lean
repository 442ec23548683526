import DeviceModel.Document
import DeviceModel.Resource.Basic

/-!
# Device summaries

A device shows up as several resources whose unique ids begin alike. Its summary has the identity
of the device, each field from the first of these resources with a text for it, and the JSON form
of every one of them.
-/

namespace DeviceModel

open Text

/-- The merged view of the resources of one device. -/
structure DeviceSummary where
  uniqueId : String
  manufacturerName : Option String := none
  modelId : Option String := none
  swVersion : Option String := none
  sub : List Json.Members := []

namespace DeviceSummary

variable {τ : Type}

/-- Whether a resource belongs to the device: its unique id begins with the given one. -/
def belongs (uniqueId : String) (resource : Resource τ) : Bool :=
  startsWith (resource.toText "attr/uniqueid") uniqueId

/-- The first text of an attribute that is not empty. -/
def firstText? (suffix : String) (resources : List (Resource τ)) : Option String :=
  (resources.map (·.toText suffix)).find? (· != "")

/-- The summary of the device whose unique id begins with the given one. -/
def collect (uniqueId : String) (resources : List (Resource τ)) : DeviceSummary :=
  let own := resources.filter (belongs uniqueId)
  { uniqueId
    manufacturerName := firstText? "attr/manufacturername" own
    modelId := firstText? "attr/modelid" own
    swVersion := firstText? "attr/swversion" own
    sub := own.map Resource.toJson }

/-- A field of the exchange form that is left out if there is no value. -/
def optionalField (key : String) : Option String → List (String × Json)
  | none => []
  | some s => [(key, .string s)]

/-- The summary in exchange form. -/
def toJson (summary : DeviceSummary) : Json :=
  .object (("uniqueid", .string summary.uniqueId) ::
    optionalField "manufacturername" summary.manufacturerName ++
    optionalField "modelid" summary.modelId ++
    optionalField "swversion" summary.swVersion ++
    [("sub", .array (summary.sub.map Json.Members.toJson))])

/-- The summary that a document holds; only the unique id must be present. -/
def ofDocument? (document : Document) : Option DeviceSummary := do
  let [uniqueId, manufacturerName, modelId, swVersion, sub] ← document.record? .refused
    ["uniqueid", "manufacturername", "modelid", "swversion", "sub"] | none
  return {
    uniqueId := ← Document.required? Document.text? uniqueId
    manufacturerName := ← Document.optional? Document.text? manufacturerName
    modelId := ← Document.optional? Document.text? modelId
    swVersion := ← Document.optional? Document.text? swVersion
    sub := ← Document.withDefault? []
      (fun field => field.list?.bind fun items => items.mapM Document.members?) sub }

end DeviceSummary

end DeviceModel
