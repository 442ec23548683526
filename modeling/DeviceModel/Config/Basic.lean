import DeviceModel.Resource.Basic

/-!
# Configurations

A configuration declares attributes beside the built-in ones and resources with their first values.
Both parts are taken in order, and the first thing that is wrong decides the error: an unknown type
before an empty range, and for a resource its path before its items, which are applied in ascending
order of their suffixes.
-/

namespace DeviceModel

/-- A declared attribute. Absent bounds are zero. -/
structure AttributeConfig where
  suffix : String
  typeName : String
  least : Option Int64 := none
  greatest : Option Int64 := none
deriving DecidableEq

/-- A declared resource with the values of its items. -/
structure ResourceConfig where
  path : String
  items : Json.Members := .empty

/-- Declared attributes and resources. -/
structure Config where
  attributes : List AttributeConfig := []
  resources : List ResourceConfig := []

namespace AttributeConfig

/-- The descriptor of a declared attribute. -/
def toDescriptor (declared : AttributeConfig) : Except Error Descriptor := do
  let dataType ← DataType.parse declared.typeName
  let least := declared.least.getD 0
  let greatest := declared.greatest.getD 0
  if greatest < least then .error (.emptyRange declared.suffix least greatest)
  else return ⟨declared.suffix, dataType, least, greatest⟩

end AttributeConfig

namespace ResourceConfig

variable {τ : Type}

/-- Adds the item of an attribute and writes its first value at the instant `now`. -/
def addItem (catalog : Catalog) (now : τ) (resource : Resource τ) (suffix : String)
    (value : Json) : Except Error (Resource τ) := do
  let some descriptor := catalog.get? suffix | .error (.unknownAttribute suffix)
  let slot ← resource.ensure catalog descriptor.dataType suffix
  let outcome := slot.item.write (.value (.ofJson value)) now
  if outcome.accepted then return slot.put outcome.item
  else .error (.invalidValue suffix value)

/-- The resource with its first values, all written at the instant `now`. -/
def build (catalog : Catalog) (now : τ) (config : ResourceConfig) : Except Error (Resource τ) := do
  let some kind := EntityKind.ofPath? config.path | .error (.unknownPath config.path)
  config.items.entries.foldlM
    (fun resource entry => addItem catalog now resource entry.1 entry.2) (.new kind.path)

end ResourceConfig

namespace Config

variable {τ : Type}

/-- The descriptors of the declared attributes, in order. -/
def descriptors (config : Config) : Except Error (List Descriptor) :=
  config.attributes.mapM AttributeConfig.toDescriptor

/-- The declared resources, in order. -/
def buildResources (catalog : Catalog) (now : τ) (config : Config) :
    Except Error (List (Resource τ)) :=
  config.resources.mapM (ResourceConfig.build catalog now)

end Config

end DeviceModel
