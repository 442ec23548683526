import DeviceModel.DataType
import DeviceModel.Json.Printer
import DeviceModel.Words

/-!
# Errors

What can go wrong when a catalog, a resource or a configuration is built, and how it is reported.
`Error.unregistered` differs from the others in that no input causes it: the code that adds an item
and the catalog disagree. `Error.cutCharacter` ends the program where it occurs.
-/

namespace DeviceModel

/-- Why something could not be built. -/
inductive Error
  /-- No data type has this name. -/
  | unknownDataType (name : String)
  /-- The suffix occurs twice in a catalog. -/
  | duplicateSuffix (suffix : String)
  /-- The catalog in use cannot be replaced. -/
  | catalogInitialized
  /-- No kind of entity has this path. -/
  | unknownPath (path : String)
  /-- The catalog has no attribute with this suffix. -/
  | unknownAttribute (suffix : String)
  /-- An item was asked for that the catalog does not have with this type. -/
  | unregistered (dataType : DataType) (suffix : String)
  /-- The item of this attribute cannot hold the value. -/
  | invalidValue (suffix : String) (value : Json)
  /-- The range of an attribute contains no number. -/
  | emptyRange (suffix : String) (least greatest : Int64)
  /-- The text of a configuration could not be read. -/
  | unreadableConfig
  /-- A text in an environment variable would be cut inside of a character. -/
  | cutCharacter

/-- The text of an error. -/
def Error.message : Error → String
  | unknownDataType name => "Unknown data type: " ++ name
  | duplicateSuffix suffix => "Duplicate attribute suffix: " ++ suffix
  | catalogInitialized => "Attribute catalog is already initialized"
  | unknownPath path => "Unknown resource prefix: " ++ path
  | unknownAttribute suffix => "Unknown attribute " ++ suffix
  | unregistered dataType suffix => "unknown attribute " ++ dataType.name ++ ":" ++ suffix
  | invalidValue suffix value => "Invalid value for " ++ suffix ++ ": " ++ value.text
  | emptyRange suffix least greatest =>
    "Configuration error: " ++ suffix ++ ": min " ++ int64Text least ++ " is greater than max " ++
      int64Text greatest
  | unreadableConfig => "failed to load"
  | cutCharacter => "a text in the environment is cut inside of a character"

/-- The type with this name, in any case, or the error that there is none. -/
def DataType.parse (s : String) : Except Error DataType :=
  match ofName? s with
  | some type => .ok type
  | none => .error (.unknownDataType s)

end DeviceModel
