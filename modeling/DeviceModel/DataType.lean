import DeviceModel.Document
import DeviceModel.Text.Case

/-!
# Data types

Every attribute has one of eleven data types. The type decides how an item keeps its value: as a
number, as text, or, for points in time, as a number beside a buffer for raw text. A type has one
name; `DataType.ofName?` also knows some short names and reads every letter case.
-/

namespace DeviceModel

/-- The declared type of an attribute. -/
inductive DataType
  | bool
  | uint8
  | uint16
  | uint32
  | uint64
  | int8
  | int16
  | int32
  | string
  | time
  | timePattern
deriving DecidableEq, Repr

namespace DataType

/-- All data types, in order. -/
def all : List DataType :=
  [bool, uint8, uint16, uint32, uint64, int8, int16, int32, string, time, timePattern]

/-- The name of a type. -/
def name : DataType → String
  | bool => "bool"
  | uint8 => "uint8"
  | uint16 => "uint16"
  | uint32 => "uint32"
  | uint64 => "uint64"
  | int8 => "int8"
  | int16 => "int16"
  | int32 => "int32"
  | string => "string"
  | time => "time"
  | timePattern => "timepattern"

/-- The other name of a type, if it has one. -/
def alias? : DataType → Option String
  | bool => some "boolean"
  | uint8 => some "u8"
  | uint16 => some "u16"
  | uint32 => some "u32"
  | uint64 => some "u64"
  | int8 => some "i8"
  | int16 => some "i16"
  | int32 => some "i32"
  | string => some "str"
  | time => none
  | timePattern => none

/-- Whether values are kept as text. -/
def isTextual : DataType → Bool
  | string | timePattern => true
  | _ => false

/-- Whether items have a text buffer. Points in time do, beside their number. -/
def hasTextBuffer : DataType → Bool
  | string | time | timePattern => true
  | _ => false

/-- Whether values are integers. -/
def isInteger : DataType → Bool
  | uint8 | uint16 | uint32 | uint64 | int8 | int16 | int32 => true
  | _ => false

/-- Whether the lower-case form of a text is a name of the type. -/
def isNamed (s : String) (type : DataType) : Bool :=
  let lower := Text.lower s.toList
  lower == type.name.toList || type.alias?.any fun name => lower == name.toList

/-- The type with this name, in any case. -/
def ofName? (s : String) : Option DataType :=
  all.find? (isNamed s)

/-- The type with exactly this name. -/
def ofExactName? (s : String) : Option DataType :=
  all.find? fun type => type.name == s

/-- The type in exchange form. -/
def toJson (type : DataType) : Json :=
  .string type.name

/-- The type that a document names exactly. -/
def ofDocument? (document : Document) : Option DataType :=
  document.constant?.bind ofExactName?

end DataType

end DeviceModel
