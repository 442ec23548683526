import DeviceModel.Document

/-!
# Tables that stand for a value

A table in a model file that has the key `standinKey` stands for what that key holds, and its other
keys are dropped. The key `originKey` tells where a value comes from, which no file can know: a
table that has it is refused, also among the keys that are dropped. The file as a whole is no such
table, and may have both keys.
-/

namespace DeviceModel.Document

/-- The key of the value that a table stands for. -/
def standinKey : String := "___figment_value_value"

/-- The key of the origin of a value. -/
def originKey : String := "___figment_value_id"

mutual

/-- The document with every table that stands for a value replaced by it, if no table in it tells
its origin. -/
def resolve? : Document → Option Document
  | list items => (resolveItems? items).map list
  | table fields => (resolveFields? fields).map fun fields =>
      match fields.find? fun field => field.1 == standinKey with
      | some field => field.2
      | none => table fields
  | document => some document

/-- The items of a list, each resolved. -/
def resolveItems? : List Document → Option (List Document)
  | [] => some []
  | item :: rest => do
    let item ← resolve? item
    return item :: (← resolveItems? rest)

/-- The fields of a table, each resolved; there are none if the table tells its origin. -/
def resolveFields? : List (String × Document) → Option (List (String × Document))
  | [] => some []
  | (key, field) :: rest => do
    guard (key ≠ originKey)
    let field ← resolve? field
    return (key, field) :: (← resolveFields? rest)

end

end DeviceModel.Document
