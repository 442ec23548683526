import DeviceModel.Json.Basic
import DeviceModel.Words

/-!
# Documents

A `Document` is what a reader of JSON, of a model file or of an environment literal finds in a
text. Typed data is decoded from it: a record from a table by the names of its fields or from a
list by their order. A part of a text that is well formed but has no value, such as a number beyond
every double, is `unreadable`; that matters only if the part is looked at.
-/

namespace DeviceModel

/-- What a text holds. The fields of a table are in the order of the text, with repeated keys. -/
inductive Document
  | null
  | bool (b : Bool)
  | integer (n : Int)
  | real (x : Double)
  | text (s : String)
  | list (items : List Document)
  | table (fields : List (String × Document))
  | unreadable

namespace Document

mutual

/-- The document as a free-form JSON value: tables in ascending order of their keys with the last
of every repeated one, and `null` for a double that has no decimal. -/
def toJson? : Document → Option Json
  | null => some .null
  | bool b => some (.bool b)
  | integer n => some (.integer n)
  | real x => some (.ofDouble x)
  | text s => some (.string s)
  | list items => (itemsToJson? items).map .array
  | table fields => (fieldsToJson? fields).map fun entries => (Json.Members.ofList entries).toJson
  | unreadable => none

/-- The items of a list as free-form JSON values. -/
def itemsToJson? : List Document → Option (List Json)
  | [] => some []
  | item :: rest => do
    let value ← toJson? item
    let values ← itemsToJson? rest
    return value :: values

/-- The fields of a table as free-form JSON values, repeated keys included. -/
def fieldsToJson? : List (String × Document) → Option (List (String × Json))
  | [] => some []
  | (key, field) :: rest => do
    let value ← toJson? field
    let values ← fieldsToJson? rest
    return (key, value) :: values

end

/-- The entries of a free-form object. -/
def members? : Document → Option Json.Members
  | table fields => (fieldsToJson? fields).map Json.Members.ofList
  | _ => none

/-- A text. -/
def text? : Document → Option String
  | text s => some s
  | _ => none

/-- A truth value. -/
def bool? : Document → Option Bool
  | bool b => some b
  | _ => none

/-- An integer that fits 64 bits with sign. -/
def int64? : Document → Option Int64
  | integer n => fitInt64? n
  | _ => none

/-- The items of a list. -/
def list? : Document → Option (List Document)
  | list items => some items
  | _ => none

/-- An optional field: absent and `null` are both nothing. -/
def optional? {α : Type} (decode : Document → Option α) : Option Document → Option (Option α)
  | none => some none
  | some null => some none
  | some field => (decode field).map some

/-- A field that must be present. -/
def required? {α : Type} (decode : Document → Option α) (field : Option Document) : Option α :=
  field.bind decode

/-- A field with a value for its absence. -/
def withDefault? {α : Type} (absent : α) (decode : Document → Option α) : Option Document → Option α
  | none => some absent
  | some field => decode field

/-- The name of a constant: a text, or a table with the name as only key and `null` as its value. -/
def constant? : Document → Option String
  | text s => some s
  | table [(name, null)] => some name
  | _ => none

/-- The values of one key of a table. -/
def valuesOf (key : String) (fields : List (String × Document)) : List Document :=
  (fields.filter fun field => field.1 == key).map (·.2)

/-- The fields with one key set, in its place if it is present and at the end if not. -/
def setField (key : String) (value : Document) :
    List (String × Document) → List (String × Document)
  | [] => [(key, value)]
  | field :: rest =>
    if field.1 == key then (key, value) :: rest else field :: setField key value rest

/-- The table of fields of which the last one of every key counts. -/
def ofFields (fields : List (String × Document)) : Document :=
  table (fields.foldl (fun fields field => setField field.1 field.2 fields) [])

/-- Whether a list with more items than a record has fields is refused or cut. -/
inductive Surplus
  | refused
  | ignored
deriving DecidableEq

/-- The fields of a record in the order of `names`, each present at most once. A table is read by
names, other keys being ignored, and a list by position. -/
def record? (surplus : Surplus) (names : List String) : Document → Option (List (Option Document))
  | table fields => names.mapM fun name =>
      match valuesOf name fields with
      | [] => some none
      | [field] => some (some field)
      | _ => none
  | list items =>
    if surplus = .refused ∧ names.length < items.length then none
    else some ((List.range names.length).map fun i => items[i]?)
  | _ => none

end Document

end DeviceModel
