import DeviceModel.Document
import DeviceModel.Json.Printer
import DeviceModel.Moment.Rfc3339
import DeviceModel.Value.Basic

/-!
# Values in exchange form

A value is exchanged as an object with its kind and, unless it is null, its content: a point in
time in RFC 3339, everything else as the JSON value it resembles. A double that has no decimal is
written as `null` and cannot be read back.
-/

namespace DeviceModel.Value

/-- The kind of a value in exchange form. -/
def tag : Value → String
  | null => "Null"
  | bool _ => "Bool"
  | int _ => "Int"
  | float _ => "Float"
  | string _ => "String"
  | dateTime _ => "DateTime"

/-- The content of a value in exchange form. -/
def content? : Value → Option Json
  | null => none
  | bool b => some (.bool b)
  | int n => some (.integer n.toInt)
  | float x => some (.ofDouble x)
  | string s => some (.string s)
  | dateTime t => some (.string t.rfc3339)

/-- The value in exchange form. -/
def toTagged (value : Value) : Json :=
  let kind := ("kind", .string value.tag)
  match value.content? with
  | none => .object [kind]
  | some content => .object [kind, ("value", content)]

/-- A double, also one that is written as an integer. -/
def doubleOfDocument? : Document → Option Double
  | .real x => some x
  | .integer n => some (.ofInt n)
  | _ => none

/-- The value with this kind and content. -/
def ofContent? (tag : String) (content : Document) : Option Value :=
  match tag with
  | "Null" =>
    match content with
    | .null => some null
    | _ => none
  | "Bool" => content.bool?.map bool
  | "Int" => content.int64?.map int
  | "Float" => (doubleOfDocument? content).map float
  | "String" => content.text?.map string
  | "DateTime" => (content.text?.bind Moment.ofRfc3339?).map dateTime
  | _ => none

/-- The value with this kind and no content. -/
def ofTag? (tag : String) : Option Value :=
  if tag = "Null" then some null else none

/-- The value that a document holds in exchange form: a table with each of the two fields at most
once, in any order, or a list of kind and content. Only a table may give the kind as a constant in
its longer form. -/
def ofDocument? : Document → Option Value
  | .table fields =>
    match Document.valuesOf "kind" fields, Document.valuesOf "value" fields with
    | [tag], [] => tag.constant?.bind ofTag?
    | [tag], [content] => tag.constant?.bind fun tag => ofContent? tag content
    | _, _ => none
  | .list [.text tag, content] => ofContent? tag content
  | _ => none

end DeviceModel.Value
