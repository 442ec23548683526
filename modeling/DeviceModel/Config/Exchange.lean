import DeviceModel.Config.Basic

/-!
# Configurations in exchange form

A configuration is decoded from a document, whatever kind of text it was read from. Unknown fields
are ignored. A list may stand for a record; whether it may have more items than the record has
fields depends on the kind of text.
-/

namespace DeviceModel

open Document

namespace AttributeConfig

/-- The declared attribute that a document holds. -/
def ofDocument? (surplus : Surplus) (document : Document) : Option AttributeConfig := do
  let [suffix, type, least, greatest] ←
    document.record? surplus ["suffix", "type", "min", "max"] | none
  return {
    suffix := ← required? text? suffix
    typeName := ← required? text? type
    least := ← optional? int64? least
    greatest := ← optional? int64? greatest }

/-- A bound in exchange form. -/
def boundJson : Option Int64 → Json
  | none => .null
  | some n => .integer n.toInt

/-- The declared attribute in exchange form. -/
def toJson (declared : AttributeConfig) : Json :=
  .object [
    ("suffix", .string declared.suffix),
    ("type", .string declared.typeName),
    ("min", boundJson declared.least),
    ("max", boundJson declared.greatest)]

end AttributeConfig

namespace ResourceConfig

/-- The declared resource that a document holds. -/
def ofDocument? (surplus : Surplus) (document : Document) : Option ResourceConfig := do
  let [path, items] ← document.record? surplus ["prefix", "items"] | none
  return {
    path := ← required? text? path
    items := ← withDefault? .empty members? items }

/-- The declared resource in exchange form. -/
def toJson (resource : ResourceConfig) : Json :=
  .object [("prefix", .string resource.path), ("items", resource.items.toJson)]

end ResourceConfig

namespace Config

/-- The configuration that a document holds. -/
def ofDocument? (surplus : Surplus) (document : Document) : Option Config := do
  let [attributes, resources] ← document.record? surplus ["attributes", "resources"] | none
  return {
    attributes := ← withDefault? [] (sequence? (AttributeConfig.ofDocument? surplus)) attributes
    resources := ← withDefault? [] (sequence? (ResourceConfig.ofDocument? surplus)) resources }
where
  /-- A list of records. -/
  sequence? {α : Type} (decode : Document → Option α) (field : Document) : Option (List α) :=
    field.list?.bind fun items => items.mapM decode

/-- The configuration in exchange form. -/
def toJson (config : Config) : Json :=
  .object [
    ("attributes", .array (config.attributes.map AttributeConfig.toJson)),
    ("resources", .array (config.resources.map ResourceConfig.toJson))]

end Config

end DeviceModel
