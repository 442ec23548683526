import DeviceModel.DataType
import DeviceModel.Text.Affix
import DeviceModel.Words

/-!
# Attribute descriptors

A descriptor is what is known of an attribute before any item of it exists: its suffix, which is
its name on the wire, its data type and the range of its numbers. The range from zero to zero
stands for no range.
-/

namespace DeviceModel

open Text

/-- What is known of an attribute. -/
structure Descriptor where
  suffix : String
  dataType : DataType
  least : Int64 := 0
  greatest : Int64 := 0
deriving DecidableEq

namespace Descriptor

/-- Whether numbers are checked against the range. -/
def hasRange (descriptor : Descriptor) : Bool :=
  descriptor.least != 0 || descriptor.greatest != 0

/-- Whether a number passes the check. -/
def accepts (descriptor : Descriptor) (n : Int64) : Bool :=
  !descriptor.hasRange || (descriptor.least ≤ n && n ≤ descriptor.greatest)

/-- Whether a key ends with the suffix. -/
def matchesKey (descriptor : Descriptor) (key : String) : Bool :=
  endsWith key descriptor.suffix

/-- The descriptor as one line: type, suffix, and the range if there is one. -/
def text (descriptor : Descriptor) : String :=
  let range :=
    if descriptor.hasRange then
      " [" ++ int64Text descriptor.least ++ ", " ++ int64Text descriptor.greatest ++ "]"
    else ""
  descriptor.dataType.name ++ ":" ++ descriptor.suffix ++ range

/-- The descriptor in exchange form. -/
def toJson (descriptor : Descriptor) : Json :=
  .object [
    ("suffix", .string descriptor.suffix),
    ("type", descriptor.dataType.toJson),
    ("valid_min", .integer descriptor.least.toInt),
    ("valid_max", .integer descriptor.greatest.toInt)]

/-- The descriptor that a document holds; an absent bound is zero. -/
def ofDocument? (document : Document) : Option Descriptor := do
  let [suffix, type, least, greatest] ←
    document.record? .refused ["suffix", "type", "valid_min", "valid_max"] | none
  return {
    suffix := ← Document.required? Document.text? suffix
    dataType := ← Document.required? DataType.ofDocument? type
    least := ← Document.withDefault? 0 Document.int64? least
    greatest := ← Document.withDefault? 0 Document.int64? greatest }

end Descriptor

end DeviceModel
