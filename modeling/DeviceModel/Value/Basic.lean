import DeviceModel.Double.Round
import DeviceModel.Double.Text
import DeviceModel.Json.Basic
import DeviceModel.Moment.Text
import DeviceModel.Text.Blank
import DeviceModel.Text.Case
import DeviceModel.Words

/-!
# Values

A `Value` is what is written to an item and what is read from it. It does not know the type of the
item: the strict accessors give what a value is, and the coercions what an item of some type makes
of it. Arithmetic on doubles is exact, so a conversion to an integer never depends on rounding.
-/

namespace DeviceModel

open Text

/-- A value of one of six kinds. -/
inductive Value
  | null
  | bool (b : Bool)
  | int (n : Int64)
  | float (x : Double)
  | string (s : String)
  | dateTime (t : Moment)
deriving DecidableEq

namespace Value

/-! ### Strict accessors -/

/-- The name of the kind, as error texts give it. -/
def kindName : Value → String
  | null => "null"
  | bool _ => "bool"
  | int _ => "int"
  | float _ => "float"
  | string _ => "string"
  | dateTime _ => "datetime"

/-- Whether there is no value. -/
def isNull : Value → Bool
  | null => true
  | _ => false

/-- The truth value. -/
def toBool? : Value → Option Bool
  | bool b => some b
  | _ => none

/-- The integer, also that of a double that is equal to one. -/
def toInt64? : Value → Option Int64
  | int n => some n
  | float (.finite x) => x.toInt?.bind fitInt64?
  | _ => none

/-- The double, also the one nearest to an integer. -/
def toDouble? : Value → Option Double
  | float x => some x
  | int n => some (.ofInt n.toInt)
  | _ => none

/-- The text. -/
def toString? : Value → Option String
  | string s => some s
  | _ => none

/-- The point in time. -/
def toMoment? : Value → Option Moment
  | dateTime t => some t
  | _ => none

/-! ### Coercions -/

/-- The truth of a value. A number is true unless it is zero, so not a number is true. A text is
true unless it is empty, `0` or `false`. -/
def coerceBool : Value → Bool
  | null => false
  | bool b => b
  | int n => n != 0
  | float (.finite x) => !x.isZero
  | float _ => true
  | string s => !(s == "" || s == "0" || equalsIgnoringAsciiCase s "false")
  | dateTime _ => false

/-- The text of a truth value. -/
def boolText (b : Bool) : String :=
  if b then "true" else "false"

/-- The text of a value. -/
def coerceString : Value → String
  | null => ""
  | bool b => boolText b
  | int n => int64Text n
  | float x => String.ofList x.plainText
  | string s => s
  | dateTime t => t.text

/-- The 32-bit integer of a value. A double is rounded, a half going away from zero, and a text is
read without the blanks at its ends. -/
def coerceInt32? : Value → Option Int32
  | null => none
  | bool b => some (if b then 1 else 0)
  | int n => fitInt32? n.toInt
  | float (.finite x) => fitInt32? x.round
  | float _ => none
  | string s => (int? (trim s.toList)).bind fitInt32?
  | dateTime _ => none

/-! ### JSON -/

/-- The value of a JSON value. An integer that does not fit 64 bits with sign becomes the nearest
double, and no item holds an array or an object. -/
def ofJson : Json → Value
  | .bool b => bool b
  | .integer n =>
    match fitInt64? n with
    | some n => int n
    | none => float (.ofInt n)
  | .real x => float (.finite x)
  | .string s => string s
  | .null => null
  | .array _ => null
  | .object _ => null

/-- The JSON value of a value. -/
def toJson : Value → Json
  | null => .null
  | bool b => .bool b
  | int n => .integer n.toInt
  | float x => .ofDouble x
  | string s => .string s
  | dateTime t => .string t.text

/-! ### Conversions -/

/-- Why a value could not be converted. -/
inductive ConversionError
  /-- The value is of another kind. -/
  | mismatch (expected actual : String)
  /-- The integer does not fit. -/
  | overflow
deriving DecidableEq

/-- The text of a failed conversion. -/
def ConversionError.message : ConversionError → String
  | mismatch expected actual => "Expected " ++ expected ++ ", got " ++ actual
  | overflow => "Integer overflow"

/-- The result of an accessor, or the error that names both kinds. -/
def expecting {α : Type} (expected : String) (value : Value) :
    Option α → Except ConversionError α
  | some a => .ok a
  | none => .error (.mismatch expected value.kindName)

/-- Conversion to a truth value. -/
def tryBool (value : Value) : Except ConversionError Bool :=
  value.expecting "bool" value.toBool?

/-- Conversion to a 64-bit integer. -/
def tryInt64 (value : Value) : Except ConversionError Int64 :=
  value.expecting "int" value.toInt64?

/-- Conversion to a 32-bit integer. -/
def tryInt32 (value : Value) : Except ConversionError Int32 := do
  let n ← value.tryInt64
  match fitInt32? n.toInt with
  | some n => .ok n
  | none => .error .overflow

/-- Conversion to a double. -/
def tryDouble (value : Value) : Except ConversionError Double :=
  value.expecting "float" value.toDouble?

/-- Conversion to a text. -/
def tryString (value : Value) : Except ConversionError String :=
  value.expecting "string" value.toString?

end Value

end DeviceModel
