import DeviceModel.Descriptor
import DeviceModel.Names
import DeviceModel.Value.Basic

/-!
# Items

An item is one attribute of a resource: its current and previous number, its text if the type has a
buffer for one, the instants of the last write and of the last change, and whether it is shown.
`Item.write` says whether a write is accepted and what the item is after it; a rejected write leaves
the item as it was.

An item only keeps the instants it is given and never looks at them, so it is generic in their
type.
-/

namespace DeviceModel

/-- One attribute of a resource. -/
structure Item (τ : Type) where
  descriptor : Descriptor
  number : Int64 := 0
  previous : Int64 := 0
  buffer : Option String := if descriptor.dataType.hasTextBuffer then some "" else none
  lastSet : Option τ := none
  lastChanged : Option τ := none
  isPublic : Bool := true
  rules : List Int32 := []
deriving DecidableEq

namespace Item

variable {τ : Type}

/-- The item of an attribute that was never written. -/
def new (descriptor : Descriptor) : Item τ where
  descriptor := descriptor

/-- The suffix of the attribute. -/
def suffix (item : Item τ) : String :=
  item.descriptor.suffix

/-- The type of the attribute. -/
def dataType (item : Item τ) : DataType :=
  item.descriptor.dataType

/-! ### Reading -/

/-- Whether the number is other than zero. -/
def toBool (item : Item τ) : Bool :=
  item.number != 0

/-- The text of the item: a point in time is written out, and a type without a buffer has no
text. -/
def toText (item : Item τ) : String :=
  match item.buffer with
  | none => invalidText
  | some text =>
    match item.dataType with
    | .time => (Moment.textOfMillis? item.number.toInt).getD invalidText
    | _ => text

/-- Whether the item holds a value. -/
def hasValue (item : Item τ) : Bool :=
  item.lastSet.isSome

/-- The value of the item. Every integer type gives a double. -/
def toValue (item : Item τ) : Value :=
  if item.hasValue then
    match item.dataType with
    | .string | .timePattern | .time => .string item.toText
    | .bool => .bool item.toBool
    | _ => .float (.ofInt item.number.toInt)
  else .null

/-! ### Writing -/

/-- What can be written to an item. -/
inductive Write
  /-- A text into the buffer. -/
  | text (s : String)
  /-- A number within the range. -/
  | number (n : Int64)
  /-- A value of any kind, coerced to the type of the item. -/
  | value (v : Value)
deriving DecidableEq

/-- What a write leads to: whether it is accepted, and the item after it. -/
structure Outcome (τ : Type) where
  accepted : Bool
  item : Item τ
deriving DecidableEq

/-- The milliseconds of a moment as the number of an item; every moment fits. -/
def momentNumber (moment : Moment) : Int64 :=
  Int64.ofInt moment.millis

/-- Stores a text, if there is a buffer for it. The instant of the last change moves only if the
text differs from the one that was there. -/
def storeText (item : Item τ) (s : String) (now : τ) : Outcome τ :=
  match item.buffer with
  | none => ⟨false, item⟩
  | some text =>
    let item := { item with lastSet := some now }
    if text = s then ⟨true, item⟩
    else ⟨true, { item with buffer := some s, lastChanged := some now }⟩

/-- Stores a number. The previous number is the one that was there, also if it is the same; the
instant of the last change moves only if it is not. -/
def storeNumber (item : Item τ) (n : Int64) (now : τ) : Outcome τ :=
  let item := { item with lastSet := some now, previous := item.number }
  if item.number = n then ⟨true, item⟩
  else ⟨true, { item with number := n, lastChanged := some now }⟩

/-- Takes the value away. What is stored stays. -/
def clear (item : Item τ) : Item τ :=
  { item with lastSet := none, lastChanged := none }

/-- Writes a number, if it is in range. -/
def writeNumber (item : Item τ) (n : Int64) (now : τ) : Outcome τ :=
  if item.descriptor.accepts n then item.storeNumber n now else ⟨false, item⟩

/-- Writes a value, coerced to the type of the item; null clears it. Truth values and points in
time are not checked against the range. -/
def writeValue (item : Item τ) (v : Value) (now : τ) : Outcome τ :=
  if v.isNull then ⟨true, item.clear⟩
  else
    match item.dataType with
    | .string | .timePattern => item.storeText v.coerceString now
    | .bool => item.storeNumber (if v.coerceBool then 1 else 0) now
    | .time =>
      match v with
      | .string s =>
        match Moment.ofText? s with
        | some moment => item.storeNumber (momentNumber moment) now
        | none => ⟨false, item⟩
      | .dateTime moment => item.storeNumber (momentNumber moment) now
      | _ => ⟨false, item⟩
    | _ =>
      match v.coerceInt32? with
      | some n => item.writeNumber n.toInt64 now
      | none => ⟨false, item⟩

/-- Writes at the instant `now`. -/
def write (item : Item τ) (w : Write) (now : τ) : Outcome τ :=
  match w with
  | .text s => item.storeText s now
  | .number n => item.writeNumber n now
  | .value v => item.writeValue v now

/-! ### Other operations -/

/-- Sets both instants, as when a saved state is restored. -/
def restore (item : Item τ) (instant : τ) : Item τ :=
  { item with lastSet := some instant, lastChanged := some instant }

/-- Shows or hides the item. -/
def setPublic (item : Item τ) (isPublic : Bool) : Item τ :=
  { item with isPublic := isPublic }

/-- Records that a rule refers to the item, unless it is recorded already. -/
def addRule (item : Item τ) (rule : Int32) : Item τ :=
  if rule ∈ item.rules then item else { item with rules := item.rules ++ [rule] }

/-- Recording a rule touches nothing but the rules. -/
theorem addRule_eq (item : Item τ) (rule : Int32) :
    item.addRule rule =
      { item with rules := if rule ∈ item.rules then item.rules else item.rules ++ [rule] } := by
  rw [addRule]
  split <;> rfl

end Item

end DeviceModel
