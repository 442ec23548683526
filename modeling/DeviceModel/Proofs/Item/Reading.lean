import DeviceModel.Proofs.Double.Integers
import DeviceModel.Proofs.Item.Instants

/-!
# What is read from an item

The value of an item is of the kind that its type asks for, and so is the JSON form of the value
(`Typed`): a text, a truth value or a finite number, and never null while the item holds a value
(`typed_toValue`). The integers of an item are 64 bits long and may be too long for a double, but
not too large for a finite one.

Without a buffer there is no text to read (`toText_of_hasTextBuffer_eq_false`). A point in time is
read as the text of its milliseconds, and writing a text stores the milliseconds of the moment that
it means (`write_text_of_some`, `reads_put_momentNumber`). What an accepted write leaves behind
decides whether there is a value after it (`hasValue_write`).
-/

namespace DeviceModel

theorem natAbs_toInt_lt (n : Int64) : n.toInt.natAbs < 2 ^ 64 := by
  have low := n.le_toInt
  have high := n.toInt_lt
  omega

theorem Value.string_ne_null (s : String) : Value.string s ≠ .null := by
  intro null
  cases null

namespace Item

variable {τ : Type}

/-- A value of the kind that a type asks for, with its JSON form. -/
inductive Typed : DataType → Value → Json → Prop
  | text {type : DataType} {s : String} : type.hasTextBuffer → Typed type (.string s) (.string s)
  | truth {b : Bool} : Typed .bool (.bool b) (.bool b)
  | number {type : DataType} {x : FiniteDouble} : type.isInteger →
      Typed type (.float (.finite x)) (.real x)

/-! ### The value of each type -/

theorem toValue_of_hasTextBuffer {item : Item τ} (valued : item.hasValue)
    (type : item.dataType.hasTextBuffer) : item.toValue = .string item.toText := by
  rw [toValue, if_pos valued]
  rcases DataType.hasTextBuffer_iff.mp type with ht | ht | ht <;> rw [ht]

theorem toValue_of_bool {item : Item τ} (valued : item.hasValue) (type : item.dataType = .bool) :
    item.toValue = .bool item.toBool := by
  rw [toValue, if_pos valued, type]

theorem toValue_of_isInteger {item : Item τ} (valued : item.hasValue)
    (type : item.dataType.isInteger) : item.toValue = .float (.ofInt item.number.toInt) := by
  rw [toValue, if_pos valued]
  cases ht : item.dataType <;> rw [ht] at type <;> contradiction

theorem toValue_of_not_hasValue {item : Item τ} (unset : item.hasValue = false) :
    item.toValue = .null := by
  rw [toValue, unset]
  rfl

theorem typed_toValue {item : Item τ} (valued : item.hasValue) :
    Typed item.dataType item.toValue item.toValue.toJson := by
  rcases item.dataType.kinds with ht | ht | ht | ht
  · have buffer := DataType.hasTextBuffer_of_isTextual ht
    rw [toValue_of_hasTextBuffer valued buffer]
    exact .text buffer
  · rw [toValue_of_bool valued ht, ht]
    exact .truth
  · rw [toValue_of_hasTextBuffer valued (by rw [ht]; rfl), ht]
    exact .text rfl
  · obtain ⟨x, hx⟩ := Double.ofInt_finite (natAbs_toInt_lt item.number)
    rw [toValue_of_isInteger valued ht, hx]
    exact .number ht

theorem Typed.ne_null {type : DataType} {v : Value} {json : Json} (h : Typed type v json) :
    v ≠ .null ∧ json ≠ .null := by
  cases h <;> exact ⟨nofun, nofun⟩

theorem Typed.isInteger_of_real {type : DataType} {v : Value} {x : FiniteDouble}
    (h : Typed type v (.real x)) : type.isInteger := by
  cases h with
  | number integer => exact integer

theorem toValue_eq_null_iff {item : Item τ} : item.toValue = .null ↔ item.hasValue = false := by
  constructor
  · intro null
    by_contra valued
    rw [Bool.not_eq_false] at valued
    exact (typed_toValue valued).ne_null.1 null
  · exact toValue_of_not_hasValue

/-! ### Texts and buffers -/

theorem toText_of_hasTextBuffer_eq_false {item : Item τ} (formed : item.WellFormed)
    (type : item.dataType.hasTextBuffer = false) : item.toText = "" := by
  have none : item.buffer = none := by
    rw [WellFormed, type] at formed
    simpa using formed
  rw [toText, none]
  rfl

/-! ### Points in time -/

/-- The number of an item has room for every point in time. -/
theorem toInt_momentNumber (moment : Moment) : (momentNumber moment).toInt = moment.millis := by
  have seconds := moment.seconds_range
  have nanos := moment.nanos_range
  apply Int64.toInt_ofInt_of_le <;> rw [Moment.millis] <;> omega

theorem toText_eq_of_time {item : Item τ} (formed : item.WellFormed) (type : item.dataType = .time) :
    item.toText = (Moment.textOfMillis? item.number.toInt).getD "" := by
  have buffer : item.dataType.hasTextBuffer := by
    rw [type]
    rfl
  obtain ⟨raw, stored⟩ := Option.isSome_iff_exists.mp (formed.trans buffer)
  rw [toText, stored, type]
  rfl

theorem toText_of_time {item : Item τ} {s : String} (formed : item.WellFormed)
    (type : item.dataType = .time) (text : Moment.textOfMillis? item.number.toInt = some s) :
    item.toText = s := by
  rw [toText_eq_of_time formed type, text, Option.getD_some]

theorem write_text_of_some {item : Item τ} (type : item.dataType = .time) {s : String}
    {moment : Moment} (read : Moment.ofText? s = some moment) (now : τ) :
    item.write (.value (.string s)) now = ⟨true, item.put now (.number (momentNumber moment))⟩ := by
  rw [write, writeValue_of_time type (Value.string_ne_null s), momentOf?, read]
  exact storeNumber_eq_put item (momentNumber moment) now

theorem write_text_of_none {item : Item τ} (type : item.dataType = .time) {s : String}
    (unread : Moment.ofText? s = none) (now : τ) :
    item.write (.value (.string s)) now = ⟨false, item⟩ := by
  rw [write, writeValue_of_time type (Value.string_ne_null s), momentOf?, unread]

/-- What is read from an item after a moment was stored in it. -/
theorem reads_put_momentNumber {item : Item τ} (formed : item.WellFormed)
    (type : item.dataType = .time) (moment : Moment) (now : τ) :
    let stored := item.put now (.number (momentNumber moment))
    stored.number.toInt = moment.millis ∧
      stored.toText = (Moment.textOfMillis? moment.millis).getD "" ∧
      stored.toValue = .string stored.toText := by
  intro stored
  have number : stored.number.toInt = moment.millis := toInt_momentNumber moment
  have stillFormed : stored.WellFormed := formed
  have valued : stored.hasValue := rfl
  have buffer : stored.dataType.hasTextBuffer := type ▸ rfl
  refine ⟨number, ?_, toValue_of_hasTextBuffer valued buffer⟩
  rw [toText_eq_of_time stillFormed type, number]

/-! ### Values after a write -/

theorem hasValue_put (item : Item τ) (now : τ) (content : Content) :
    (item.put now content).hasValue = (content != .nothing) := by
  cases content <;> rfl

theorem hasValue_write {item : Item τ} {w : Write} {now : τ}
    (accepted : (item.write w now).accepted) :
    (item.write w now).item.hasValue = (w != .value .null) := by
  rcases item.write_cases w now with he | ⟨content, carried, _, he⟩
  · rw [he] at accepted
    contradiction
  · rw [he, hasValue_put, Bool.eq_iff_iff, bne_iff_ne, bne_iff_ne, not_iff_not,
      ← @content?_eq_nothing_iff item.dataType, carried, Option.some.injEq]

end Item

end DeviceModel
