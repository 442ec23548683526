import DeviceModel.Proofs.Item.Range
import DeviceModel.Proofs.Item.Reading
import DeviceModel.Proofs.Moment.Text
import DeviceModel.Proofs.Value.Integers

/-!
# Values written back

The value of an item goes out as JSON, comes in as a value again and is written to another item of
the same attribute (`load`). Then the other item has the same value, if it takes it at all
(`restores_load`): a text is stored as it is, a truth value as zero or one, a point in time as the
second that it is in, and an integer as itself, because 32 bits fit a double.

The other item need not take the value. An integer may be too long or out of range, and the number
of a point in time may be one that no point in time has; such a point reads as the empty text. What
rules this out is `Loadable`, and nothing else has to be ruled out (`accepted_load_iff`).
-/

namespace DeviceModel.Item

variable {τ : Type}

/-- Whether another item takes the value of an item: an integer has 32 bits and is in range, and a
point in time exists. -/
def Loadable (item : Item τ) : Prop :=
  (item.dataType.isInteger → FitsInt32 item.number ∧ item.descriptor.accepts item.number) ∧
  (item.dataType = .time → (Moment.ofMillis? item.number.toInt).isSome)

instance (item : Item τ) : Decidable item.Loadable :=
  inferInstanceAs (Decidable (_ ∧ _))

/-- Writes the value of an item, in its JSON form, to another one. -/
def load (other item : Item τ) (now : τ) : Outcome τ :=
  other.write (.value (.ofJson item.toValue.toJson)) now

/-- What is left of the contents of an item when only its value is written to another one. -/
inductive Carried (item restored : Item τ) : Prop
  | text : item.dataType.isTextual → restored.buffer = item.buffer → Carried item restored
  | truth : item.dataType = .bool → restored.number = (if item.toBool then 1 else 0) →
      Carried item restored
  /-- The number is rounded down to the second. -/
  | time : item.dataType = .time → restored.number.toInt = item.number.toInt / 1000 * 1000 →
      Carried item restored
  | integer : item.dataType.isInteger → restored.number = item.number → Carried item restored

structure Restores (item restored : Item τ) : Prop where
  descriptor : restored.descriptor = item.descriptor
  hasValue : restored.hasValue
  value : restored.toValue = item.toValue
  carried : Carried item restored

variable {item other : Item τ}

theorem Typed.ofJson {type : DataType} {v : Value} {json : Json} (h : Typed type v json) :
    Value.ofJson json = v := by
  cases h <;> rfl

theorem load_eq (valued : item.hasValue) (now : τ) :
    other.load item now = other.writeValue item.toValue now := by
  rw [load, (typed_toValue valued).ofJson, write]

theorem toValue_ne_null (valued : item.hasValue) : item.toValue ≠ .null :=
  (typed_toValue valued).ne_null.1

/-! ### Texts and numbers -/

theorem toText_of_isTextual {s : String} (stored : item.buffer = some s)
    (type : item.dataType.isTextual) : item.toText = s := by
  rw [toText, stored]
  rcases DataType.isTextual_iff.mp type with ht | ht <;> rw [ht]

theorem toValue_of_isTextual (valued : item.hasValue) (type : item.dataType.isTextual) {s : String}
    (stored : item.buffer = some s) : item.toValue = .string s := by
  rw [toValue_of_hasTextBuffer valued (DataType.hasTextBuffer_of_isTextual type),
    toText_of_isTextual stored type]

theorem toValue_of_time (formed : item.WellFormed) (valued : item.hasValue)
    (type : item.dataType = .time) : item.toValue =
      .string ((Moment.textOfMillis? item.number.toInt).getD "") := by
  rw [toValue_of_hasTextBuffer valued (type ▸ rfl), toText_eq_of_time formed type]

theorem fitInt32?_toInt {n : Int64} (fits : FitsInt32 n) :
    ∃ m, fitInt32? n.toInt = some m ∧ m.toInt64 = n := by
  have fit : fitInt32? n.toInt = some (Int32.ofInt n.toInt) := if_pos fits
  exact ⟨_, fit, fitInt32?_toInt_eq_some_iff.mp fit⟩

/-! ### The value of each type -/

section

variable (same : other.descriptor = item.descriptor) (valued : item.hasValue)
include same valued

theorem load_of_isTextual (formed' : other.WellFormed) (type : item.dataType.isTextual) {s : String}
    (stored : item.buffer = some s) (now : τ) :
    other.load item now = ⟨true, other.put now (.text s)⟩ := by
  have type' : other.dataType.isTextual := by rwa [dataType, same]
  have buffer' := DataType.hasTextBuffer_of_isTextual type'
  obtain ⟨old, stored'⟩ := Option.isSome_iff_exists.mp (formed'.trans buffer')
  rw [load_eq valued, writeValue_of_isTextual type' (toValue_ne_null valued),
    toValue_of_isTextual valued type stored]
  exact storeText_of_some stored' s now

theorem load_of_bool (type : item.dataType = .bool) (now : τ) :
    other.load item now = ⟨true, other.put now (.number (if item.toBool then 1 else 0))⟩ := by
  have type' : other.dataType = .bool := by rwa [dataType, same]
  rw [load_eq valued, writeValue_of_bool type' (toValue_ne_null valued),
    toValue_of_bool valued type]
  exact storeNumber_eq_put _ _ _

theorem load_of_time (formed : item.WellFormed) (type : item.dataType = .time) {s : String}
    (text : Moment.textOfMillis? item.number.toInt = some s) (now : τ) :
    ∃ moment, moment.millis = item.number.toInt / 1000 * 1000 ∧
      Moment.textOfMillis? moment.millis = some s ∧
      other.load item now = ⟨true, other.put now (.number (momentNumber moment))⟩ := by
  have type' : other.dataType = .time := by rwa [dataType, same]
  obtain ⟨moment, read, millis, again⟩ := Moment.ofText?_textOfMillis? text
  refine ⟨moment, millis, again, ?_⟩
  rw [load_eq valued, toValue_of_time formed valued type, text, Option.getD_some]
  exact write_text_of_some type' read now

/-- The empty text is none of a point in time. -/
theorem load_of_not_representable (formed : item.WellFormed) (type : item.dataType = .time)
    (outside : Moment.textOfMillis? item.number.toInt = none) (now : τ) :
    other.load item now = ⟨false, other⟩ := by
  have type' : other.dataType = .time := by rwa [dataType, same]
  rw [load_eq valued, toValue_of_time formed valued type, outside, Option.getD_none]
  exact write_text_of_none type' rfl now

theorem load_of_isInteger (type : item.dataType.isInteger) (now : τ) :
    other.load item now =
      match fitInt32? item.number.toInt with
      | some n => other.writeNumber n.toInt64 now
      | none => ⟨false, other⟩ := by
  have type' : other.dataType.isInteger := by rwa [dataType, same]
  have coerced : item.toValue.coerceInt32? = fitInt32? item.number.toInt := by
    rw [toValue_of_isInteger valued type, Value.coerceInt32?_ofInt (natAbs_toInt_lt item.number)]
  rw [load_eq valued, ← coerced]
  exact writeValue_of_isInteger type' (toValue_ne_null valued) now

theorem load_of_fits (type : item.dataType.isInteger) (fits : FitsInt32 item.number)
    (accepts : item.descriptor.accepts item.number) (now : τ) :
    other.load item now = ⟨true, other.put now (.number item.number)⟩ := by
  obtain ⟨n, fit, back⟩ := fitInt32?_toInt fits
  rw [load_of_isInteger same valued type, fit]
  simp only [back, writeNumber, same, accepts, if_true, storeNumber_eq_put]

/-! ### The value afterwards -/

theorem restores_load_of_isTextual (formed : item.WellFormed) (formed' : other.WellFormed)
    (type : item.dataType.isTextual) (now : τ) :
    (other.load item now).accepted ∧ Restores item (other.load item now).item := by
  have type' : other.dataType.isTextual := by rwa [dataType, same]
  have buffer := DataType.hasTextBuffer_of_isTextual type
  obtain ⟨s, stored⟩ := Option.isSome_iff_exists.mp (formed.trans buffer)
  have value := toValue_of_isTextual valued type stored
  have kept : (other.put now (.text s)).dataType.isTextual := type'
  have there : (other.put now (.text s)).toValue = .string s := toValue_of_isTextual rfl kept rfl
  rw [load_of_isTextual same valued formed' type stored]
  exact ⟨rfl, same, rfl, there.trans value.symm, .text type stored.symm⟩

theorem restores_load_of_bool (type : item.dataType = .bool) (now : τ) :
    (other.load item now).accepted ∧ Restores item (other.load item now).item := by
  have type' : other.dataType = .bool := by rwa [dataType, same]
  have value := toValue_of_bool valued type
  have there : (other.put now (.number (if item.toBool then 1 else 0))).toValue =
      .bool item.toBool := by
    have set : (other.put now (.number (if item.toBool then 1 else 0))).hasValue := rfl
    rw [toValue_of_bool set type']
    cases item.toBool <;> rfl
  rw [load_of_bool same valued type]
  exact ⟨rfl, same, rfl, there.trans value.symm, .truth type rfl⟩

theorem restores_load_of_time (formed : item.WellFormed) (formed' : other.WellFormed)
    (type : item.dataType = .time) (exist : (Moment.ofMillis? item.number.toInt).isSome) (now : τ) :
    (other.load item now).accepted ∧ Restores item (other.load item now).item := by
  have type' : other.dataType = .time := by rwa [dataType, same]
  obtain ⟨start, he⟩ := Option.isSome_iff_exists.mp exist
  have text : Moment.textOfMillis? item.number.toInt = some start.text := by
    rw [Moment.textOfMillis?, he, Option.map_some]
  have value : item.toValue = .string start.text := by
    rw [toValue_of_time formed valued type, text, Option.getD_some]
  obtain ⟨moment, millis, again, loaded⟩ := load_of_time same valued formed type text now
  obtain ⟨number, shown, there⟩ := reads_put_momentNumber formed' type' moment now
  rw [again, Option.getD_some] at shown
  rw [shown] at there
  rw [loaded]
  exact ⟨rfl, same, rfl, there.trans value.symm, .time type (number.trans millis)⟩

theorem restores_load_of_isInteger (type : item.dataType.isInteger) (fits : FitsInt32 item.number)
    (accepts : item.descriptor.accepts item.number) (now : τ) :
    (other.load item now).accepted ∧ Restores item (other.load item now).item := by
  have type' : other.dataType.isInteger := by rwa [dataType, same]
  have there : (other.put now (.number item.number)).toValue = item.toValue := by
    have set : (other.put now (.number item.number)).hasValue := rfl
    rw [toValue_of_isInteger set type', toValue_of_isInteger valued type]
    rfl
  rw [load_of_fits same valued type fits accepts]
  exact ⟨rfl, same, rfl, there, .integer type rfl⟩

/-- **An item takes the value of another one of the same attribute and has the same value then.** -/
theorem restores_load (formed : item.WellFormed) (formed' : other.WellFormed)
    (loadable : item.Loadable) (now : τ) :
    (other.load item now).accepted ∧ Restores item (other.load item now).item := by
  rcases item.dataType.kinds with type | type | type | type
  · exact restores_load_of_isTextual same valued formed formed' type now
  · exact restores_load_of_bool same valued type now
  · exact restores_load_of_time same valued formed formed' type (loadable.2 type) now
  · obtain ⟨fits, accepts⟩ := loadable.1 type
    exact restores_load_of_isInteger same valued type fits accepts now

/-- An item takes the value of another one of the same attribute just if this is a value that it
takes at all. -/
theorem accepted_load_iff (formed : item.WellFormed) (formed' : other.WellFormed) (now : τ) :
    (other.load item now).accepted ↔ item.Loadable := by
  refine ⟨fun accepted => ⟨fun type => ?_, fun type => ?_⟩,
    fun loadable => (restores_load same valued formed formed' loadable now).1⟩
  · rw [load_of_isInteger same valued type] at accepted
    cases fit : fitInt32? item.number.toInt with
    | none =>
      rw [fit] at accepted
      contradiction
    | some n =>
      rw [fit] at accepted
      have back : n.toInt64 = item.number := fitInt32?_toInt_eq_some_iff.mp fit
      rw [← back]
      refine ⟨fitsInt32_toInt64 n, ?_⟩
      rw [← same]
      exact (accepted_writeNumber_iff other n.toInt64 now).mp accepted
  · by_contra missing
    have outside : Moment.textOfMillis? item.number.toInt = none := by
      rw [Moment.textOfMillis?, Option.not_isSome_iff_eq_none.mp missing, Option.map_none]
    rw [load_of_not_representable same valued formed type outside] at accepted
    contradiction

end

/-- A new item of the same attribute, with the value of an item written to it. -/
def reload (item : Item τ) (now : τ) : Outcome τ :=
  (new item.descriptor).load item now

theorem restores_reload (formed : item.WellFormed) (valued : item.hasValue)
    (loadable : item.Loadable) (now : τ) :
    (item.reload now).accepted ∧ Restores item (item.reload now).item := by
  have same : (new item.descriptor : Item τ).descriptor = item.descriptor := rfl
  exact restores_load same valued formed (wellFormed_new item.descriptor) loadable now

end DeviceModel.Item
