import DeviceModel.Proofs.Item.Reloading

/-!
# An item and its own value

What is read from an item can be written to it again, if another item of the attribute could take
it. That is not always so: an integer that was written as a number may be too long for a value, an
item whose instants were restored holds zero even if its range does not, and the number of a point
in time need not be in a year that there is. Otherwise the item has the same value as before
(`own_value_run`). Texts and integers stay as they are, and so does the instant of their last
change. A truth value becomes zero or one, and a point in time is rounded down to the second.
-/

namespace DeviceModel.Item

variable {τ : Type} {item : Item τ}

theorem write_toValue (valued : item.hasValue) (now : τ) :
    item.write (.value item.toValue) now = item.load item now :=
  (load_eq valued now).symm

/-! ### Storing what is there -/

theorem put_text_self {s : String} (stored : item.buffer = some s) (now : τ) :
    item.put now (.text s) = { item with lastSet := some now } := by
  rw [put, if_pos stored, ← stored]

theorem put_number_self (item : Item τ) (now : τ) :
    item.put now (.number item.number) =
      { item with previous := item.number, lastSet := some now } := by
  rw [put, if_pos rfl]

theorem write_toValue_of_isTextual (formed : item.WellFormed) (valued : item.hasValue)
    (type : item.dataType.isTextual) (now : τ) :
    item.write (.value item.toValue) now = ⟨true, { item with lastSet := some now }⟩ := by
  have buffer := DataType.hasTextBuffer_of_isTextual type
  obtain ⟨s, stored⟩ := Option.isSome_iff_exists.mp (formed.trans buffer)
  rw [write_toValue valued, load_of_isTextual rfl valued formed type stored, put_text_self stored]

theorem write_toValue_of_isInteger (valued : item.hasValue) (type : item.dataType.isInteger)
    (fits : FitsInt32 item.number) (accepts : item.descriptor.accepts item.number) (now : τ) :
    item.write (.value item.toValue) now =
      ⟨true, { item with previous := item.number, lastSet := some now }⟩ := by
  rw [write_toValue valued, load_of_fits rfl valued type fits accepts, put_number_self]

/-! ### The own value -/

theorem lastSet_write_value {v : Value} (hv : v ≠ .null) {now : τ}
    (accepted : (item.write (.value v) now).accepted) :
    (item.write (.value v) now).item.lastSet = some now := by
  rcases item.write_cases (.value v) now with he | ⟨content, carried, _, he⟩
  · rw [he] at accepted
    contradiction
  · rw [he]
    cases content with
    | nothing =>
      have null := content?_eq_nothing_iff.mp carried
      exact absurd (Write.value.inj null) hv
    | text s => rfl
    | number n => rfl

theorem loadable_iff {item : Item τ} : item.Loadable ↔
    (item.dataType = .string ∨ item.dataType = .timePattern ∨ item.dataType = .bool) ∨
    (item.dataType.isInteger ∧ FitsInt32 item.number ∧ item.descriptor.accepts item.number) ∨
    (item.dataType = .time ∧ Moment.IsRepresentable item.number.toInt) := by
  have exist : (Moment.ofMillis? item.number.toInt).isSome ↔
      Moment.IsRepresentable item.number.toInt := by
    rw [← Moment.isSome_textOfMillis?_iff, Moment.textOfMillis?, Option.isSome_map]
  rw [Loadable, exist]
  cases item.dataType <;> simp [DataType.isInteger]

/-- **The own value of an item, written to it again**, at any instant and in every state in which it
has one. A text and a truth value are always accepted, an integer if it has 32 bits and is in range,
and a point in time if it is in a year that moments have. Then the item has the same value as
before, set at the instant of the write. A text item is otherwise as it was, and an integer item has
its number as the previous one too. What is not accepted changes nothing. -/
theorem own_value_run (descriptor : Descriptor) (ops : List (Op τ)) (now : τ)
    (valued : ((new descriptor : Item τ).run ops).hasValue) :
    let item : Item τ := (new descriptor).run ops
    let outcome := item.write (.value item.toValue) now
    let type := descriptor.dataType
    (outcome.accepted ↔
      (type = .string ∨ type = .timePattern ∨ type = .bool) ∨
      (type.isInteger ∧ FitsInt32 item.number ∧ descriptor.accepts item.number) ∨
      (type = .time ∧ Moment.IsRepresentable item.number.toInt)) ∧
    (outcome.accepted → outcome.item.toValue = item.toValue ∧ outcome.item.lastSet = some now ∧
      (type = .string ∨ type = .timePattern → outcome.item = { item with lastSet := some now }) ∧
      (type.isInteger →
        outcome.item = { item with previous := item.number, lastSet := some now })) ∧
    (outcome.accepted = false → outcome.item = item) := by
  intro item outcome type
  have formed : item.WellFormed := (wellFormed_new descriptor).run ops
  have same : item.descriptor = descriptor := (new descriptor).descriptor_run ops
  have sameType : item.dataType = type := congrArg Descriptor.dataType same
  have loaded : outcome = item.load item now := write_toValue valued now
  have accepted : outcome.accepted ↔ item.Loadable := by
    rw [loaded]
    exact accepted_load_iff rfl valued formed formed now
  refine ⟨?_, fun taken => ?_, item_write_of_not_accepted⟩
  · rw [accepted, loadable_iff, same, sameType]
  · have loadable := accepted.mp taken
    have set : outcome.item.lastSet = some now :=
      lastSet_write_value (toValue_ne_null valued) taken
    refine ⟨?_, set, fun textual => ?_, fun integer => ?_⟩
    · rw [loaded]
      exact (restores_load rfl valued formed formed loadable now).2.value
    · have kept : item.dataType.isTextual := DataType.isTextual_iff.mpr (sameType ▸ textual)
      exact congrArg Outcome.item (write_toValue_of_isTextual formed valued kept now)
    · have kept : item.dataType.isInteger := sameType ▸ integer
      obtain ⟨fits, accepts⟩ := loadable.1 kept
      exact congrArg Outcome.item (write_toValue_of_isInteger valued kept fits accepts now)

/-- The greatest number of 32 bits is taken back, and the next one is not. -/
theorem own_value_counter :
    let counter : Descriptor := ⟨"state/counter", .uint32, 0, 0⟩
    let item (n : Int64) : Item Nat := (new counter).run [.write (.number n) 1]
    let outcome (n : Int64) := (item n).write (.value (item n).toValue) 2
    (item 2147483647).hasValue ∧ (outcome 2147483647).accepted ∧
      (outcome 2147483647).item =
        { item 2147483647 with previous := 2147483647, lastSet := some 2 } ∧
      (item 2147483648).hasValue ∧ (outcome 2147483648).accepted = false ∧
      (outcome 2147483648).item = item 2147483648 := by
  intro counter item outcome
  have valued : (item 2147483647).hasValue := by decide
  have valued' : (item 2147483648).hasValue := by decide
  obtain ⟨accepted, kept, _⟩ := own_value_run counter [.write (.number 2147483647) 1] 2 valued
  obtain ⟨accepted', _, refused⟩ := own_value_run counter [.write (.number 2147483648) 1] 2 valued'
  have taken : (outcome 2147483647).accepted :=
    accepted.mpr (Or.inr (Or.inl ⟨rfl, by decide, by decide⟩))
  have long : (outcome 2147483648).accepted = false := by
    rw [← Bool.not_eq_true]
    intro taken'
    rcases accepted'.mp taken' with text | ⟨_, fits, _⟩ | ⟨time, _⟩
    · exact absurd text (by decide)
    · exact absurd fits (by decide)
    · exact absurd time (by decide)
  exact ⟨valued, taken, (kept taken).2.2.2 rfl, valued', long, refused long⟩

end DeviceModel.Item
