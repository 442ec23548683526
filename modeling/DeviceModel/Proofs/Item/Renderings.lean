import DeviceModel.Proofs.Item.Reloading
import DeviceModel.Proofs.Item.TimeText

/-!
# Renderings of a moment

A moment becomes a text in several ways: as a value that is coerced to a text, as a value in JSON,
in an item of a textual type, which stores the coerced text, and in an item of a point in time,
which stores milliseconds and makes the text of them. Outside of leap seconds all of them agree
(`renderings_run`), also before 1970, since the milliseconds are rounded down (`millis_eq_floor`).
-/

namespace DeviceModel

/-- The nanoseconds of a moment in whole milliseconds, rounded down. -/
theorem Moment.millis_eq_floor (moment : Moment) :
    moment.millis = (moment.seconds * 1000000000 + moment.nanos) / 1000000 := by
  rw [Moment.millis]
  omega

namespace Item

variable {τ : Type} {item : Item τ}

theorem dateTime_ne_null (moment : Moment) : Value.dateTime moment ≠ .null := by
  intro null
  cases null

theorem write_dateTime_of_time (type : item.dataType = .time) (moment : Moment) (now : τ) :
    item.write (.value (.dateTime moment)) now =
      ⟨true, item.put now (.number (momentNumber moment))⟩ := by
  rw [write, writeValue_of_time type (dateTime_ne_null moment)]
  exact storeNumber_eq_put item (momentNumber moment) now

/-- What is read from an item of a point in time after a moment was written to it. -/
theorem reads_dateTime_of_time (formed : item.WellFormed) (type : item.dataType = .time)
    {moment : Moment} (ordinary : moment.nanos < 1000000000) (now : τ) :
    let outcome := item.write (.value (.dateTime moment)) now
    outcome.accepted ∧ outcome.item.toText = moment.text ∧
      outcome.item.number.toInt = (moment.seconds * 1000000000 + moment.nanos) / 1000000 := by
  intro outcome
  have written : outcome = ⟨true, item.put now (.number (momentNumber moment))⟩ :=
    write_dateTime_of_time type moment now
  obtain ⟨number, shown, _⟩ := reads_put_momentNumber formed type moment now
  rw [Moment.textOfMillis?_millis ordinary, Option.getD_some] at shown
  rw [written]
  exact ⟨rfl, shown, number.trans moment.millis_eq_floor⟩

/-- The text of a moment, written to an item of a point in time, stays as it is, and the item is at
the beginning of the second. -/
theorem reads_text_of_time (formed : item.WellFormed) (type : item.dataType = .time)
    {moment : Moment} (ordinary : moment.nanos < 1000000000) (now : τ) :
    let outcome := item.write (.value (.string moment.text)) now
    outcome.accepted ∧ outcome.item.toText = moment.text ∧
      outcome.item.number.toInt = moment.seconds * 1000 := by
  intro outcome
  have written : outcome = ⟨true, item.put now (.number (momentNumber moment.wholeSeconds))⟩ :=
    write_text_of_some type (Moment.ofText?_text (.inl ordinary)) now
  have whole : moment.wholeSeconds.nanos = 0 := by
    show moment.nanos / 1000000000 * 1000000000 = 0
    omega
  obtain ⟨number, shown, _⟩ := reads_put_momentNumber formed type moment.wholeSeconds now
  rw [Moment.textOfMillis?_millis (by omega), Option.getD_some, Moment.text_wholeSeconds] at shown
  rw [written]
  refine ⟨rfl, shown, ?_⟩
  rw [number, Moment.millis, whole]
  exact Int.add_zero _

/-- What is read from a textual item after a moment was written to it. -/
theorem reads_dateTime_of_isTextual (formed : item.WellFormed) (type : item.dataType.isTextual)
    (moment : Moment) (now : τ) :
    let outcome := item.write (.value (.dateTime moment)) now
    outcome.accepted ∧ outcome.item.buffer = some moment.text ∧
      outcome.item.toText = moment.text := by
  intro outcome
  have buffer : item.buffer.isSome := formed.trans (DataType.hasTextBuffer_of_isTextual type)
  obtain ⟨stored, he⟩ := Option.isSome_iff_exists.mp buffer
  have written : outcome = ⟨true, item.put now (.text moment.text)⟩ :=
    (writeValue_of_isTextual type (dateTime_ne_null moment) now).trans
      (storeText_of_some he moment.text now)
  rw [written]
  exact ⟨rfl, rfl, toText_of_isTextual rfl type⟩

/-- **All renderings of a moment agree** outside of leap seconds, whatever is in the items before.
An item of a point in time has the milliseconds of the moment, rounded down, and shows the text that
the moment is coerced to; a textual item stores this text, and in JSON the moment is this text too.
An item of a point in time that is given the text shows it as well, for it is then at the beginning
of the second of the moment. -/
theorem renderings_run {moment : Moment} (ordinary : moment.nanos < 1000000000)
    (ops : List (Op τ)) (now : τ) :
    let text := (Value.dateTime moment).coerceString
    (∀ descriptor : Descriptor, descriptor.dataType = .time →
      let item : Item τ := (new descriptor).run ops
      let dated := item.write (.value (.dateTime moment)) now
      let worded := item.write (.value (.string text)) now
      (dated.accepted ∧ dated.item.toText = text ∧ dated.item.number.toInt =
        (moment.seconds * 1000000000 + moment.nanos) / 1000000) ∧
      worded.accepted ∧ worded.item.toText = text ∧
        worded.item.number.toInt = moment.seconds * 1000) ∧
    (∀ descriptor : Descriptor,
      descriptor.dataType = .string ∨ descriptor.dataType = .timePattern →
      let item : Item τ := (new descriptor).run ops
      let stored := item.write (.value (.dateTime moment)) now
      stored.accepted ∧ stored.item.buffer = some text ∧ stored.item.toText = text) ∧
    (Value.dateTime moment).toJson = .string text := by
  intro text
  refine ⟨?_, ?_, rfl⟩
  · intro descriptor time item dated worded
    have formed : item.WellFormed := (wellFormed_new descriptor).run ops
    have type : item.dataType = .time := ((new descriptor).dataType_run ops).trans time
    exact ⟨reads_dateTime_of_time formed type ordinary now,
      reads_text_of_time formed type ordinary now⟩
  · intro descriptor textual item stored
    have formed : item.WellFormed := (wellFormed_new descriptor).run ops
    have type : item.dataType.isTextual :=
      DataType.isTextual_iff.mpr ((new descriptor).dataType_run ops ▸ textual)
    exact reads_dateTime_of_isTextual formed type moment now

/-- A moment in the last second but one of a day before 1970, less than a nanosecond from the
next. -/
def lateMoment : Moment := ⟨-86402, 999999999, by decide, by decide⟩

/-- The milliseconds are rounded down, so the second stays. -/
theorem lateMoment_renderings :
    let item : Item Nat := (new lastUpdated).run [.write (.number 1704067200999) 1]
    let dated := item.write (.value (.dateTime lateMoment)) 2
    lateMoment.nanos < 1000000000 ∧ dated.item.number.toInt = -86401001 ∧
      dated.item.toText = "1969-12-30T23:59:58" ∧
      (Value.dateTime lateMoment).toJson = .string "1969-12-30T23:59:58" := by
  intro item dated
  have ordinary : lateMoment.nanos < 1000000000 := by decide
  have text : (Value.dateTime lateMoment).coerceString = "1969-12-30T23:59:58" := by
    decide +kernel
  obtain ⟨times, _, json⟩ := renderings_run ordinary [.write (.number 1704067200999) 1] 2
  obtain ⟨⟨_, shown, number⟩, _⟩ := times lastUpdated rfl
  refine ⟨ordinary, number.trans (by decide), ?_, ?_⟩
  · rw [← text]
    exact shown
  · rw [← text]
    exact json

end Item

end DeviceModel
