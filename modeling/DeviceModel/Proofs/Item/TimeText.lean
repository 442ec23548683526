import DeviceModel.Proofs.Item.Reading
import DeviceModel.Proofs.Moment.Shape

/-!
# Texts of points in time

An item of a point in time keeps milliseconds and shows a text to the second. Writing a text to it
stores the milliseconds of the moment that the text means (`write_text_of_some`).

Written back to the item, its own text is rounded down to the second (`rewritten_run`): the text
stays, and the number does if it was a whole second. A text of the shape `yyyy-MM-ddTHH:mm:ss` is
accepted if its clock exists, and then stays, with one exception (`shaped_text_run`): second 60 is
accepted, but milliseconds do not know it, and what is read afterwards is the next minute
(`leap_second_not_shown`). Other texts are accepted as well, and which ones is what they show
(`readable_text_run`): fields need not be padded (`unpadded_text_accepted`).
-/

namespace DeviceModel.Item

variable {τ : Type}

/-! ### The own text of an item -/

theorem toText_of_not_representable {item : Item τ} (formed : item.WellFormed)
    (type : item.dataType = .time) (outside : ¬ Moment.IsRepresentable item.number.toInt) :
    item.toText = "" := by
  have none : Moment.textOfMillis? item.number.toInt = none := by
    rwa [← Option.not_isSome_iff_eq_none, Moment.isSome_textOfMillis?_iff]
  rw [toText_eq_of_time formed type, none, Option.getD_none]

/-- Writing its own text to an item rounds its number down to the second. -/
theorem write_toText {item : Item τ} (formed : item.WellFormed) (type : item.dataType = .time)
    (inside : Moment.IsRepresentable item.number.toInt) (now : τ) :
    let outcome := item.write (.value (.string item.toText)) now
    outcome.accepted ∧ outcome.item.toText = item.toText ∧
      outcome.item.number.toInt = item.number.toInt - item.number.toInt % 1000 := by
  obtain ⟨s, text⟩ := Option.isSome_iff_exists.mp (Moment.isSome_textOfMillis?_iff.mpr inside)
  obtain ⟨moment, read, millis, same⟩ := Moment.ofText?_textOfMillis? text
  obtain ⟨number, shown, _⟩ := reads_put_momentNumber formed type moment now
  have shows : item.toText = s := toText_of_time formed type text
  rw [shows, write_text_of_some type read]
  refine ⟨rfl, ?_, ?_⟩
  · rw [shown, same, Option.getD_some]
  · rw [number, millis]
    omega

/-- **Writing a time and reading it is rounding down to the second.**  A number of milliseconds has
a text exactly if it is in a year that moments have, and its text means the second that it is in.
So the own text of an item can be written to it in every state: it stays the same, and the number
stays exactly if it is a whole second. -/
theorem rewritten_run :
    (∀ millis : Int64,
      (Moment.textOfMillis? millis.toInt = none ↔ ¬ Moment.IsRepresentable millis.toInt) ∧
      ∀ s, Moment.textOfMillis? millis.toInt = some s → ∃ moment, Moment.ofText? s = some moment ∧
        moment.millis = millis.toInt - millis.toInt % 1000) ∧
    ∀ descriptor : Descriptor, descriptor.dataType = .time → ∀ (ops : List (Op τ)) (now : τ),
      let item : Item τ := (new descriptor).run ops
      let outcome := item.write (.value (.string item.toText)) now
      (Moment.IsRepresentable item.number.toInt → outcome.accepted ∧
        outcome.item.toText = item.toText ∧
        (outcome.item.number = item.number ↔ item.number.toInt % 1000 = 0)) ∧
      (¬ Moment.IsRepresentable item.number.toInt → item.toText = "") := by
  constructor
  · intro millis
    constructor
    · rw [← Option.not_isSome_iff_eq_none, Moment.isSome_textOfMillis?_iff]
    · intro s text
      obtain ⟨moment, read, rounded, _⟩ := Moment.ofText?_textOfMillis? text
      exact ⟨moment, read, by omega⟩
  · intro descriptor time ops now item outcome
    have formed : item.WellFormed := (wellFormed_new descriptor).run ops
    have type : item.dataType = .time := ((new descriptor).dataType_run ops).trans time
    constructor
    · intro inside
      obtain ⟨accepted, text, number⟩ := write_toText formed type inside now
      refine ⟨accepted, text, ?_⟩
      rw [← Int64.toInt_inj, number]
      omega
    · exact toText_of_not_representable formed type

/-! ### Texts that are accepted -/

theorem accepted_text_iff {item : Item τ} (type : item.dataType = .time) (s : String) (now : τ) :
    (item.write (.value (.string s)) now).accepted ↔ (Moment.ofText? s).isSome := by
  cases read : Moment.ofText? s with
  | none =>
    rw [write_text_of_none type read]
    rfl
  | some moment =>
    rw [write_text_of_some type read]
    rfl

/-- **An item of a point in time accepts the texts that show the clock of a moment** and no others,
in every state. One or two digits are enough for a field and blanks may stand in front of it; a year
has up to four digits, or a sign and any number of them. Of the texts of the shape
`yyyy-MM-ddTHH:mm:ss` those are accepted whose clock exists. A text that is not accepted leaves the
item as it was. -/
theorem readable_text_run {descriptor : Descriptor} (time : descriptor.dataType = .time)
    (ops : List (Op τ)) (s : String) (now : τ) :
    let item : Item τ := (new descriptor).run ops
    let outcome := item.write (.value (.string s)) now
    (outcome.accepted ↔ ∃ clock : Moment.Clock, Moment.Shows s.toList clock ∧ clock.Exists ∧
      -262143 ≤ clock.date.year ∧ clock.date.year ≤ 262142) ∧
    (Moment.HasShape s → (outcome.accepted ↔ (Moment.Clock.shownBy s).Exists)) ∧
    (outcome.accepted = false → outcome.item = item) := by
  intro item outcome
  have type : item.dataType = .time := ((new descriptor).dataType_run ops).trans time
  have accepted : outcome.accepted ↔ (Moment.ofText? s).isSome := accepted_text_iff type s now
  refine ⟨?_, ?_, item_write_of_not_accepted⟩
  · rw [accepted, Moment.isSome_ofText?_iff_exists_shows]
  · intro shape
    rw [accepted, Moment.isSome_ofText?_iff shape]

/-- An attribute that is a point in time. -/
def lastUpdated : Descriptor := ⟨"state/lastupdated", .time, 0, 0⟩

/-- A year with a sign and more than four digits, and blanks of two kinds in front of fields. -/
theorem spaced_text_accepted :
    let item : Item Nat := (new lastUpdated).run [.write (.number 1704067200999) 1]
    let text := " +12024-2- 29T\u30007:5:60"
    lastUpdated.dataType = .time ∧ ¬ Moment.HasShape text ∧
      (item.write (.value (.string text)) 2).accepted := by
  intro item text
  have time : lastUpdated.dataType = .time := rfl
  have field (blanks digits : List Char) (blank : blanks.all Text.isBlank) (any : digits ≠ [])
      (all : digits.all Char.isDigit) (short : digits.length ≤ 2) :
      Moment.ShowsField (blanks ++ digits) (Text.natOf digits) :=
    .intro (List.all_eq_true.mp blank) any (List.all_eq_true.mp all) short
  have year : Moment.ShowsYear ([' '] ++ '+' :: ['1', '2', '0', '2', '4']) 12024 :=
    .signed false (List.all_eq_true.mp (by decide)) (by decide) (List.all_eq_true.mp (by decide))
  have parts : text.toList = " +12024".toList ++ '-' :: ("2".toList ++ '-' :: (" 29".toList ++
      'T' :: ("\u30007".toList ++ ':' :: ("5".toList ++ ':' :: "60".toList)))) := by
    decide
  have shows : Moment.Shows text.toList ⟨⟨12024, 2, 29⟩, 7, 5, 60⟩ := by
    rw [parts]
    exact .intro year (field [] ['2'] rfl (by decide) rfl (by decide))
      (field [' '] ['2', '9'] rfl (by decide) rfl (by decide))
      (field ['\u3000'] ['7'] rfl (by decide) rfl (by decide))
      (field [] ['5'] rfl (by decide) rfl (by decide))
      (field [] ['6', '0'] rfl (by decide) rfl (by decide))
  obtain ⟨accepted, _⟩ := readable_text_run time [.write (.number 1704067200999) 1] text 2
  exact ⟨time, by decide, accepted.mpr ⟨_, shows, by decide, by decide, by decide⟩⟩

/-- Fields of one digit are accepted. -/
theorem unpadded_text_accepted :
    let outcome := (new lastUpdated : Item Nat).write (.value (.string "2024-1-1T0:0:0")) 1
    ¬ Moment.HasShape "2024-1-1T0:0:0" ∧ outcome.accepted ∧
      outcome.item.toText = "2024-01-01T00:00:00" := by
  decide +kernel

/-! ### Texts of the shape `yyyy-MM-ddTHH:mm:ss` -/

/-- What is read from an item after the moment of a text of this shape was stored in it. -/
theorem reads_put_shaped {item : Item τ} (formed : item.WellFormed) (type : item.dataType = .time)
    {s : String} (shape : Moment.HasShape s) {moment : Moment}
    (read : Moment.ofText? s = some moment) (now : τ) :
    let stored := item.put now (.number (momentNumber moment))
    let clock := Moment.Clock.shownBy s
    stored.number.toInt = clock.millis ∧
      Moment.textOfMillis? clock.millis = some stored.toText ∧
      stored.toValue = .string stored.toText ∧ (stored.toText = s ↔ clock.second ≠ 60) := by
  intro stored clock
  have millis : moment.millis = clock.millis := (Moment.clock_of_ofText? shape read).2.1
  have kept := Moment.textOfMillis?_of_ofText? shape read
  obtain ⟨text, shown⟩ :=
    Option.isSome_iff_exists.mp (Moment.isSome_textOfMillis?_of_ofText? shape read)
  obtain ⟨number, toText, toValue⟩ := reads_put_momentNumber formed type moment now
  rw [shown, Option.getD_some] at toText
  rw [shown, Option.some.injEq, ← toText] at kept
  refine ⟨number.trans millis, ?_, toValue, kept⟩
  rw [← millis, shown, toText]

/-- **Writing a text of this shape** to an item of a point in time, in every state. It is accepted
exactly if its clock exists; then the number is the one counted for the clock, the value is the text
of that number, and the text is the one written exactly if the second is not 60. -/
theorem shaped_text_run {descriptor : Descriptor} (time : descriptor.dataType = .time)
    (ops : List (Op τ)) {s : String} (shape : Moment.HasShape s) (now : τ) :
    let item : Item τ := (new descriptor).run ops
    let outcome := item.write (.value (.string s)) now
    let clock := Moment.Clock.shownBy s
    (outcome.accepted ↔ clock.Exists) ∧
    (outcome.accepted → outcome.item.number.toInt = clock.millis ∧
      Moment.textOfMillis? clock.millis = some outcome.item.toText ∧
      outcome.item.toValue = .string outcome.item.toText ∧
      (outcome.item.toText = s ↔ clock.second ≠ 60)) := by
  intro item outcome clock
  have formed : item.WellFormed := (wellFormed_new descriptor).run ops
  have type : item.dataType = .time := ((new descriptor).dataType_run ops).trans time
  rw [← Moment.isSome_ofText?_iff shape]
  cases read : Moment.ofText? s with
  | none =>
    have written : outcome = ⟨false, item⟩ := write_text_of_none type read now
    rw [written]
    exact ⟨iff_of_false Bool.false_ne_true Bool.false_ne_true, nofun⟩
  | some moment =>
    have written : outcome = ⟨true, item.put now (.number (momentNumber moment))⟩ :=
      write_text_of_some type read now
    rw [written]
    exact ⟨iff_of_true rfl rfl, fun _ => reads_put_shaped formed type shape read now⟩

/-- The last second of a leap day, written over a later time. -/
theorem leap_day_kept :
    let item : Item Nat := (new lastUpdated).run [.write (.number 1704067200999) 1]
    let outcome := item.write (.value (.string "2000-02-29T23:59:59")) 2
    lastUpdated.dataType = .time ∧ Moment.HasShape "2000-02-29T23:59:59" ∧ outcome.accepted ∧
      outcome.item.number.toInt = 951868799000 ∧ outcome.item.toText = "2000-02-29T23:59:59" ∧
      outcome.item.toValue = .string "2000-02-29T23:59:59" := by
  intro item outcome
  have time : lastUpdated.dataType = .time := rfl
  have shape : Moment.HasShape "2000-02-29T23:59:59" := by decide
  obtain ⟨accepted, kept⟩ := shaped_text_run time [.write (.number 1704067200999) 1] shape 2
  have millis : (Moment.Clock.shownBy "2000-02-29T23:59:59").millis = 951868799000 := by
    decide +kernel
  have real : outcome.accepted := accepted.mpr (by decide)
  obtain ⟨number, _, value, text⟩ := kept real
  have same : outcome.item.toText = "2000-02-29T23:59:59" := text.mpr (by decide)
  exact ⟨time, shape, real, number.trans millis, same, value.trans (congrArg Value.string same)⟩

/-- The leap second at the end of 2016 is accepted, and what is read afterwards is not the text
that was written. -/
theorem leap_second_not_shown :
    let outcome := (new lastUpdated : Item Nat).write (.value (.string "2016-12-31T23:59:60")) 1
    Moment.HasShape "2016-12-31T23:59:60" ∧ outcome.accepted ∧
      outcome.item.toText = "2017-01-01T00:00:00" := by
  decide +kernel

end DeviceModel.Item
