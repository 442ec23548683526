import DeviceModel.Proofs.Moment.Clock
import Mathlib.Data.List.Forall2

/-!
# Texts of the shape `yyyy-MM-ddTHH:mm:ss`

A text of this shape is the clock that its digits show, written out (`toList_of_hasShape`). So it is
read field by field, and it means a moment if there is such a clock (`isSome_ofText?_iff`): the date
exists, the hour and the minute do, and the second is at most 60. The moment is then as many
milliseconds away as counting gives (`millis_of_ofText?`).

Written again, the moment has the same text unless the second is 60. Milliseconds do not know leap
seconds: those of second 60 are those of the minute that follows (`textOfMillis?_of_ofText?`).
-/

namespace DeviceModel.Moment

open Text

/-! ### Shape -/

/-- The shape of a time text, with a zero wherever a digit stands. -/
def template : List Char := "0000-00-00T00:00:00".toList

/-- Whether a character can stand at a place of the template. -/
def Fits (place c : Char) : Prop :=
  if place = '0' then c.isDigit = true else c = place

instance (place c : Char) : Decidable (Fits place c) :=
  inferInstanceAs (Decidable (if place = '0' then c.isDigit = true else c = place))

/-- Whether a text has the shape of the template, character by character. -/
def HasShape (s : String) : Prop :=
  List.Forall₂ Fits template s.toList

instance (s : String) : Decidable (HasShape s) :=
  inferInstanceAs (Decidable (List.Forall₂ Fits _ _))

/-- The number that stands at a place of a text. -/
def numberAt (s : String) (start width : Nat) : Nat :=
  natOf ((s.toList.drop start).take width)

/-- The clock that a text of this shape shows. -/
def Clock.shownBy (s : String) : Clock where
  date := ⟨numberAt s 0 4, numberAt s 5 2, numberAt s 8 2⟩
  hour := numberAt s 11 2
  minute := numberAt s 14 2
  second := numberAt s 17 2

/-- A run of digits of a fixed width. -/
structure Field (width : Nat) where
  digits : List Char
  length_digits : digits.length = width
  isDigit : ∀ c ∈ digits, c.isDigit = true

attribute [simp] Field.length_digits

namespace Field

/-- The number that a field shows. -/
def value {width : Nat} (field : Field width) : Nat :=
  natOf field.digits

theorem value_lt {width : Nat} (field : Field width) : field.value < 10 ^ width := by
  have bound := natOf_lt field.isDigit
  rwa [field.length_digits] at bound

theorem padded_value {width : Nat} (field : Field (width + 1)) :
    padded (width + 1) field.value = field.digits :=
  padded_natOf field.isDigit field.length_digits

theorem yearText_value (field : Field 4) : yearText field.value = field.digits := by
  have bound := field.value_lt
  rw [yearText, if_pos (by omega), Int.toNat_natCast, padded_value]

end Field

theorem template_eq : template = List.replicate 4 '0' ++ '-' :: (List.replicate 2 '0' ++ '-' ::
    (List.replicate 2 '0' ++ 'T' :: (List.replicate 2 '0' ++ ':' :: (List.replicate 2 '0' ++ ':' ::
      (List.replicate 2 '0' ++ []))))) := by
  decide

theorem exists_field_of_fits {width : Nat} {places s : List Char}
    (shape : List.Forall₂ Fits (List.replicate width '0' ++ places) s) :
    ∃ (field : Field width) (rest : List Char), s = field.digits ++ rest ∧
      List.Forall₂ Fits places rest := by
  induction width generalizing s with
  | zero => exact ⟨⟨[], rfl, nofun⟩, s, rfl, shape⟩
  | succ width ih =>
    rw [List.replicate_succ, List.cons_append] at shape
    cases shape with
    | @cons _ c _ _ digit shapeTail =>
      obtain ⟨⟨digits, length, all⟩, rest, rfl, shapeRest⟩ := ih shapeTail
      refine ⟨⟨c :: digits, ?_, ?_⟩, rest, rfl, shapeRest⟩
      · rw [List.length_cons, length]
      · exact List.forall_mem_cons.mpr ⟨digit, all⟩

/-- A field with the sign that ends it. -/
theorem exists_field_of_fits_cons {width : Nat} {sign : Char} (other : sign ≠ '0')
    {places s : List Char}
    (shape : List.Forall₂ Fits (List.replicate width '0' ++ sign :: places) s) :
    ∃ (field : Field width) (rest : List Char), s = field.digits ++ sign :: rest ∧
      List.Forall₂ Fits places rest := by
  obtain ⟨field, after, rfl, shapeAfter⟩ := exists_field_of_fits shape
  cases shapeAfter with
  | @cons _ c _ rest fits shapeRest =>
    rw [Fits, if_neg other] at fits
    exact ⟨field, rest, by rw [fits], shapeRest⟩

/-- **A text of this shape is the clock that it shows, written out.** -/
theorem toList_of_hasShape {s : String} (shape : HasShape s) :
    s.toList = (Clock.shownBy s).chars ∧ 0 ≤ (Clock.shownBy s).date.year ∧
      (Clock.shownBy s).date.year ≤ 9999 ∧ (Clock.shownBy s).Short := by
  have hyphen : '-' ≠ '0' := by decide
  have letter : 'T' ≠ '0' := by decide
  have colon : ':' ≠ '0' := by decide
  rw [HasShape, template_eq] at shape
  obtain ⟨year, _, parts, shape₁⟩ := exists_field_of_fits_cons hyphen shape
  obtain ⟨month, _, rfl, shape₂⟩ := exists_field_of_fits_cons hyphen shape₁
  obtain ⟨day, _, rfl, shape₃⟩ := exists_field_of_fits_cons letter shape₂
  obtain ⟨hour, _, rfl, shape₄⟩ := exists_field_of_fits_cons colon shape₃
  obtain ⟨minute, _, rfl, shape₅⟩ := exists_field_of_fits_cons colon shape₄
  obtain ⟨second, _, rfl, shape₆⟩ := exists_field_of_fits shape₅
  obtain rfl := List.forall₂_nil_left_iff.mp shape₆
  have shown : Clock.shownBy s = ⟨⟨year.value, month.value, day.value⟩, hour.value, minute.value,
      second.value⟩ := by
    -- the widths of the fields before a place add up to it
    simp [Clock.shownBy, numberAt, parts, List.drop_append, List.drop_of_length_le,
      List.take_of_length_le, Field.value]
  rw [shown]
  refine ⟨?_, Int.natCast_nonneg _, ?_, month.value_lt, day.value_lt, hour.value_lt,
    minute.value_lt, second.value_lt⟩
  · simp only [parts, Clock.chars, Field.yearText_value, Field.padded_value, List.append_assoc,
      List.cons_append, List.append_nil]
  · have bound := year.value_lt
    dsimp only
    omega

/-! ### Meaning -/

/-- The milliseconds from the beginning of 1970 to a clock, counted. -/
def Clock.millis (clock : Clock) : Int :=
  (((((clock.date.count : Int) - Date.count ⟨1970, 1, 1⟩) * 24 + clock.hour) * 60 + clock.minute) *
    60 + clock.second) * 1000

variable {s : String}

/-- A text of this shape shows the clock that its digits do. -/
theorem shows_of_hasShape (shape : HasShape s) : Shows s.toList (Clock.shownBy s) := by
  obtain ⟨parts, _, _, short⟩ := toList_of_hasShape shape
  rw [parts]
  exact shows_chars short

theorem ofText?_of_hasShape (shape : HasShape s) : ofText? s = (Clock.shownBy s).moment? :=
  ofChars?_of_shows (shows_of_hasShape shape)

/-- **A text of this shape means a moment exactly if its clock exists.** -/
theorem isSome_ofText?_iff (shape : HasShape s) :
    (ofText? s).isSome ↔ (Clock.shownBy s).Exists := by
  obtain ⟨_, low, high, _⟩ := toList_of_hasShape shape
  rw [ofText?_of_hasShape shape, Clock.isSome_moment?_iff]
  exact and_iff_left (by omega)

section

variable {moment : Moment} (shape : HasShape s) (read : ofText? s = some moment)
include shape read

/-- The moment of a text shows the clock of the text, and only second 60 is a leap second. -/
theorem clock_of_ofText? : moment.clock = Clock.shownBy s ∧
    moment.millis = (Clock.shownBy s).millis ∧
    moment.nanos = (Clock.shownBy s).second / 60 * 1000000000 := by
  obtain ⟨_, low, high, _⟩ := toList_of_hasShape shape
  have real : (Clock.shownBy s).Exists :=
    (isSome_ofText?_iff shape).mp (Option.isSome_iff_exists.mpr ⟨moment, read⟩)
  obtain ⟨found, he, clock, seconds, nanos⟩ :=
    Clock.exists_moment? real (by omega) (by omega)
  rw [ofText?_of_hasShape shape, he] at read
  obtain rfl := Option.some.inj read
  refine ⟨clock, ?_, nanos⟩
  obtain ⟨date, _, _, second⟩ := real
  rw [Moment.millis, Clock.millis, seconds, nanos, Clock.seconds, ← Date.toDays_eq_count date low]
  omega

theorem text_of_ofText? : moment.text = s := by
  rw [text, chars_eq_clock_chars, (clock_of_ofText? shape read).1, ← (toList_of_hasShape shape).1,
    String.ofList_toList]

theorem isSome_textOfMillis?_of_ofText? : (textOfMillis? moment.millis).isSome := by
  obtain ⟨_, low, high, _⟩ := toList_of_hasShape shape
  obtain ⟨date, hour, minute, second⟩ :=
    (isSome_ofText?_iff shape).mp (Option.isSome_iff_exists.mpr ⟨moment, read⟩)
  obtain ⟨days, days'⟩ := Date.toDays_bounds date low high
  have first : Date.toDays ⟨0, 1, 1⟩ = -719528 := by decide
  have last : Date.toDays ⟨9999, 12, 31⟩ = 2932896 := by decide
  rw [isSome_textOfMillis?_iff, isRepresentable_iff, (clock_of_ofText? shape read).2.1,
    Clock.millis, ← Date.toDays_eq_count date low]
  omega

/-- **The milliseconds of a text have that text, unless its second is 60.** -/
theorem textOfMillis?_of_ofText? :
    textOfMillis? moment.millis = some s ↔ (Clock.shownBy s).second ≠ 60 := by
  obtain ⟨_, millis, nanos⟩ := clock_of_ofText? shape read
  obtain ⟨_, _, _, second⟩ :=
    (isSome_ofText?_iff shape).mp (Option.isSome_iff_exists.mpr ⟨moment, read⟩)
  constructor
  · -- a text of milliseconds reads back without a leap second
    intro written leap
    obtain ⟨found, hf, hs⟩ := Option.map_eq_some_iff.mp written
    have back := ofText?_text (regular_of_ofMillis? hf)
    rw [hs, read, Option.some.injEq] at back
    obtain ⟨_, inSecond⟩ := ofMillis?_eq_some_iff.mp hf
    have whole : moment.nanos = found.nanos / 1000000000 * 1000000000 :=
      congrArg Moment.nanos back
    rw [leap] at nanos
    omega
  · intro ordinary
    have exact : ofMillis? moment.millis = some moment := by
      rw [ofMillis?_eq_some_iff, Moment.millis]
      omega
    rw [textOfMillis?, exact, Option.map_some, text_of_ofText? shape read]

end

end DeviceModel.Moment
