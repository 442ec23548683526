import DeviceModel.Proofs.Moment.Calendar
import DeviceModel.Proofs.Moment.Grammar

/-!
# Time texts read back

A date and a time of day are written field by field (`Clock.chars`), and a text written so shows its
clock (`shows_chars`). A moment is regular if its nanoseconds are those of its second or, in the
last second of a minute, those of a leap second. The text of a moment shows it to the second, and
reading the text of a regular moment gives the beginning of that second (`ofText?_text`). Of a leap
second, which is shown as second 60, the beginning is still a leap second.

A number of milliseconds has a text if it is within the years -262143 to 262142
(`isSome_textOfMillis?_iff`), and its text reads back as the second that it is in
(`ofText?_textOfMillis?`). The milliseconds of a moment have the text of the moment outside of leap
seconds (`textOfMillis?_millis`).
-/

namespace DeviceModel.Moment

open Text

/-- The moment at the beginning of its second. -/
def wholeSeconds (moment : Moment) : Moment where
  seconds := moment.seconds
  nanos := moment.nanos / 1000000000 * 1000000000
  seconds_range := moment.seconds_range
  nanos_range := by
    have := moment.nanos_range
    omega

/-- Whether the nanoseconds are within the second, or within a leap second after the last second of
a minute. -/
def Regular (moment : Moment) : Prop :=
  moment.nanos < 1000000000 ∨ moment.seconds % 60 = 59

instance (moment : Moment) : Decidable moment.Regular :=
  inferInstanceAs (Decidable (_ ∨ _))

/-! ### The fields of a text -/

theorem showsField_padded {n : Nat} (bound : n < 100) : ShowsField (padded 2 n) n := by
  have length : (padded 2 n).length = 2 := length_padded bound
  have shown : ShowsField ([] ++ padded 2 n) (natOf (padded 2 n)) :=
    .intro nofun (padded_ne_nil 2 n) isDigit_of_mem_padded (by omega)
  rwa [List.nil_append, natOf_padded] at shown

theorem showsYear_yearText (year : Int) : ShowsYear (yearText year) year := by
  rw [yearText]
  split
  next short =>
    have length : (padded 4 year.toNat).length = 4 := length_padded (by omega)
    have shown : ShowsYear ([] ++ padded 4 year.toNat) (natOf (padded 4 year.toNat)) :=
      .unsigned nofun (padded_ne_nil 4 _) isDigit_of_mem_padded (by omega)
    rwa [List.nil_append, natOf_padded, Int.toNat_of_nonneg short.1] at shown
  next long =>
    have sign : withSign (decide (year < 0)) year.natAbs = year := by
      unfold withSign
      split_ifs with negative
      · have : year < 0 := of_decide_eq_true negative
        omega
      · have : ¬ year < 0 := fun h => negative (decide_eq_true h)
        omega
    have shown : ShowsYear
        ([] ++ (if decide (year < 0) then '-' else '+') :: padded 4 year.natAbs)
        (withSign (decide (year < 0)) (natOf (padded 4 year.natAbs))) :=
      .signed _ nofun (padded_ne_nil 4 _) isDigit_of_mem_padded
    rw [natOf_padded, sign] at shown
    simpa using shown

/-- A clock in the form that moments are written in. -/
def Clock.chars (clock : Clock) : List Char :=
  yearText clock.date.year ++ '-' :: padded 2 clock.date.month ++ '-' :: padded 2 clock.date.day ++
    'T' :: padded 2 clock.hour ++ ':' :: padded 2 clock.minute ++ ':' :: padded 2 clock.second

/-- Every field but the year has at most two digits. -/
structure Clock.Short (clock : Clock) : Prop where
  month : clock.date.month < 100
  day : clock.date.day < 100
  hour : clock.hour < 100
  minute : clock.minute < 100
  second : clock.second < 100

theorem shows_chars {clock : Clock} (short : clock.Short) : Shows clock.chars clock := by
  rw [Clock.chars]
  simp only [List.append_assoc, List.cons_append]
  exact .intro (showsYear_yearText _) (showsField_padded short.month) (showsField_padded short.day)
    (showsField_padded short.hour) (showsField_padded short.minute) (showsField_padded short.second)

/-! ### The clock of a moment -/

theorem exists_date (moment : Moment) : moment.date.Exists :=
  Date.exists_ofDays _

theorem year_date (moment : Moment) :
    -262143 ≤ moment.date.year ∧ moment.date.year ≤ 262142 := by
  obtain ⟨year, day, first, last, _, he, hd⟩ := Date.exists_marchDate (moment.seconds / 86400)
  have range := moment.seconds_range
  have offset : Date.epochOffset = 719468 := rfl
  rw [Date.daysBefore] at he
  have near : -262144 ≤ year ∧ year ≤ 262142 := by omega
  -- the first and the last year begin and end in the middle of one that begins in March
  have start : year = -262144 → 306 ≤ day := by
    rintro rfl
    omega
  have stop : year = 262142 → day ≤ 305 := by
    rintro rfl
    omega
  rw [date, hd, Date.ofMarchDate]
  split
  · have : year ≠ -262144 := by omega
    dsimp only
    omega
  · have : year ≠ 262142 := by omega
    dsimp only
    omega

/-- The readers make the regular moments. -/
theorem ofParts?_eq_some_iff {seconds : Int} {nanos : Nat} {moment : Moment} :
    ofParts? seconds nanos = some moment ↔
      moment.Regular ∧ moment.seconds = seconds ∧ moment.nanos = nanos := by
  have range := moment.nanos_range
  constructor
  · intro made
    rw [ofParts?] at made
    split at made
    next h =>
      obtain rfl := Option.some.inj made
      exact ⟨h.2.imp_right And.right, rfl, rfl⟩
    next => contradiction
  · rintro ⟨regular, rfl, rfl⟩
    exact dif_pos ⟨moment.seconds_range, regular.imp_right fun last => ⟨range, last⟩⟩

theorem ofParts?_eq_some {moment : Moment} (regular : moment.Regular) :
    ofParts? moment.seconds moment.nanos = some moment :=
  ofParts?_eq_some_iff.mpr ⟨regular, rfl, rfl⟩

/-- The clock of a regular moment with any decimals of the second. -/
theorem ofClock?_eq_ofParts? {moment : Moment} (regular : moment.Regular) (nanos : Nat) :
    ofClock? moment.date moment.hour moment.minute moment.second nanos 0 =
      ofParts? moment.seconds (nanos + moment.nanos / 1000000000 * 1000000000) := by
  have range := moment.nanos_range
  unfold Regular at regular
  have hour : moment.hour ≤ 23 := by unfold Moment.hour; omega
  have minute : moment.minute ≤ 59 := by unfold Moment.minute; omega
  have second : moment.second ≤ 60 := by unfold Moment.second; omega
  have leap : moment.second / 60 = moment.nanos / 1000000000 := by unfold Moment.second; omega
  have seconds : moment.date.toDays * 86400 +
      ((moment.hour * 3600 + moment.minute * 60 +
        (moment.second - moment.nanos / 1000000000) : Nat) : Int) - 0 = moment.seconds := by
    rw [date, Date.toDays_ofDays]
    unfold Moment.hour Moment.minute Moment.second
    omega
  rw [ofClock?, if_pos ⟨moment.exists_date, moment.year_date.1, moment.year_date.2, hour, minute,
    second⟩]
  simp only [leap]
  rw [seconds]

theorem regular_wholeSeconds {moment : Moment} (regular : moment.Regular) :
    moment.wholeSeconds.Regular := by
  refine regular.imp_left fun bound => ?_
  show moment.nanos / 1000000000 * 1000000000 < 1000000000
  omega

theorem ofClock?_wholeSeconds {moment : Moment} (regular : moment.Regular) :
    ofClock? moment.date moment.hour moment.minute moment.second 0 0 =
      some moment.wholeSeconds := by
  rw [ofClock?_eq_ofParts? regular, Nat.zero_add]
  exact ofParts?_eq_some (regular_wholeSeconds regular)

/-- The clock that a moment shows. -/
def clock (moment : Moment) : Clock :=
  ⟨moment.date, moment.hour, moment.minute, moment.second⟩

theorem chars_eq_clock_chars (moment : Moment) : moment.chars = moment.clock.chars := rfl

theorem short_clock (moment : Moment) : moment.clock.Short := by
  obtain ⟨_, month, _, day⟩ := moment.exists_date
  have range := moment.nanos_range
  refine ⟨show moment.date.month < 100 by omega, ?_, ?_, ?_, ?_⟩
  · show moment.date.day < 100
    unfold Date.monthLength at day
    split_ifs at day <;> omega
  · show moment.hour < 100
    unfold Moment.hour
    omega
  · show moment.minute < 100
    unfold Moment.minute
    omega
  · show moment.second < 100
    unfold Moment.second
    omega

/-- **Reading the text of a regular moment gives the moment at the beginning of its second.** -/
theorem ofText?_text {moment : Moment} (regular : moment.Regular) :
    ofText? moment.text = some moment.wholeSeconds := by
  rw [ofText?, text, String.toList_ofList, chars_eq_clock_chars,
    ofChars?_of_shows (shows_chars moment.short_clock)]
  exact ofClock?_wholeSeconds regular

/-! ### Milliseconds -/

/-- A text shows nothing below the second but whether it is a leap second. -/
theorem text_eq_of_seconds {a b : Moment} (seconds : a.seconds = b.seconds)
    (leap : a.nanos / 1000000000 = b.nanos / 1000000000) : a.text = b.text := by
  have second : a.second = b.second := by
    rw [Moment.second, Moment.second, seconds, leap]
  have date : a.date = b.date := by
    rw [Moment.date, Moment.date, seconds]
  rw [text, text, chars, chars, date, second, hour, hour, minute, minute, seconds]

theorem text_wholeSeconds (moment : Moment) : moment.wholeSeconds.text = moment.text := by
  refine text_eq_of_seconds rfl ?_
  show moment.nanos / 1000000000 * 1000000000 / 1000000000 = moment.nanos / 1000000000
  omega

theorem ofMillis?_eq_some_iff {millis : Int} {moment : Moment} :
    ofMillis? millis = some moment ↔
      moment.seconds = millis / 1000 ∧ moment.nanos = (millis % 1000).toNat * 1000000 := by
  rw [ofMillis?, ofParts?_eq_some_iff]
  refine and_iff_right_of_imp fun ⟨_, nanos⟩ => .inl ?_
  rw [nanos]
  omega

variable {millis : Int} {moment : Moment}

/-- The milliseconds at which a year begins. -/
def startOfYear (year : Int) : Int :=
  (⟨year, 1, 1⟩ : Date).toDays * 86400000

/-- Whether a number of milliseconds is in one of the years that moments have. -/
def IsRepresentable (millis : Int) : Prop :=
  startOfYear (-262143) ≤ millis ∧ millis < startOfYear 262143

theorem isRepresentable_iff :
    IsRepresentable millis ↔ -8334601228800000 ≤ millis ∧ millis < 8210266876800000 := by
  have first : startOfYear (-262143) = -8334601228800000 := by decide
  have last : startOfYear 262143 = 8210266876800000 := by decide
  rw [IsRepresentable, first, last]

theorem isSome_textOfMillis?_iff : (textOfMillis? millis).isSome ↔ IsRepresentable millis := by
  rw [isRepresentable_iff, textOfMillis?, Option.isSome_map, ofMillis?, ofParts?]
  split
  · exact iff_of_true rfl (by omega)
  · exact iff_of_false (by decide) (by omega)

theorem regular_of_ofMillis? (h : ofMillis? millis = some moment) : moment.Regular :=
  (ofParts?_eq_some_iff.mp h).1

/-- Milliseconds are never in the middle of a leap second. -/
theorem ofMillis?_wholeSeconds (h : ofMillis? millis = some moment) :
    ofMillis? (millis / 1000 * 1000) = some moment.wholeSeconds := by
  obtain ⟨seconds, nanos⟩ := ofMillis?_eq_some_iff.mp h
  refine ofMillis?_eq_some_iff.mpr ⟨?_, ?_⟩
  · rw [show moment.wholeSeconds.seconds = moment.seconds from rfl, seconds]
    omega
  · rw [show moment.wholeSeconds.nanos = moment.nanos / 1000000000 * 1000000000 from rfl, nanos]
    omega

theorem millis_of_ofMillis? (h : ofMillis? millis = some moment) : moment.millis = millis := by
  obtain ⟨seconds, nanos⟩ := ofMillis?_eq_some_iff.mp h
  rw [Moment.millis, seconds, nanos]
  omega

/-- Outside of leap seconds nothing of the text is lost in the milliseconds. -/
theorem textOfMillis?_millis (ordinary : moment.nanos < 1000000000) :
    textOfMillis? moment.millis = some moment.text := by
  let rounded : Moment :=
    { seconds := moment.seconds
      nanos := moment.nanos / 1000000 * 1000000
      seconds_range := moment.seconds_range
      nanos_range := by omega }
  have exact : ofMillis? moment.millis = some rounded := by
    rw [ofMillis?_eq_some_iff, Moment.millis]
    constructor
    · show moment.seconds = _
      omega
    · show moment.nanos / 1000000 * 1000000 = _
      omega
  have same : rounded.text = moment.text := by
    refine text_eq_of_seconds rfl ?_
    show moment.nanos / 1000000 * 1000000 / 1000000000 = moment.nanos / 1000000000
    omega
  rw [textOfMillis?, exact, Option.map_some, same]

/-- **The text of a number of milliseconds reads back as the second that they are in**, and that
second has the same text. -/
theorem ofText?_textOfMillis? {s : String} (h : textOfMillis? millis = some s) :
    ∃ moment, ofText? s = some moment ∧ moment.millis = millis / 1000 * 1000 ∧
      textOfMillis? moment.millis = some s := by
  obtain ⟨moment, hm, rfl⟩ := Option.map_eq_some_iff.mp h
  have whole := ofMillis?_wholeSeconds hm
  have millis := millis_of_ofMillis? whole
  refine ⟨moment.wholeSeconds, ofText?_text (regular_of_ofMillis? hm), millis, ?_⟩
  rw [textOfMillis?, millis, whole, Option.map_some, text_wholeSeconds]

end DeviceModel.Moment
