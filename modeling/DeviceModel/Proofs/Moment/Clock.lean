import DeviceModel.Proofs.Moment.Text

/-!
# The moment of a clock

A clock shows a moment if the date exists in one of the years that moments have, and the hour, the
minute and the second do (`isSome_moment?_iff`); every minute may have a second 60. The moment shows
the clock again (`exists_moment?`): what the clock shows is all that there is to it but for the
second 60, which is held as a leap in second 59.
-/

namespace DeviceModel.Moment

/-- What a moment shows, from its day and the second of the day. -/
theorem clock_of_seconds {moment : Moment} {day : Int} {hour minute second : Nat}
    (hourBound : hour ≤ 23) (minuteBound : minute ≤ 59) (secondBound : second ≤ 59)
    (counted : moment.seconds = day * 86400 + (hour * 3600 + minute * 60 + second : Nat)) :
    moment.clock = ⟨Date.ofDays day, hour, minute, second + moment.nanos / 1000000000⟩ := by
  have inDay : moment.seconds / 86400 = day := by omega
  have ofDay : (moment.seconds % 86400).toNat = hour * 3600 + minute * 60 + second := by omega
  have sameHour : moment.hour = hour := by
    rw [Moment.hour, ofDay]
    omega
  have sameMinute : moment.minute = minute := by
    rw [Moment.minute, ofDay]
    omega
  have sameSecond : moment.second = second + moment.nanos / 1000000000 := by
    rw [Moment.second, ofDay]
    omega
  rw [Moment.clock, Moment.date, inDay, sameHour, sameMinute, sameSecond]

namespace Clock

/-- Whether the date exists and the time on it. Every minute may have a second 60. -/
def Exists (clock : Clock) : Prop :=
  clock.date.Exists ∧ clock.hour ≤ 23 ∧ clock.minute ≤ 59 ∧ clock.second ≤ 60

instance (clock : Clock) : Decidable clock.Exists :=
  inferInstanceAs (Decidable (_ ∧ _ ∧ _ ∧ _))

/-- The seconds from the beginning of 1970 to a clock, leap seconds not counted. -/
def seconds (clock : Clock) : Int :=
  clock.date.toDays * 86400 + (clock.hour * 3600 + clock.minute * 60 +
    (clock.second - clock.second / 60) : Nat)

variable {clock : Clock}

/-- A clock that exists is that of a moment. -/
theorem exists_moment? (real : clock.Exists) (low : -262143 ≤ clock.date.year)
    (high : clock.date.year ≤ 262142) :
    ∃ moment, clock.moment? = some moment ∧ moment.clock = clock ∧
      moment.seconds = clock.seconds ∧ moment.nanos = clock.second / 60 * 1000000000 := by
  obtain ⟨date, hour, minute, second⟩ := real
  obtain ⟨low', high'⟩ := Date.toDays_bounds date low high
  have first : Date.toDays ⟨-262143, 1, 1⟩ = -96465292 := by decide
  have last : Date.toDays ⟨262142, 12, 31⟩ = 95026236 := by decide
  rw [first] at low'
  rw [last] at high'
  have counted : clock.seconds = clock.date.toDays * 86400 + (clock.hour * 3600 +
      clock.minute * 60 + (clock.second - clock.second / 60) : Nat) := rfl
  let moment : Moment :=
    { seconds := clock.seconds
      nanos := clock.second / 60 * 1000000000
      seconds_range := by omega
      nanos_range := by omega }
  have regular : moment.Regular := by
    show clock.second / 60 * 1000000000 < 1000000000 ∨ clock.seconds % 60 = 59
    omega
  refine ⟨moment, ?_, ?_, rfl, rfl⟩
  · rw [moment?, ofClock?, if_pos ⟨date, low, high, hour, minute, second⟩]
    simp only [Int.sub_zero, Nat.zero_add]
    exact ofParts?_eq_some regular
  · have shown : moment.clock = _ := clock_of_seconds hour minute (by omega) counted
    have sixtieth : clock.second - clock.second / 60 + moment.nanos / 1000000000 =
        clock.second := by
      show clock.second - clock.second / 60 + clock.second / 60 * 1000000000 / 1000000000 = _
      omega
    rw [shown, Date.ofDays_toDays date, sixtieth]

theorem isSome_moment?_iff :
    clock.moment?.isSome ↔
      clock.Exists ∧ -262143 ≤ clock.date.year ∧ clock.date.year ≤ 262142 := by
  constructor
  · intro some
    by_contra none
    rw [moment?, ofClock?, if_neg] at some
    · contradiction
    · rintro ⟨date, low, high, time⟩
      exact none ⟨⟨date, time⟩, low, high⟩
  · rintro ⟨real, low, high⟩
    obtain ⟨moment, he, _⟩ := exists_moment? real low high
    rw [he]
    rfl

end Clock

/-- **The texts that have a moment** are those that show a clock that has one. -/
theorem isSome_ofText?_iff_exists_shows {s : String} :
    (ofText? s).isSome ↔ ∃ clock : Clock, Shows s.toList clock ∧ clock.Exists ∧
      -262143 ≤ clock.date.year ∧ clock.date.year ≤ 262142 := by
  constructor
  · intro some
    obtain ⟨moment, read⟩ := Option.isSome_iff_exists.mp some
    obtain ⟨clock, shows, he⟩ := ofChars?_eq_some_iff.mp read
    have real : clock.moment?.isSome := he ▸ rfl
    exact ⟨clock, shows, Clock.isSome_moment?_iff.mp real⟩
  · rintro ⟨clock, shows, real⟩
    rw [ofText?, ofChars?_of_shows shows]
    exact Clock.isSome_moment?_iff.mpr real

end DeviceModel.Moment
