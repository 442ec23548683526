import DeviceModel.Moment.Rfc3339
import DeviceModel.Proofs.Moment.Text

/-!
# The exchange form of moments read back

The exchange form of a moment shows its nanoseconds in as many groups of three decimals as they
need. A moment that is not regular shows the same as the regular one that it is settled as, a second
later and with a thousand million nanoseconds less (`rfc3339_settled`). Reading the exchange form
gives this regular moment (`ofRfc3339?_rfc3339`), which is the moment itself if it is regular
(`settled_eq_self_iff`), leap seconds and years of more than four digits included.
-/

namespace DeviceModel.Moment

open Text

/-! ### Seconds with too many nanoseconds -/

/-- The regular moment that shows the same as this one: nanoseconds that are too many for the second
and make no leap second are carried into the next second, which is in the same minute. -/
def settled (moment : Moment) : Moment :=
  if regular : moment.Regular then moment
  else
    { seconds := moment.seconds + 1
      nanos := moment.nanos - 1000000000
      seconds_range := by
        unfold Regular at regular
        have := moment.seconds_range
        omega
      nanos_range := by
        have := moment.nanos_range
        omega }

section

variable {moment : Moment}

theorem settled_of_regular (regular : moment.Regular) : moment.settled = moment :=
  dif_pos regular

theorem settled_of_not_regular (irregular : ¬ moment.Regular) :
    moment.settled.seconds = moment.seconds + 1 ∧
      moment.settled.nanos + 1000000000 = moment.nanos := by
  have beyond : 1000000000 ≤ moment.nanos := not_lt.mp (irregular ∘ Or.inl)
  rw [settled, dif_neg irregular]
  exact ⟨rfl, Nat.sub_add_cancel beyond⟩

theorem regular_settled (moment : Moment) : moment.settled.Regular := by
  by_cases regular : moment.Regular
  · rwa [settled_of_regular regular]
  · have range := moment.nanos_range
    obtain ⟨_, nanos⟩ := settled_of_not_regular regular
    exact .inl (by omega)

theorem settled_eq_self_iff : moment.settled = moment ↔ moment.Regular :=
  ⟨fun same => same ▸ moment.regular_settled, settled_of_regular⟩

end

theorem nanos_settled (moment : Moment) :
    moment.settled.nanos % 1000000000 = moment.nanos % 1000000000 := by
  by_cases regular : moment.Regular
  · rw [settled_of_regular regular]
  · obtain ⟨_, nanos⟩ := settled_of_not_regular regular
    omega

/-- The carry stays within the minute, so the clock is the same. -/
theorem clock_settled (moment : Moment) : moment.settled.clock = moment.clock := by
  by_cases regular : moment.Regular
  · rw [settled_of_regular regular]
  · have range := moment.nanos_range
    obtain ⟨seconds, nanos⟩ := settled_of_not_regular regular
    obtain ⟨beyond, inside⟩ : ¬ moment.nanos < 1000000000 ∧ ¬ moment.seconds % 60 = 59 :=
      not_or.mp regular
    have day : moment.settled.seconds / 86400 = moment.seconds / 86400 := by omega
    have hour : moment.settled.hour = moment.hour := by unfold Moment.hour; omega
    have minute : moment.settled.minute = moment.minute := by unfold Moment.minute; omega
    have second : moment.settled.second = moment.second := by unfold Moment.second; omega
    rw [clock, clock, date, date, day, hour, minute, second]

theorem rfc3339_settled (moment : Moment) : moment.settled.rfc3339 = moment.rfc3339 := by
  rw [rfc3339, rfc3339, chars_eq_clock_chars, chars_eq_clock_chars, clock_settled, nanos_settled]

/-! ### Decimals of a second -/

/-- Up to nine decimals. -/
theorem readNanos?_padded {width n : Nat} (few : width < 9) (bound : n < 10 ^ (width + 1))
    {rest : List Char} (stops : ∀ c ∈ rest.head?, c.isDigit = false) :
    readNanos? ('.' :: padded (width + 1) n ++ rest) = some (n * 10 ^ (8 - width), rest) := by
  have length := length_padded bound
  have leading : (padded (width + 1) n).take 9 = padded (width + 1) n :=
    List.take_of_length_le (by omega)
  rw [List.cons_append, readNanos?, readDigits?_none_padded stops]
  simp only [Option.map_some, leading, natOf_padded, length, Nat.pow_eq, Nat.reduceSubDiff]

theorem readNanos?_nanosText {nanos : Nat} (bound : nanos < 1000000000) (rest : List Char) :
    readNanos? (nanosText nanos ++ 'Z' :: rest) = some (nanos, 'Z' :: rest) := by
  have stops : ∀ c ∈ ('Z' :: rest).head?, c.isDigit = false := not_isDigit_head rfl rest
  unfold nanosText
  split_ifs with none milli micro
  · rw [none]
    rfl
  · have value : nanos / 1000000 * 10 ^ (8 - 2) = nanos := by omega
    rw [readNanos?_padded (by decide) (by omega) stops, value]
  · have value : nanos / 1000 * 10 ^ (8 - 5) = nanos := by omega
    rw [readNanos?_padded (by decide) (by omega) stops, value]
  · have value : nanos * 10 ^ (8 - 8) = nanos := by omega
    rw [readNanos?_padded (by decide) (by omega) stops, value]

/-! ### The whole text -/

/-- The first character after the second is no digit. -/
theorem stops_nanosText (nanos : Nat) (rest : List Char) :
    ∀ c ∈ (nanosText nanos ++ 'Z' :: rest).head?, c.isDigit = false := by
  unfold nanosText
  split_ifs <;> exact not_isDigit_head rfl _

theorem ofRfc3339?_rfc3339_of_regular {moment : Moment} (regular : moment.Regular) :
    ofRfc3339? moment.rfc3339 = some moment := by
  obtain ⟨month, day, hour, minute, second⟩ := moment.short_clock
  have nanosBound := Nat.mod_lt moment.nanos (by decide : 0 < 1000000000)
  have field {n : Nat} (bound : n < 100) {c : Char} (h : c.isDigit = false) (rest : List Char) :
      readField? (padded 2 n ++ c :: rest) = some (n, c :: rest) :=
    readField?_of_shows (showsField_padded bound) (not_isDigit_head h rest)
  have hyphen (rest : List Char) : expect? '-' (trimStart ('-' :: rest)) = some rest :=
    expect?_self '-' rest
  have colon (rest : List Char) : expect? ':' (trimStart (':' :: rest)) = some rest :=
    expect?_self ':' rest
  have separator (rest : List Char) : afterSeparator? ('T' :: rest) = some rest := by
    rw [afterSeparator?, if_pos (Or.inl rfl)]
  have whole : moment.nanos % 1000000000 + moment.nanos / 1000000000 * 1000000000 =
      moment.nanos := by omega
  rw [ofRfc3339?, rfc3339, String.toList_ofList, chars_eq_clock_chars, Clock.chars]
  simp only [List.append_assoc, List.cons_append]
  refine (bind_of_eq_some (readYear?_of_shows (showsYear_yearText _)
    (not_isDigit_head (c := '-') rfl _)) _).trans ?_
  refine (bind_of_eq_some (hyphen _) _).trans ?_
  refine (bind_of_eq_some (field month (c := '-') rfl _) _).trans ?_
  refine (bind_of_eq_some (hyphen _) _).trans ?_
  refine (bind_of_eq_some (field day (c := 'T') rfl _) _).trans ?_
  refine (bind_of_eq_some (separator _) _).trans ?_
  refine (bind_of_eq_some (field hour (c := ':') rfl _) _).trans ?_
  refine (bind_of_eq_some (colon _) _).trans ?_
  refine (bind_of_eq_some (field minute (c := ':') rfl _) _).trans ?_
  refine (bind_of_eq_some (colon _) _).trans ?_
  refine (bind_of_eq_some (readField?_of_shows (showsField_padded second) (stops_nanosText _ []))
    _).trans ?_
  refine (bind_of_eq_some (readNanos?_nanosText nanosBound []) _).trans ?_
  refine (bind_of_eq_some (by decide : readOffset? (trimStart ['Z']) = some (0, [])) _).trans ?_
  rw [if_pos (by decide)]
  exact (ofClock?_eq_ofParts? regular _).trans (by rw [whole, ofParts?_eq_some regular])

/-- **The regular moment is read back from the exchange form of a moment.** -/
theorem ofRfc3339?_rfc3339 (moment : Moment) :
    ofRfc3339? moment.rfc3339 = some moment.settled := by
  rw [← rfc3339_settled]
  exact ofRfc3339?_rfc3339_of_regular moment.regular_settled

end DeviceModel.Moment
