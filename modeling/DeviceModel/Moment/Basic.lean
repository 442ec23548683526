import DeviceModel.Moment.Calendar

/-!
# Moments

A `Moment` is a point in universal time with nanosecond precision, in the years -262143 to 262142.
A leap second, which is the second 60 of its minute, is held as the second before it with a
thousand million nanoseconds more. Any other second may have as many nanoseconds, and the clock then
shows the second after it; but `Moment.ofParts?`, which the readers use, makes no such moment.
-/

namespace DeviceModel

/-- A point in time. -/
structure Moment where
  /-- Whole seconds since 1970-01-01, leap seconds not counted. -/
  seconds : Int
  /-- Nanoseconds from the beginning of the second, which may be more than it has. -/
  nanos : Nat
  seconds_range : -8334601228800 ≤ seconds ∧ seconds ≤ 8210266876799
  nanos_range : nanos < 2000000000
deriving DecidableEq

namespace Moment

/-- The moment with these seconds and nanoseconds, if they are in range. Only the last second of a
minute may have the nanoseconds of a leap second. -/
def ofParts? (seconds : Int) (nanos : Nat) : Option Moment :=
  if h : (-8334601228800 ≤ seconds ∧ seconds ≤ 8210266876799) ∧
      (nanos < 1000000000 ∨ nanos < 2000000000 ∧ seconds % 60 = 59) then
    some ⟨seconds, nanos, h.1, by omega⟩
  else none

/-- The moment a number of milliseconds after 1970-01-01, if it is in range. -/
def ofMillis? (millis : Int) : Option Moment :=
  ofParts? (millis / 1000) ((millis % 1000).toNat * 1000000)

/-- The milliseconds since 1970-01-01, rounded down; those of a leap second run on from the second
before it. -/
def millis (moment : Moment) : Int :=
  moment.seconds * 1000 + (moment.nanos / 1000000 : Nat)

/-- The date of a moment. -/
def date (moment : Moment) : Date :=
  Date.ofDays (moment.seconds / 86400)

/-- The hour of the day. -/
def hour (moment : Moment) : Nat :=
  (moment.seconds % 86400).toNat / 3600

/-- The minute of the hour. -/
def minute (moment : Moment) : Nat :=
  (moment.seconds % 86400).toNat / 60 % 60

/-- The second of the minute, which is 60 in a leap second. -/
def second (moment : Moment) : Nat :=
  (moment.seconds % 86400).toNat % 60 + moment.nanos / 1000000000

/-- The moment of a date, a time of day and a distance from universal time in seconds, if there is
one. -/
def ofClock? (date : Date) (hour minute second nanos : Nat) (offset : Int) : Option Moment :=
  if date.Exists ∧ -262143 ≤ date.year ∧ date.year ≤ 262142 ∧ hour ≤ 23 ∧ minute ≤ 59 ∧
      second ≤ 60 then
    let leap := second / 60
    let ofDay := hour * 3600 + minute * 60 + (second - leap)
    ofParts? (date.toDays * 86400 + ofDay - offset) (nanos + leap * 1000000000)
  else none

end Moment

end DeviceModel
