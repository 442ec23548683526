/-!
# Calendar

Dates of the proleptic Gregorian calendar and the days since 1970-01-01. Years are counted from
March, so that the leap day is the last day of its year: then the days before a month follow one
linear rule, and the days before a year another.
-/

namespace DeviceModel

/-- A year, month and day, not necessarily one that exists. -/
structure Date where
  year : Int
  month : Nat
  day : Nat
deriving DecidableEq, Repr

namespace Date

/-- Whether a year has a leap day. -/
def isLeap (year : Int) : Bool :=
  year % 4 == 0 && (year % 100 != 0 || year % 400 == 0)

/-- The number of days of a month. -/
def monthLength (year : Int) (month : Nat) : Nat :=
  if month = 2 then if isLeap year then 29 else 28
  else if month = 4 ∨ month = 6 ∨ month = 9 ∨ month = 11 then 30
  else 31

/-- Whether the date exists. -/
def Exists (date : Date) : Prop :=
  1 ≤ date.month ∧ date.month ≤ 12 ∧ 1 ≤ date.day ∧ date.day ≤ monthLength date.year date.month

instance (date : Date) : Decidable date.Exists :=
  inferInstanceAs (Decidable (_ ∧ _ ∧ _ ∧ _))

/-- The days from 0000-03-01 to 1970-01-01. -/
def epochOffset : Int := 719468

/-- The days from 1970-01-01 to a date. -/
def toDays (date : Date) : Int :=
  let year := if date.month ≤ 2 then date.year - 1 else date.year
  let month : Int := (date.month + 9) % 12
  365 * year + year / 4 - year / 100 + year / 400 + (153 * month + 2) / 5 + (date.day - 1) -
    epochOffset

/-- The date a number of days after 1970-01-01. The days are split into eras of 400 years,
centuries, cycles of four years, and years; the last century of an era and the last year of a cycle
may be one day longer than the others. -/
def ofDays (days : Int) : Date :=
  let era := (days + epochOffset) / 146097
  let dayOfEra := (days + epochOffset) % 146097
  let century := min (dayOfEra / 36524) 3
  let dayOfCentury := dayOfEra - 36524 * century
  let cycle := dayOfCentury / 1461
  let dayOfCycle := dayOfCentury % 1461
  let yearOfCycle := min (dayOfCycle / 365) 3
  let dayOfYear := dayOfCycle - 365 * yearOfCycle
  let month := (5 * dayOfYear + 2) / 153
  let day := dayOfYear - (153 * month + 2) / 5 + 1
  let year := 400 * era + 100 * century + 4 * cycle + yearOfCycle
  if month < 10 then ⟨year, (month + 3).toNat, day.toNat⟩
  else ⟨year + 1, (month - 9).toNat, day.toNat⟩

example : toDays ⟨2000, 2, 29⟩ = 11016 := by decide

example : ofDays 11016 = ⟨2000, 2, 29⟩ := by decide

example : ofDays (-1) = ⟨1969, 12, 31⟩ := by decide

end Date

end DeviceModel
