import DeviceModel.Moment.Calendar
import Mathlib.Tactic.IntervalCases
import Mathlib.Tactic.SplitIfs

/-!
# Days and dates

`Date.ofDays` splits days into a year that begins in March and a day of that year; the parts are
those of `exists_marchDate`. So the date it finds exists (`exists_ofDays`) and is found on that day
(`toDays_ofDays`). Every date that exists has such parts (`exists_eq_ofMarchDate`), and only one
year and one day of it are so many days away (`eq_of_daysBefore_add_eq`); so each date is the one of
its days (`ofDays_toDays`).

The days of a date are those that counting the years and the months one after the other gives
(`toDays_eq_count`).
-/

namespace DeviceModel.Date

/-- The date of a day of a year that begins in March. -/
def ofMarchDate (year day : Int) : Date :=
  let month := (5 * day + 2) / 153
  let dayOfMonth := day - (153 * month + 2) / 5 + 1
  if month < 10 then ⟨year, (month + 3).toNat, dayOfMonth.toNat⟩
  else ⟨year + 1, (month - 9).toNat, dayOfMonth.toNat⟩

/-- The days before a year that begins in March, counted from the year zero. -/
def daysBefore (year : Int) : Int :=
  365 * year + year / 4 - year / 100 + year / 400

theorem isLeap_iff {year : Int} :
    isLeap year ↔ year % 4 = 0 ∧ (year % 100 ≠ 0 ∨ year % 400 = 0) := by
  simp [isLeap]

/-- The days of an era are split without rest, and only a leap year has a last day more. -/
theorem exists_marchDate (days : Int) :
    ∃ year day : Int, 0 ≤ day ∧ day ≤ 365 ∧ (day = 365 → isLeap (year + 1)) ∧
      days + epochOffset = daysBefore year + day ∧ ofDays days = ofMarchDate year day := by
  let era := (days + epochOffset) / 146097
  let dayOfEra := (days + epochOffset) % 146097
  let century := min (dayOfEra / 36524) 3
  let dayOfCentury := dayOfEra - 36524 * century
  let cycle := dayOfCentury / 1461
  let dayOfCycle := dayOfCentury % 1461
  let yearOfCycle := min (dayOfCycle / 365) 3
  have eraBounds : 0 ≤ dayOfEra ∧ dayOfEra ≤ 146096 := by omega
  have centuryBounds : 0 ≤ century ∧ century ≤ 3 ∧ 0 ≤ dayOfCentury ∧ dayOfCentury ≤ 36524 ∧
      (dayOfCentury = 36524 → century = 3) := by omega
  have cycleBounds : 0 ≤ cycle ∧ cycle ≤ 24 ∧ 0 ≤ dayOfCycle ∧ dayOfCycle ≤ 1460 ∧
      (cycle = 24 → dayOfCycle = 1460 → century = 3) := by omega
  have yearBounds : 0 ≤ yearOfCycle ∧ yearOfCycle ≤ 3 := by omega
  refine ⟨400 * era + 100 * century + 4 * cycle + yearOfCycle, dayOfCycle - 365 * yearOfCycle,
    by omega, by omega, ?_, ?_, rfl⟩
  · intro last
    rw [isLeap_iff]
    omega
  · have fours : (400 * era + 100 * century + 4 * cycle + yearOfCycle) / 4 =
        100 * era + 25 * century + cycle := by omega
    have hundreds : (400 * era + 100 * century + 4 * cycle + yearOfCycle) / 100 =
        4 * era + century := by omega
    have eras : (400 * era + 100 * century + 4 * cycle + yearOfCycle) / 400 = era := by omega
    rw [daysBefore, fours, hundreds, eras]
    omega

/-! ### From the date to the days -/

theorem toDays_ofMarchDate {year day : Int} (first : 0 ≤ day) (last : day ≤ 365) :
    (ofMarchDate year day).toDays = daysBefore year + day - epochOffset := by
  have monthBounds : 0 ≤ (5 * day + 2) / 153 ∧ (5 * day + 2) / 153 ≤ 11 := by omega
  simp only [ofMarchDate]
  generalize hm : (5 * day + 2) / 153 = month at monthBounds ⊢
  have positive : 0 ≤ day - (153 * month + 2) / 5 := by omega
  split
  · have sameMonth : (((month + 3).toNat : Int) + 9) % 12 = month := by omega
    have march : ¬ (month + 3).toNat ≤ 2 := by omega
    simp only [toDays, if_neg march, sameMonth, daysBefore]
    omega
  · have sameMonth : (((month - 9).toNat : Int) + 9) % 12 = month := by omega
    have january : (month - 9).toNat ≤ 2 := by omega
    simp only [toDays, if_pos january, sameMonth, daysBefore, Int.add_sub_cancel]
    omega

theorem toDays_ofDays (days : Int) : (ofDays days).toDays = days := by
  obtain ⟨year, day, first, last, _, he, hd⟩ := exists_marchDate days
  rw [hd, toDays_ofMarchDate first last]
  omega

/-! ### The date exists -/

theorem exists_ofMarchDate {year day : Int} (first : 0 ≤ day) (last : day ≤ 365)
    (leap : day = 365 → isLeap (year + 1)) : (ofMarchDate year day).Exists := by
  have monthBounds : 0 ≤ (5 * day + 2) / 153 ∧ (5 * day + 2) / 153 ≤ 11 := by omega
  have short (ordinary : ¬ isLeap (year + 1)) : day ≤ 364 := by
    have other : day ≠ 365 := fun he => ordinary (leap he)
    omega
  simp only [ofMarchDate]
  generalize hm : (5 * day + 2) / 153 = month at monthBounds ⊢
  split
  · refine ⟨by dsimp only; omega, by dsimp only; omega, by dsimp only; omega, ?_⟩
    simp only [monthLength]
    split_ifs <;> omega
  · refine ⟨by dsimp only; omega, by dsimp only; omega, by dsimp only; omega, ?_⟩
    simp only [monthLength]
    split_ifs with february leapYear
    · omega
    · have := short leapYear
      omega
    · omega
    · omega

theorem exists_ofDays (days : Int) : (ofDays days).Exists := by
  obtain ⟨year, day, first, last, leap, _, hd⟩ := exists_marchDate days
  rw [hd]
  exact exists_ofMarchDate first last leap

/-! ### From the days to the date -/

theorem daysBefore_succ (year : Int) :
    daysBefore (year + 1) = daysBefore year + if isLeap (year + 1) then 366 else 365 := by
  rw [daysBefore, daysBefore]
  split_ifs with leap
  all_goals
    rw [isLeap_iff] at leap
    omega

theorem daysBefore_mono {a b : Int} (h : a ≤ b) : daysBefore a ≤ daysBefore b := by
  rw [daysBefore, daysBefore]
  omega

/-- The days of a year come before the next year. -/
theorem daysBefore_add_lt {year day : Int} (last : day ≤ 365)
    (leap : day = 365 → isLeap (year + 1)) : daysBefore year + day < daysBefore (year + 1) := by
  rw [daysBefore_succ]
  split_ifs with h
  · omega
  · have other : day ≠ 365 := fun he => h (leap he)
    omega

theorem eq_of_daysBefore_add_eq {year day year' day' : Int} (first : 0 ≤ day) (last : day ≤ 365)
    (leap : day = 365 → isLeap (year + 1)) (first' : 0 ≤ day') (last' : day' ≤ 365)
    (leap' : day' = 365 → isLeap (year' + 1))
    (same : daysBefore year + day = daysBefore year' + day') : year = year' ∧ day = day' := by
  have before := daysBefore_add_lt last leap
  have before' := daysBefore_add_lt last' leap'
  have years : year = year' := by
    rcases lt_trichotomy year year' with less | he | more
    · have := daysBefore_mono (show year + 1 ≤ year' by omega)
      omega
    · exact he
    · have := daysBefore_mono (show year' + 1 ≤ year by omega)
      omega
  rw [years] at same
  exact ⟨years, by omega⟩

/-- No month is longer than the linear rule leaves room for. -/
theorem monthLength_le (year : Int) {month : Nat} (first : 1 ≤ month) (last : month ≤ 12) :
    (monthLength year month : Int) ≤ (153 * (((month : Int) + 9) % 12 + 1) + 2) / 5 -
      (153 * (((month : Int) + 9) % 12) + 2) / 5 := by
  unfold monthLength
  interval_cases month <;> split_ifs <;> omega

theorem exists_eq_ofMarchDate {date : Date} (real : date.Exists) :
    ∃ year day : Int, 0 ≤ day ∧ day ≤ 365 ∧ (day = 365 → isLeap (year + 1)) ∧
      date = ofMarchDate year day := by
  obtain ⟨year, month, day⟩ := date
  obtain ⟨first, last, firstDay, lastDay⟩ := real
  dsimp only at first last firstDay lastDay
  have length := monthLength_le year first last
  have february : month = 2 → monthLength year month = if isLeap year then 29 else 28 := by
    rintro rfl
    rfl
  generalize hm : ((month : Int) + 9) % 12 = march at length
  generalize hd : (153 * march + 2) / 5 + ((day : Int) - 1) = dayOfYear
  have back : (5 * dayOfYear + 2) / 153 = march := by omega
  by_cases january : month ≤ 2
  · -- January and February belong to the year that began in March before them
    have winter : march = month + 9 := by omega
    clear hm
    refine ⟨year - 1, dayOfYear, by omega, ?_, ?_, ?_⟩
    · split_ifs at february <;> omega
    · rw [Int.sub_add_cancel]
      intro leapDay
      split_ifs at february with leap
      · exact leap
      · omega
    · rw [ofMarchDate]
      simp only [back]
      rw [if_neg (by omega), mk.injEq]
      omega
  · have spring : march = month - 3 := by omega
    clear hm
    refine ⟨year, dayOfYear, by omega, by omega, by omega, ?_⟩
    rw [ofMarchDate]
    simp only [back]
    rw [if_pos (by omega), mk.injEq]
    omega

theorem ofDays_toDays {date : Date} (real : date.Exists) : ofDays date.toDays = date := by
  obtain ⟨year, day, first, last, leap, rfl⟩ := exists_eq_ofMarchDate real
  obtain ⟨year', day', first', last', leap', he, hd⟩ :=
    exists_marchDate (ofMarchDate year day).toDays
  rw [toDays_ofMarchDate first last, Int.sub_add_cancel] at he
  obtain ⟨rfl, rfl⟩ := eq_of_daysBefore_add_eq first last leap first' last' leap' he
  exact hd

theorem daysBefore_add_le (year : Int) : daysBefore (year - 1) + 365 ≤ daysBefore year := by
  have step := daysBefore_succ (year - 1)
  rw [Int.sub_add_cancel] at step
  split_ifs at step <;> omega

/-- The dates of some years lie between the first day and the last day of them. -/
theorem toDays_bounds {date : Date} (real : date.Exists) {low high : Int} (first : low ≤ date.year)
    (last : date.year ≤ high) :
    toDays ⟨low, 1, 1⟩ ≤ date.toDays ∧ date.toDays ≤ toDays ⟨high, 12, 31⟩ := by
  obtain ⟨firstMonth, lastMonth, firstDay, lastDay⟩ := real
  have length : monthLength date.year date.month ≤ 31 := by
    unfold monthLength
    split_ifs <;> omega
  have start : toDays ⟨low, 1, 1⟩ = daysBefore (low - 1) + 306 - epochOffset := by
    simp [toDays, daysBefore]
  have stop : toDays ⟨high, 12, 31⟩ = daysBefore high + 305 - epochOffset := by
    simp [toDays, daysBefore]
    omega
  have step := daysBefore_add_le date.year
  have before := daysBefore_mono (show low - 1 ≤ date.year - 1 by omega)
  have after := daysBefore_mono last
  rw [start, stop, toDays]
  by_cases january : date.month ≤ 2
  · simp only [if_pos january, ← daysBefore.eq_def]
    omega
  · simp only [if_neg january, ← daysBefore.eq_def]
    omega

/-! ### Days counted one after the other -/

/-- The days of that many years, from the year zero on. -/
def daysOfYears : Nat → Nat
  | 0 => 0
  | years + 1 => daysOfYears years + if isLeap years then 366 else 365

/-- The days of that many months of a year. -/
def daysOfMonths (year : Int) : Nat → Nat
  | 0 => 0
  | months + 1 => daysOfMonths year months + monthLength year (months + 1)

/-- The days from the beginning of the year zero to a date, year by year and month by month. -/
def count (date : Date) : Nat :=
  daysOfYears date.year.toNat + daysOfMonths date.year (date.month - 1) + (date.day - 1)

theorem daysOfYears_eq (years : Nat) :
    (daysOfYears years : Int) = daysBefore (years - 1) + 366 := by
  induction years with
  | zero => rfl
  | succ years ih =>
    have step := daysBefore_succ (years - 1)
    rw [Int.sub_add_cancel] at step
    rw [daysOfYears, Nat.cast_add, ih, Nat.cast_succ, Int.add_sub_cancel, step]
    split_ifs <;> omega

theorem daysOfMonths_eq (year : Int) {month : Nat} (first : 1 ≤ month) (last : month ≤ 12) :
    (daysOfMonths year (month - 1) : Int) =
      if month ≤ 2 then (153 * (((month : Int) + 9) % 12) + 2) / 5 - 306
      else (153 * (((month : Int) + 9) % 12) + 2) / 5 + 59 + if isLeap year then 1 else 0 := by
  interval_cases month <;> simp [daysOfMonths, monthLength]
  all_goals split_ifs <;> rfl

theorem count_epoch : (count ⟨1970, 1, 1⟩ : Int) = 719528 := by
  rw [count, Nat.cast_add, Nat.cast_add, daysOfYears_eq]
  rfl

/-- **The days of a date are found by counting** the years, the months and the days. -/
theorem toDays_eq_count {date : Date} (real : date.Exists) (year : 0 ≤ date.year) :
    date.toDays = (date.count : Int) - count ⟨1970, 1, 1⟩ := by
  obtain ⟨first, last, firstDay, _⟩ := real
  have months := daysOfMonths_eq date.year first last
  have years := daysOfYears_eq date.year.toNat
  have offset : epochOffset = 719468 := rfl
  have step := daysBefore_succ (date.year - 1)
  rw [Int.toNat_of_nonneg year] at years
  rw [Int.sub_add_cancel] at step
  rw [count_epoch, count, Nat.cast_add, Nat.cast_add, years, months, toDays]
  by_cases january : date.month ≤ 2
  · simp only [if_pos january, daysBefore]
    omega
  · have whole : daysBefore (date.year - 1) + 366 + (if isLeap date.year then 1 else 0) =
        daysBefore date.year + 1 := by
      rw [step]
      split_ifs <;> omega
    rw [daysBefore.eq_def date.year] at whole
    simp only [if_neg january]
    omega

end DeviceModel.Date
