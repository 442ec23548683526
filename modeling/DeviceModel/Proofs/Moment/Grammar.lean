import DeviceModel.Moment.Text
import DeviceModel.Proofs.Text.Blank

/-!
# What a time text may look like

A moment is written in one way and read in many. A field is one or two digits, with any number of
blanks in front (`ShowsField`); a year is up to four digits or a sign and any number of them, with
blanks in front as well (`ShowsYear`). A text shows a clock if it has the six fields in their order
with one sign between them and nothing after the last (`Shows`).

These are all texts that are read: one that shows a clock has the moment of this clock, if there is
one (`ofChars?_of_shows`), and a text that has a moment shows a clock that has it
(`ofChars?_eq_some_iff`).
-/

namespace DeviceModel.Moment

open Text

/-- A date and a time of day, not necessarily ones that exist. -/
structure Clock where
  date : Date
  hour : Nat
  minute : Nat
  second : Nat

/-- The moment at which a clock shows what it shows, if there is one. -/
def Clock.moment? (clock : Clock) : Option Moment :=
  ofClock? clock.date clock.hour clock.minute clock.second 0 0

/-! ### Fields -/

/-- The ways to write a number of at most two digits. -/
inductive ShowsField : List Char → Nat → Prop
  | intro {blanks digits : List Char} (blank : ∀ c ∈ blanks, isBlank c = true) (any : digits ≠ [])
      (all : ∀ c ∈ digits, c.isDigit = true) (short : digits.length ≤ 2) :
      ShowsField (blanks ++ digits) (natOf digits)

/-- The ways to write a year. -/
inductive ShowsYear : List Char → Int → Prop
  | unsigned {blanks digits : List Char} (blank : ∀ c ∈ blanks, isBlank c = true)
      (any : digits ≠ []) (all : ∀ c ∈ digits, c.isDigit = true) (short : digits.length ≤ 4) :
      ShowsYear (blanks ++ digits) (natOf digits)
  | signed {blanks digits : List Char} (negative : Bool) (blank : ∀ c ∈ blanks, isBlank c = true)
      (any : digits ≠ []) (all : ∀ c ∈ digits, c.isDigit = true) :
      ShowsYear (blanks ++ (if negative then '-' else '+') :: digits)
        (withSign negative (natOf digits))

/-- Digits are no blanks. -/
theorem not_isBlank_head {digits : List Char} (any : digits ≠ [])
    (all : ∀ c ∈ digits, c.isDigit = true) (rest : List Char) :
    ∀ c ∈ (digits ++ rest).head?, isBlank c = false := by
  intro c hc
  cases digits with
  | nil => contradiction
  | cons d digits =>
    obtain rfl : d = c := Option.some.inj hc
    exact isBlank_of_isDigit (all d List.mem_cons_self)

theorem not_isDigit_head {c : Char} (h : c.isDigit = false) (rest : List Char) :
    ∀ d ∈ (c :: rest).head?, d.isDigit = false := by
  rintro d ⟨⟩
  exact h

section

variable {s rest : List Char}

theorem readField?_of_shows {n : Nat} (shows : ShowsField s n)
    (stops : ∀ c ∈ rest.head?, c.isDigit = false) : readField? (s ++ rest) = some (n, rest) := by
  cases shows with
  | @intro blanks digits blank any all short =>
    have digits : readDigits? (some 2) (digits ++ rest) = some (digits, rest) := by
      apply readDigits?_append any all stops
      rintro _ ⟨⟩
      exact short
    rw [readField?, List.append_assoc, trimStart_append blank (not_isBlank_head any all rest),
      digits, Option.map_some]

theorem exists_shows_of_readField? {n : Nat} (read : readField? s = some (n, rest)) :
    ∃ front, ShowsField front n ∧ s = front ++ rest := by
  obtain ⟨blanks, blank, parts⟩ := exists_trimStart s
  obtain ⟨⟨digits, after⟩, run, same⟩ := Option.map_eq_some_iff.mp read
  obtain ⟨any, all, short, split⟩ := eq_append_of_readDigits? run
  obtain ⟨rfl, rfl⟩ := Prod.mk.inj same
  refine ⟨blanks ++ digits, .intro blank any all (short 2 rfl), ?_⟩
  rw [List.append_assoc, ← split]
  exact parts

theorem readYear?_of_shows {year : Int} (shows : ShowsYear s year)
    (stops : ∀ c ∈ rest.head?, c.isDigit = false) : readYear? (s ++ rest) = some (year, rest) := by
  cases shows with
  | @unsigned blanks digits blank any all short =>
    have run : readDigits? (some 4) (digits ++ rest) = some (digits, rest) := by
      apply readDigits?_append any all stops
      rintro _ ⟨⟩
      exact short
    have front (c : Char) (tail : List Char) (he : digits ++ rest = c :: tail) :
        c.isDigit = true := by
      obtain ⟨first, others, hp⟩ := List.exists_cons_of_ne_nil any
      rw [hp, List.cons_append, List.cons.injEq] at he
      apply all c
      rw [hp, he.1]
      exact List.mem_cons_self
    rw [readYear?, List.append_assoc, trimStart_append blank (not_isBlank_head any all rest)]
    split
    next tail he => exact absurd (front _ _ he) (by decide)
    next tail he => exact absurd (front _ _ he) (by decide)
    next =>
      rw [run]
      rfl
  | @signed blanks digits negative blank any all =>
    have run : readDigits? none (digits ++ rest) = some (digits, rest) :=
      readDigits?_append any all stops nofun
    rw [readYear?, List.append_assoc, List.cons_append]
    cases negative with
    | false =>
      rw [trimStart_append blank (by rintro _ ⟨⟩; decide)]
      simp [run, withSign]
    | true =>
      rw [trimStart_append blank (by rintro _ ⟨⟩; decide)]
      simp [run, withSign]

theorem exists_shows_of_readYear? {year : Int} (read : readYear? s = some (year, rest)) :
    ∃ front, ShowsYear front year ∧ s = front ++ rest := by
  obtain ⟨blanks, blank, parts⟩ := exists_trimStart s
  rw [readYear?] at read
  split at read
  next after start =>
    obtain ⟨⟨digits, _⟩, run, same⟩ := Option.map_eq_some_iff.mp read
    obtain ⟨any, all, _, split⟩ := eq_append_of_readDigits? run
    obtain ⟨rfl, rfl⟩ := Prod.mk.inj same
    refine ⟨blanks ++ '-' :: digits, .signed true blank any all, ?_⟩
    rw [parts, start, split]
    simp
  next after start =>
    obtain ⟨⟨digits, _⟩, run, same⟩ := Option.map_eq_some_iff.mp read
    obtain ⟨any, all, _, split⟩ := eq_append_of_readDigits? run
    obtain ⟨rfl, rfl⟩ := Prod.mk.inj same
    refine ⟨blanks ++ '+' :: digits, .signed false blank any all, ?_⟩
    rw [parts, start, split]
    simp
  next =>
    obtain ⟨⟨digits, _⟩, run, same⟩ := Option.map_eq_some_iff.mp read
    obtain ⟨any, all, short, split⟩ := eq_append_of_readDigits? run
    obtain ⟨rfl, rfl⟩ := Prod.mk.inj same
    refine ⟨blanks ++ digits, .unsigned blank any all (short 4 rfl), ?_⟩
    rw [List.append_assoc, ← split]
    exact parts

end

/-! ### The whole text -/

/-- The texts that show a clock. -/
inductive Shows : List Char → Clock → Prop
  | intro {clock : Clock} {year month day hour minute second : List Char}
      (shownYear : ShowsYear year clock.date.year)
      (shownMonth : ShowsField month clock.date.month) (shownDay : ShowsField day clock.date.day)
      (shownHour : ShowsField hour clock.hour) (shownMinute : ShowsField minute clock.minute)
      (shownSecond : ShowsField second clock.second) :
      Shows (year ++ '-' :: (month ++ '-' :: (day ++ 'T' :: (hour ++ ':' :: (minute ++ ':' ::
        second))))) clock

theorem expect?_self (c : Char) (rest : List Char) : expect? c (c :: rest) = some rest :=
  if_pos rfl

theorem eq_cons_of_expect? {c : Char} {s rest : List Char} (h : expect? c s = some rest) :
    s = c :: rest := by
  cases s with
  | nil => contradiction
  | cons d s =>
    rw [expect?] at h
    split at h
    next same => rw [same, Option.some.inj h]
    next => contradiction

/-- A reader goes on with what was read first. -/
theorem bind_of_eq_some {α β : Type} {read : Option α} {a : α} (h : read = some a)
    (next : α → Option β) : (read >>= next) = next a := by
  rw [h]
  rfl

/-- **A text that shows a clock is read as the moment of the clock.** -/
theorem ofChars?_of_shows {s : List Char} {clock : Clock} (shows : Shows s clock) :
    ofChars? s = clock.moment? := by
  cases shows with
  | @intro _ year month day hour minute second shownYear shownMonth shownDay shownHour shownMinute
      shownSecond =>
    have field {s : List Char} {n : Nat} (shown : ShowsField s n) {c : Char} (h : c.isDigit = false)
        (rest : List Char) : readField? (s ++ c :: rest) = some (n, c :: rest) :=
      readField?_of_shows shown (not_isDigit_head h rest)
    have last : readField? second = some (clock.second, []) := by
      have ended : ∀ c ∈ ([] : List Char).head?, c.isDigit = false := nofun
      have := readField?_of_shows shownSecond ended
      rwa [List.append_nil] at this
    rw [ofChars?]
    refine (bind_of_eq_some (readYear?_of_shows shownYear (not_isDigit_head (c := '-') rfl _))
      _).trans ?_
    refine (bind_of_eq_some (expect?_self '-' _) _).trans ?_
    refine (bind_of_eq_some (field shownMonth (c := '-') rfl _) _).trans ?_
    refine (bind_of_eq_some (expect?_self '-' _) _).trans ?_
    refine (bind_of_eq_some (field shownDay (c := 'T') rfl _) _).trans ?_
    refine (bind_of_eq_some (expect?_self 'T' _) _).trans ?_
    refine (bind_of_eq_some (field shownHour (c := ':') rfl _) _).trans ?_
    refine (bind_of_eq_some (expect?_self ':' _) _).trans ?_
    refine (bind_of_eq_some (field shownMinute (c := ':') rfl _) _).trans ?_
    refine (bind_of_eq_some (expect?_self ':' _) _).trans ?_
    exact bind_of_eq_some last _

/-- **A text has a moment exactly if it shows a clock that has one.** -/
theorem ofChars?_eq_some_iff {s : List Char} {moment : Moment} :
    ofChars? s = some moment ↔ ∃ clock, Shows s clock ∧ clock.moment? = some moment := by
  constructor
  · intro read
    rw [ofChars?] at read
    obtain ⟨⟨year, _⟩, readYear, read⟩ := Option.bind_eq_some_iff.mp read
    obtain ⟨_, hyphen, read⟩ := Option.bind_eq_some_iff.mp read
    obtain ⟨⟨month, _⟩, readMonth, read⟩ := Option.bind_eq_some_iff.mp read
    obtain ⟨_, hyphen', read⟩ := Option.bind_eq_some_iff.mp read
    obtain ⟨⟨day, _⟩, readDay, read⟩ := Option.bind_eq_some_iff.mp read
    obtain ⟨_, letter, read⟩ := Option.bind_eq_some_iff.mp read
    obtain ⟨⟨hour, _⟩, readHour, read⟩ := Option.bind_eq_some_iff.mp read
    obtain ⟨_, colon, read⟩ := Option.bind_eq_some_iff.mp read
    obtain ⟨⟨minute, _⟩, readMinute, read⟩ := Option.bind_eq_some_iff.mp read
    obtain ⟨_, colon', read⟩ := Option.bind_eq_some_iff.mp read
    obtain ⟨⟨second, rest⟩, readSecond, made⟩ := Option.bind_eq_some_iff.mp read
    obtain ⟨_, shownYear, rfl⟩ := exists_shows_of_readYear? readYear
    obtain rfl := eq_cons_of_expect? hyphen
    obtain ⟨_, shownMonth, rfl⟩ := exists_shows_of_readField? readMonth
    obtain rfl := eq_cons_of_expect? hyphen'
    obtain ⟨_, shownDay, rfl⟩ := exists_shows_of_readField? readDay
    obtain rfl := eq_cons_of_expect? letter
    obtain ⟨_, shownHour, rfl⟩ := exists_shows_of_readField? readHour
    obtain rfl := eq_cons_of_expect? colon
    obtain ⟨_, shownMinute, rfl⟩ := exists_shows_of_readField? readMinute
    obtain rfl := eq_cons_of_expect? colon'
    obtain ⟨_, shownSecond, rfl⟩ := exists_shows_of_readField? readSecond
    dsimp only at made
    split at made
    next ended =>
      obtain rfl : rest = [] := List.isEmpty_iff.mp ended
      rw [List.append_nil]
      exact ⟨⟨⟨year, month, day⟩, hour, minute, second⟩,
        .intro shownYear shownMonth shownDay shownHour shownMinute shownSecond, made⟩
    next => contradiction
  · rintro ⟨clock, shows, some⟩
    rw [ofChars?_of_shows shows, some]

end DeviceModel.Moment
