import DeviceModel.Moment.Basic
import DeviceModel.Text.Blank
import DeviceModel.Text.Decimal

/-!
# Time text

`Moment.text` writes a moment to the second as `2024-01-01T00:00:00`. A year of more than four
digits or before the year zero carries its sign. `Moment.ofText?` reads more than is written:
fields need no leading zeros, blanks may stand in front of a number, and a year with a sign may
have any number of digits. Nothing may follow the seconds.
-/

namespace DeviceModel.Moment

open Text

/-- The names of the parts of a time text, in the notation of format strings. -/
def format : String := "%Y-%m-%dT%H:%M:%S"

/-- A year: four digits, or a sign and at least four digits. -/
def yearText (year : Int) : List Char :=
  if 0 ≤ year ∧ year ≤ 9999 then padded 4 year.toNat
  else (if year < 0 then '-' else '+') :: padded 4 year.natAbs

/-- A moment to the second. -/
def chars (moment : Moment) : List Char :=
  yearText moment.date.year ++ '-' :: padded 2 moment.date.month ++
    '-' :: padded 2 moment.date.day ++ 'T' :: padded 2 moment.hour ++
    ':' :: padded 2 moment.minute ++ ':' :: padded 2 moment.second

/-- The text of a moment to the second. -/
def text (moment : Moment) : String :=
  String.ofList moment.chars

/-- The text of the moment a number of milliseconds after 1970-01-01, if it is in range. -/
def textOfMillis? (millis : Int) : Option String :=
  (ofMillis? millis).map text

/-- A number of at most two digits, with blanks in front. -/
def readField? (s : List Char) : Option (Nat × List Char) :=
  (readDigits? (some 2) (trimStart s)).map fun (digits, rest) => (natOf digits, rest)

/-- A year, with blanks in front. -/
def readYear? (s : List Char) : Option (Int × List Char) :=
  match trimStart s with
  | '-' :: rest => (readDigits? none rest).map fun (digits, rest) => (-(natOf digits : Int), rest)
  | '+' :: rest => (readDigits? none rest).map fun (digits, rest) => ((natOf digits : Int), rest)
  | rest => (readDigits? (some 4) rest).map fun (digits, rest) => ((natOf digits : Int), rest)

/-- The rest of a text after an expected character. -/
def expect? (c : Char) : List Char → Option (List Char)
  | head :: rest => if head = c then some rest else none
  | [] => none

/-- The moment that a time text means. -/
def ofChars? (s : List Char) : Option Moment := do
  let (year, s) ← readYear? s
  let s ← expect? '-' s
  let (month, s) ← readField? s
  let s ← expect? '-' s
  let (day, s) ← readField? s
  let s ← expect? 'T' s
  let (hour, s) ← readField? s
  let s ← expect? ':' s
  let (minute, s) ← readField? s
  let s ← expect? ':' s
  let (second, s) ← readField? s
  if s.isEmpty then ofClock? ⟨year, month, day⟩ hour minute second 0 0 else none

/-- The moment that a time text means. -/
def ofText? (s : String) : Option Moment :=
  ofChars? s.toList

end DeviceModel.Moment
