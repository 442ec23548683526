import DeviceModel.Moment.Text

/-!
# Moments in RFC 3339

The exchange form of a moment has its date, its time with as many groups of three decimals as it
needs, and the letter `Z`. Reading accepts blanks between the parts, a blank or a small letter
between date and time, any number of decimals of which nine count, and any distance from universal
time of less than a day.
-/

namespace DeviceModel.Moment

open Text

/-- The decimals of a second: none, three, six or nine. -/
def nanosText (nanos : Nat) : List Char :=
  if nanos = 0 then []
  else if nanos % 1000000 = 0 then '.' :: padded 3 (nanos / 1000000)
  else if nanos % 1000 = 0 then '.' :: padded 6 (nanos / 1000)
  else '.' :: padded 9 nanos

/-- A moment in exchange form. -/
def rfc3339 (moment : Moment) : String :=
  String.ofList (moment.chars ++ nanosText (moment.nanos % 1000000000) ++ ['Z'])

/-- The decimals of a second in nanoseconds, zero if there is no point. -/
def readNanos? : List Char → Option (Nat × List Char)
  | '.' :: rest => (readDigits? none rest).map fun (digits, rest) =>
      let leading := digits.take 9
      (natOf leading * Nat.pow 10 (9 - leading.length), rest)
  | s => some (0, s)

/-- Two digits in this order of magnitude, and the rest. -/
def readPair? : List Char → Option (Nat × List Char)
  | a :: b :: rest => if a.isDigit && b.isDigit then some (natOf [a, b], rest) else none
  | _ => none

/-- A distance from universal time as hours and minutes, in seconds. -/
def readHoursMinutes? (s : List Char) : Option (Int × List Char) := do
  let (hours, s) ← readPair? s
  let (minutes, s) ← readPair? (s.dropWhile fun c => c == ':' || isBlank c)
  if minutes < 60 then return ((hours * 3600 + minutes * 60 : Nat), s) else none

/-- A distance from universal time in seconds. -/
def readOffset? (s : List Char) : Option (Int × List Char) :=
  if (s.take 3).map Char.toLower = ['u', 't', 'c'] then some (0, s.drop 3)
  else
    match s with
    | 'Z' :: rest => some (0, rest)
    | 'z' :: rest => some (0, rest)
    | '+' :: rest => readHoursMinutes? rest
    | '-' :: rest => (readHoursMinutes? rest).map fun (offset, rest) => (-offset, rest)
    | '\u2212' :: rest => (readHoursMinutes? rest).map fun (offset, rest) => (-offset, rest)
    | _ => none

/-- The rest of a text after the sign between date and time. -/
def afterSeparator? : List Char → Option (List Char)
  | c :: rest => if c = 'T' ∨ c = 't' ∨ c = ' ' then some rest else none
  | [] => none

/-- The moment that a text in exchange form means. -/
def ofRfc3339? (s : String) : Option Moment := do
  let (year, s) ← readYear? s.toList
  let s ← expect? '-' (trimStart s)
  let (month, s) ← readField? s
  let s ← expect? '-' (trimStart s)
  let (day, s) ← readField? s
  let s ← afterSeparator? s
  let (hour, s) ← readField? s
  let s ← expect? ':' (trimStart s)
  let (minute, s) ← readField? s
  let s ← expect? ':' (trimStart s)
  let (second, s) ← readField? s
  let (nanos, s) ← readNanos? s
  let (offset, s) ← readOffset? (trimStart s)
  if (trimStart s).isEmpty ∧ offset.natAbs < 86400 then
    ofClock? ⟨year, month, day⟩ hour minute second nanos offset
  else none

end DeviceModel.Moment
