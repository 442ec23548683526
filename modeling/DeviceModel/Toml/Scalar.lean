import DeviceModel.Double.Reader
import DeviceModel.Document
import DeviceModel.Moment.Calendar
import DeviceModel.Text.Based
import DeviceModel.Toml.Lexical
import DeviceModel.Words

/-!
# Numbers, dates and times of a model file

Integers are decimal with an optional sign, or hexadecimal, octal or binary without one; single
underscores may stand between digits. A date, a time, or both with a distance from universal time
become a table with one key, whose value is their normal form.
-/

namespace DeviceModel.Toml

open Text

/-! ### Numbers -/

/-- Digits of some kind with single underscores between them, which are dropped, and the rest. -/
def readDigitGroups? (isDigit : Char → Bool) : List Char → Option (List Char × List Char)
  | [] => none
  | c :: rest => if isDigit c then some (more c rest) else none
where
  /-- The digits that follow `last`, with `last` in front. -/
  more (last : Char) : List Char → List Char × List Char
    | '_' :: c :: rest =>
      if isDigit c then
        let (digits, rest) := more c rest
        (last :: digits, rest)
      else ([last], '_' :: c :: rest)
    | c :: rest =>
      if isDigit c then
        let (digits, rest) := more c rest
        (last :: digits, rest)
      else ([last], c :: rest)
    | [] => ([last], [])

/-- The sign of a number as it is written, and the rest. -/
def readSignChar : List Char → List Char × List Char
  | '-' :: rest => (['-'], rest)
  | '+' :: rest => (['+'], rest)
  | s => ([], s)

/-- A decimal integer as it is written, without underscores: one digit, or digits that do not start
with zero. -/
def readDecimal? (s : List Char) : Option (List Char × List Char) :=
  let (sign, s) := readSignChar s
  match s with
  | '0' :: rest => some (sign ++ ['0'], rest)
  | s => (readDigitGroups? Char.isDigit s).map fun (digits, rest) => (sign ++ digits, rest)

/-- The fraction of a number as it is written. -/
def readFraction? : List Char → Option (List Char × List Char)
  | '.' :: rest => (readDigitGroups? Char.isDigit rest).map fun (digits, rest) =>
      ('.' :: digits, rest)
  | _ => none

/-- The exponent of a number as it is written. -/
def readExponent? : List Char → Option (List Char × List Char)
  | c :: rest =>
    if c = 'e' ∨ c = 'E' then
      let (sign, rest) := readSignChar rest
      (readDigitGroups? Char.isDigit rest).map fun (digits, rest) => ('e' :: sign ++ digits, rest)
    else none
  | [] => none

/-- The parts of a number after its integer: a fraction, an exponent, or both. -/
def readPoint? (s : List Char) : Option (List Char × List Char) :=
  match readFraction? s with
  | some (fraction, rest) =>
    match readExponent? rest with
    | some (exponent, rest) => some (fraction ++ exponent, rest)
    | none => some (fraction, rest)
  | none => readExponent? s

/-- A double. A number beyond every double is refused if it is positive. -/
def readDouble? (s : List Char) : Option (Double × List Char) := do
  let (whole, rest) ← readDecimal? s
  let (point, rest) ← readPoint? rest
  let x ← Double.ofText? (whole ++ point)
  if x = .infinity false then none else return (x, rest)

/-- An infinity or not a number. -/
def readSpecial? (s : List Char) : Option (Double × List Char) :=
  let (negative, s) := readSign s
  match s with
  | 'i' :: 'n' :: 'f' :: rest => some (.infinity negative, rest)
  | 'n' :: 'a' :: 'n' :: rest => some (.nan, rest)
  | _ => none

/-- An integer in another base, after its two leading characters. -/
def readBase? (base : Nat) (s : List Char) : Option (Document × List Char) := do
  let (digits, rest) ← readDigitGroups? (isBasedDigit base) s
  let n ← fitInt64? (← basedNat? base digits)
  return (.integer n.toInt, rest)

/-- An integer, which fits 64 bits. -/
def readInteger? (s : List Char) : Option (Document × List Char) :=
  match s with
  | '0' :: 'x' :: rest => readBase? 16 rest
  | '0' :: 'o' :: rest => readBase? 8 rest
  | '0' :: 'b' :: rest => readBase? 2 rest
  | s => do
    let (digits, rest) ← readDecimal? s
    let n ← fitInt64? (← int? digits)
    return (.integer n.toInt, rest)

/-! ### Dates and times -/

/-- A number of exactly this many digits, and the rest. -/
def readWidth? (width : Nat) (s : List Char) : Option (Nat × List Char) :=
  let digits := s.take width
  if digits.length = width ∧ digits.all Char.isDigit then some (natOf digits, s.drop width)
  else none

/-- A date in normal form. -/
def readDate? (s : List Char) : Option (List Char × List Char) := do
  let (year, s) ← readWidth? 4 s
  let '-' :: s := s | none
  let (month, s) ← readWidth? 2 s
  let '-' :: s := s | none
  let (day, s) ← readWidth? 2 s
  if (Date.mk year month day).Exists then
    return (padded 4 year ++ '-' :: padded 2 month ++ '-' :: padded 2 day, s)
  else none

/-- Decimals without zeros at their end. -/
def trimZeros (digits : List Char) : List Char :=
  (digits.reverse.dropWhile (· == '0')).reverse

/-- The decimals of a second in normal form: the first nine, without zeros at their end. -/
def readDecimals? : List Char → Option (List Char × List Char)
  | '.' :: rest => (readDigits? none rest).map fun (digits, rest) =>
      match trimZeros (digits.take 9) with
      | [] => ([], rest)
      | decimals => ('.' :: decimals, rest)
  | s => some ([], s)

/-- A time of day in normal form. -/
def readTime? (s : List Char) : Option (List Char × List Char) := do
  let (hour, s) ← readWidth? 2 s
  let ':' :: s := s | none
  let (minute, s) ← readWidth? 2 s
  let ':' :: s := s | none
  let (second, s) ← readWidth? 2 s
  let (decimals, s) ← readDecimals? s
  if hour ≤ 23 ∧ minute ≤ 59 ∧ second ≤ 60 then
    return (padded 2 hour ++ ':' :: padded 2 minute ++ ':' :: padded 2 second ++ decimals, s)
  else none

/-- A distance from universal time in normal form, nothing if there is none. A distance of zero
minutes is written with a plus. -/
def readOffset? : List Char → Option (List Char × List Char)
  | c :: s =>
    if c = 'Z' ∨ c = 'z' then some (['Z'], s)
    else if c = '+' ∨ c = '-' then do
      let (hour, s) ← readWidth? 2 s
      let ':' :: s := s | none
      let (minute, s) ← readWidth? 2 s
      let sign := if c = '-' ∧ 0 < hour + minute then '-' else '+'
      if hour ≤ 23 ∧ minute ≤ 59 then
        return (sign :: padded 2 hour ++ ':' :: padded 2 minute, s)
      else none
    else some ([], c :: s)
  | [] => some ([], [])

/-- The time of day and the distance after a date, nothing if there is none. -/
def readDayTime? (s : List Char) : Option (List Char × List Char) :=
  match s with
  | c :: rest =>
    if c = 'T' ∨ c = 't' ∨ c = ' ' then
      match readTime? rest with
      | some (time, rest) => (readOffset? rest).map fun (offset, rest) =>
          ('T' :: time ++ offset, rest)
      | none => some ([], s)
    else some ([], s)
  | [] => some ([], [])

/-- A date, a time or both in normal form. -/
def readDateTime? (s : List Char) : Option (List Char × List Char) :=
  match readDate? s with
  | some (date, rest) => (readDayTime? rest).map fun (time, rest) => (date ++ time, rest)
  | none => readTime? s

/-- The key under which the normal form of a date or time is kept. -/
def dateTimeKey : String := "$__toml_private_datetime"

/-- A number, a date or a time, and the rest. -/
def readNumber? (s : List Char) : Option (Document × List Char) :=
  match readDateTime? s with
  | some (text, rest) => some (.table [(dateTimeKey, .text (String.ofList text))], rest)
  | none =>
    match (readDouble? s).or (readSpecial? s) with
    | some (x, rest) => some (.real x, rest)
    | none => readInteger? s

end DeviceModel.Toml
