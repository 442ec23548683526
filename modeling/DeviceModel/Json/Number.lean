import DeviceModel.Document
import DeviceModel.Double.Round
import DeviceModel.Text.Decimal

/-!
# Numbers in JSON text

A number is scanned into its parts and then given a value. Integers that fit 64 bits, with or
without sign, keep their value. Any other number is a double: its leading digits are gathered for
as long as they fit 64 bits, and the double nearest to them is scaled by a power of ten that is
itself a double. Each of the two steps rounds, so the result may differ from the nearest double in
the last place when there are many digits. A number beyond every double has no value.
-/

namespace DeviceModel.Json

open Text

/-- The parts of a number: its digits before the point, those after it, and its exponent. -/
structure NumberText where
  negative : Bool
  whole : List Char
  fraction : List Char
  exponent : Option Int
deriving DecidableEq

namespace NumberText

/-- The digits before the point: a single zero, or digits that do not start with one. -/
def readWhole? : List Char → Option (List Char × List Char)
  | '0' :: rest =>
    match rest with
    | c :: _ => if c.isDigit then none else some (['0'], rest)
    | [] => some (['0'], rest)
  | s => readDigits? none s

/-- The digits after a point, or none if there is no point. -/
def readFraction? : List Char → Option (List Char × List Char)
  | '.' :: rest => readDigits? none rest
  | s => some ([], s)

/-- The exponent after its letter, or none if there is no letter. -/
def readExponent? : List Char → Option (Option Int × List Char)
  | c :: rest =>
    if c = 'e' ∨ c = 'E' then
      let (negative, rest) := readSign rest
      (readDigits? none rest).map fun (digits, rest) =>
        (some (withSign negative (natOf digits)), rest)
    else some (none, c :: rest)
  | [] => some (none, [])

/-- The number at the beginning of a text, and the rest. -/
def read? (s : List Char) : Option (NumberText × List Char) := do
  let (negative, s) := match s with
    | '-' :: rest => (true, rest)
    | _ => (false, s)
  let (whole, s) ← readWhole? s
  let (fraction, s) ← readFraction? s
  let (exponent, s) ← readExponent? s
  return (⟨negative, whole, fraction, exponent⟩, s)

/-- The value of digits after a number, for as long as it fits 64 bits, and the digits left over. -/
def gather (value : Nat) : List Char → Nat × List Char
  | [] => (value, [])
  | c :: rest =>
    let next := 10 * value + digitValue c
    if next < 0x10000000000000000 then gather next rest else (value, c :: rest)

/-- The double nearest to a power of ten. -/
def powerOfTen (exponent : Nat) : Double :=
  .nearest false (Nat.pow 10 exponent) 1

/-- A double times a power of ten, if the result is finite. Below the least power of ten that is a
double the number is divided in several steps, `fuel` of them at most. -/
def scale? (fuel : Nat) (x : FiniteDouble) (exponent : Int) : Option FiniteDouble :=
  if exponent.natAbs ≤ 308 then
    (powerOfTen exponent.natAbs).finite?.bind fun power =>
      (if 0 ≤ exponent then Double.mul x power else Double.div x power).finite?
  else if x.isZero then some x
  else if 0 ≤ exponent then none
  else
    match fuel with
    | 0 => none
    | fuel + 1 =>
      (powerOfTen 308).finite?.bind fun power =>
        (Double.div x power).finite?.bind fun x => scale? fuel x (exponent + 308)

/-- The value of a number as a double, if there is one. Three divisions by `10 ^ 308` take every
number of 64 bits to zero. -/
def toDouble? (number : NumberText) : Option FiniteDouble :=
  let (leading, skipped) := gather 0 number.whole
  let (significand, unused) := gather leading number.fraction
  let places := number.fraction.length - unused.length
  let exponent := (skipped.length : Int) - places + number.exponent.getD 0
  (Double.ofInt significand).finite?.bind fun x =>
    (scale? 4 x exponent).map fun x => if number.negative then x.neg else x

/-- Whether a number is written as an integer. -/
def isWhole (number : NumberText) : Bool :=
  number.fraction.isEmpty && number.exponent.isNone

/-- The value of a number. Minus zero is a double, since no integer keeps its sign. -/
def toDocument (number : NumberText) : Document :=
  let magnitude := natOf number.whole
  if number.isWhole && !number.negative && magnitude < 0x10000000000000000 then .integer magnitude
  else if number.isWhole && number.negative && 0 < magnitude && magnitude ≤ 0x8000000000000000 then
    .integer (-(magnitude : Int))
  else
    match number.toDouble? with
    | some x => .real (.finite x)
    | none => .unreadable

end NumberText

end DeviceModel.Json
