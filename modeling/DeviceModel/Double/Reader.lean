import DeviceModel.Double.Round
import DeviceModel.Text.Case
import DeviceModel.Text.Decimal

/-!
# Reading doubles

`Double.ofText?` reads a decimal with an optional sign, fraction and exponent, or the name of an
infinity or of not a number in any case. The result is the double nearest to the decimal.
-/

namespace DeviceModel.Double

open Text

/-- The whole text read as an exponent with its letter, zero for no text. -/
def exponentOf? : List Char → Option Int
  | [] => some 0
  | c :: rest => if c = 'e' ∨ c = 'E' then int? rest else none

/-- The whole text read as a decimal without sign: digits on at least one side of the point. -/
def ofMagnitude? (negative : Bool) (s : List Char) : Option Double :=
  let (whole, rest) := spanDigits s
  let (fraction, rest) := match rest with
    | '.' :: rest => spanDigits rest
    | rest => ([], rest)
  if whole.isEmpty && fraction.isEmpty then none
  else (exponentOf? rest).map fun exponent =>
    ofDecimal negative (natOf (whole ++ fraction)) (exponent - fraction.length)

/-- The double nearest to the number that a text shows. -/
def ofText? (s : List Char) : Option Double :=
  let (negative, s) := readSign s
  let name := String.ofList (s.map Char.toLower)
  if name = "inf" ∨ name = "infinity" then some (infinity negative)
  else if name = "nan" then some nan
  else ofMagnitude? negative s

end DeviceModel.Double
