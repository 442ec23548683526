import DeviceModel.Double.Shortest
import DeviceModel.Text.Decimal

/-!
# Doubles as text

A finite double is written by its shortest decimal in one of the layouts that a `DoubleLayout`
describes. `plainLayout` is the one of plain text: positional at every size, and a whole number
shows no point.
-/

namespace DeviceModel

open Text

/-- How a finite double is laid out. -/
structure DoubleLayout where
  /-- Which of two equally near shortest decimals is written. -/
  tie : Tie
  /-- Whether a whole number ends in `.0`. -/
  wholeMark : Bool
  /-- The places of the point, counted from the first digit, between which positional notation is
  used, the first excluded and the last included; everywhere if there are none. -/
  positional : Option (Int × Int)

namespace DoubleLayout

/-- Whether a point at this place is written positionally. -/
def isPositional (layout : DoubleLayout) (point : Int) : Bool :=
  match layout.positional with
  | none => true
  | some (low, high) => decide (low < point ∧ point ≤ high)

/-- Digits with the point after `point` of them, filled up with zeros on either side. -/
def placePoint (layout : DoubleLayout) (digits : List Char) (point : Int) : List Char :=
  if point ≤ 0 then "0.".toList ++ List.replicate (-point).toNat '0' ++ digits
  else
    let whole := digits ++ List.replicate (point.toNat - digits.length) '0'
    match whole.drop point.toNat with
    | [] => if layout.wholeMark then whole ++ ".0".toList else whole
    | fraction => whole.take point.toNat ++ '.' :: fraction

/-- Digits in exponent notation: the point follows the first digit, and the exponent has a sign. -/
def withExponent (digits : List Char) (point : Int) : List Char :=
  let exponent := point - 1
  let sign := if exponent < 0 then '-' else '+'
  let mantissa := match digits with
    | first :: rest@(_ :: _) => first :: '.' :: rest
    | digits => digits
  mantissa ++ 'e' :: sign :: natText exponent.natAbs

/-- The text of a magnitude other than zero. -/
def decimalText (layout : DoubleLayout) (decimal : Decimal) : List Char :=
  let digits := natText decimal.digits
  let point := decimal.exponent + digits.length
  if layout.isPositional point then layout.placePoint digits point else withExponent digits point

/-- The text of a finite double. -/
def text (layout : DoubleLayout) (x : FiniteDouble) : List Char :=
  let magnitude :=
    if x.isZero then if layout.wholeMark then "0.0".toList else ['0']
    else layout.decimalText (x.shortest layout.tie)
  if x.negative then '-' :: magnitude else magnitude

end DoubleLayout

/-- The layout of a double in plain text. -/
def plainLayout : DoubleLayout :=
  ⟨.upper, false, none⟩

/-- The text of a double in plain text. -/
def Double.plainText : Double → List Char
  | .nan => "NaN".toList
  | .infinity negative => if negative then "-inf".toList else "inf".toList
  | .finite x => plainLayout.text x

end DeviceModel
