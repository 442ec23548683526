import DeviceModel.Double.Round

/-!
# The shortest decimal of a double

Every real number near a finite double rounds to it; the ends of that interval do so as well if the
significand is even. `FiniteDouble.shortest` is the decimal with the fewest digits in the interval
and, of those, the one nearest to the double. Where two are equally near, the caller says which.
-/

namespace DeviceModel

/-- The decimal `digits * 10 ^ exponent`. -/
structure Decimal where
  digits : Nat
  exponent : Int
deriving DecidableEq

/-- Which of two equally near decimals is taken. -/
inductive Tie
  | even
  | upper
deriving DecidableEq

namespace Decimal

/-- The same decimal with no zero at the end of its digits. The fuel is a bound on their number. -/
def strip (fuel : Nat) (d : Decimal) : Decimal :=
  match fuel with
  | 0 => d
  | fuel + 1 =>
    if d.digits % 10 = 0 then strip fuel ⟨d.digits / 10, d.exponent + 1⟩ else d

end Decimal

namespace FiniteDouble

/-- The unit in which the rounding interval has whole ends: a quarter of the least double. -/
def quartersPerOne : Nat :=
  Nat.pow 2 1076

/-- The magnitude in quarters. -/
def middle (x : FiniteDouble) : Nat :=
  4 * x.significand * Nat.pow 2 x.exponent

/-- The lower end of the interval of magnitudes that round to `x`, in quarters. Below a power of
two the next double is only half as far. -/
def lower (x : FiniteDouble) : Nat :=
  let gap := if x.significand = 0x10000000000000 ∧ 0 < x.exponent then 1 else 2
  (4 * x.significand - gap) * Nat.pow 2 x.exponent

/-- The upper end of the interval of magnitudes that round to `x`, in quarters. -/
def upper (x : FiniteDouble) : Nat :=
  (4 * x.significand + 2) * Nat.pow 2 x.exponent

/-- The exponent of the first decimal digit of a positive magnitude. Scaling by `10 ^ 400` makes
every positive double greater than one. -/
def leadingExponent (x : FiniteDouble) : Int :=
  (Double.decimalLength (x.middle * Nat.pow 10 400 / quartersPerOne) : Int) - 401

/-- The decimal with the given exponent that is nearest to `x` among those that round to `x`. Only
the two neighbours of `x` on the grid of that exponent need to be tried. -/
def onGrid? (tie : Tie) (x : FiniteDouble) (exponent : Int) : Option Decimal :=
  let scale := Nat.pow 10 (-exponent).toNat
  let step := quartersPerOne * Nat.pow 10 exponent.toNat
  let middle := x.middle * scale
  let below := middle / step
  let above := below + 1
  let even := x.significand % 2 = 0
  let belowFits := x.lower * scale < below * step ∨ even ∧ x.lower * scale = below * step
  let aboveFits := above * step < x.upper * scale ∨ even ∧ above * step = x.upper * scale
  let toBelow := middle - below * step
  let toAbove := above * step - middle
  let belowWins :=
    toBelow < toAbove ∨ toBelow = toAbove ∧ tie = .even ∧ below % 2 = 0
  if belowFits ∧ aboveFits then some ⟨if belowWins then below else above, exponent⟩
  else if belowFits then some ⟨below, exponent⟩
  else if aboveFits then some ⟨above, exponent⟩
  else none

/-- The first decimal found on the grids from `exponent` downwards, `fuel` of them at most. -/
def firstOnGrids? (tie : Tie) (x : FiniteDouble) (fuel : Nat) (exponent : Int) : Option Decimal :=
  match fuel with
  | 0 => none
  | fuel + 1 => (onGrid? tie x exponent).or (firstOnGrids? tie x fuel (exponent - 1))

/-- The shortest decimal that rounds to the magnitude of a double other than zero. Seventeen digits
always suffice. -/
def shortest (tie : Tie) (x : FiniteDouble) : Decimal :=
  ((firstOnGrids? tie x 17 x.leadingExponent).map (Decimal.strip 17)).getD ⟨x.units, -1074⟩

end FiniteDouble

end DeviceModel
