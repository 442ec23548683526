import DeviceModel.Double.Basic

/-!
# Rounding to a double

`Double.nearest` is the double nearest to a quotient of natural numbers, of two equally near ones
the one with the even significand. Conversion from an integer, product, quotient and the reading of
a decimal are this function at the exact result.
-/

namespace DeviceModel

/-- The integer nearest to `num / den`, a half going to the even neighbour. -/
def roundEven (num den : Nat) : Nat :=
  let quotient := num / den
  let twice := 2 * (num % den)
  if twice < den then quotient
  else if den < twice then quotient + 1
  else quotient + quotient % 2

namespace Double

/-- The double with this significand and exponent, an infinity if the exponent is too large. -/
def ofParts (negative : Bool) (significand exponent : Nat) : Double :=
  if h : CanonicalDouble significand exponent then finite ⟨negative, significand, exponent, h⟩
  else infinity negative

/-- The double nearest to `± num / den`. -/
def nearest (negative : Bool) (num den : Nat) : Double :=
  let exponent := (num * FiniteDouble.unitsPerOne / den).log2 - 52
  let significand := roundEven (num * FiniteDouble.unitsPerOne) (den * Nat.pow 2 exponent)
  if significand = 0x20000000000000 then ofParts negative 0x10000000000000 (exponent + 1)
  else ofParts negative significand exponent

/-- The double nearest to an integer. -/
def ofInt (n : Int) : Double :=
  nearest (decide (n < 0)) n.natAbs 1

/-- The product of two finite doubles, rounded once. -/
def mul (x y : FiniteDouble) : Double :=
  nearest (x.negative != y.negative) (x.units * y.units) (FiniteDouble.unitsPerOne * FiniteDouble.unitsPerOne)

/-- The quotient of two finite doubles, rounded once; the divisor is not zero. -/
def div (x y : FiniteDouble) : Double :=
  nearest (x.negative != y.negative) x.units y.units

/-- The number of decimal digits of a positive number; zero has one too. -/
def decimalLength (n : Nat) : Nat :=
  if n < 10 then 1 else decimalLength (n / 10) + 1
termination_by n

/-- The double nearest to `± digits * 10 ^ exponent`. A number of more than 310 digits before the
point is beyond every double, and one with more than 330 zeros after it is next to zero. -/
def ofDecimal (negative : Bool) (digits : Nat) (exponent : Int) : Double :=
  let point := exponent + decimalLength digits
  if digits = 0 then finite (.zero negative)
  else if 310 < point then infinity negative
  else if point < -330 then finite (.zero negative)
  else if 0 ≤ exponent then nearest negative (digits * Nat.pow 10 exponent.toNat) 1
  else nearest negative digits (Nat.pow 10 (-exponent).toNat)

example : toBits (ofInt 9007199254740993) = 0x4340000000000000 := by decide +kernel

example : toBits (ofDecimal false 1 (-1)) = 0x3FB999999999999A := by decide +kernel

end Double

end DeviceModel
