/-!
# Double precision numbers

A double is a finite dyadic number, an infinity or not a number. A finite one is held by its sign,
its significand and its exponent in canonical form, so equal doubles are equal as values and the
two zeros differ. `Double.ofBits` and `Double.toBits` convert from and to the 64-bit interchange
form; all patterns that are not a number are one value here, since no operation of this library
tells them apart.
-/

namespace DeviceModel

/-- Significand and exponent of a finite double: the significand has at most 53 bits, and all of
them unless the exponent is the least one. -/
def CanonicalDouble (significand exponent : Nat) : Prop :=
  significand < 0x20000000000000 ∧ exponent ≤ 2045 ∧ (exponent = 0 ∨ 0x10000000000000 ≤ significand)

instance (significand exponent : Nat) : Decidable (CanonicalDouble significand exponent) :=
  inferInstanceAs (Decidable (_ ∧ _ ∧ _))

/-- The finite double `± significand * 2 ^ (exponent - 1074)`. -/
structure FiniteDouble where
  negative : Bool
  significand : Nat
  exponent : Nat
  canonical : CanonicalDouble significand exponent
deriving DecidableEq

namespace FiniteDouble

/-- The zero of either sign. -/
def zero (negative : Bool) : FiniteDouble :=
  ⟨negative, 0, 0, by decide⟩

/-- The number of least positive doubles, `2 ^ (-1074)` each, that make up the magnitude. -/
def units (x : FiniteDouble) : Nat :=
  x.significand * Nat.pow 2 x.exponent

/-- The number of units in one. -/
def unitsPerOne : Nat :=
  Nat.pow 2 1074

/-- Whether the number is one of the two zeros. -/
def isZero (x : FiniteDouble) : Bool :=
  x.significand == 0

/-- The number with the other sign. -/
def neg (x : FiniteDouble) : FiniteDouble :=
  { x with negative := !x.negative }

/-- A magnitude with the sign of `x`. -/
def signed (x : FiniteDouble) (magnitude : Nat) : Int :=
  if x.negative then -(magnitude : Int) else magnitude

/-- The integer that the number is exactly equal to, if there is one. -/
def toInt? (x : FiniteDouble) : Option Int :=
  if x.units % unitsPerOne = 0 then some (x.signed (x.units / unitsPerOne)) else none

/-- The nearest integer, a half going away from zero. -/
def round (x : FiniteDouble) : Int :=
  x.signed ((2 * x.units + unitsPerOne) / (2 * unitsPerOne))

end FiniteDouble

/-- A double precision number. -/
inductive Double
  | nan
  | infinity (negative : Bool)
  | finite (x : FiniteDouble)
deriving DecidableEq

namespace Double

/-- The number with the other sign. -/
def neg : Double → Double
  | nan => nan
  | infinity negative => infinity (!negative)
  | finite x => finite x.neg

/-- The number as a finite one, if it is. -/
def finite? : Double → Option FiniteDouble
  | finite x => some x
  | _ => none

/-- The number that a pattern of 64 bits stands for. -/
def ofBits (bits : UInt64) : Double :=
  let negative := bits.toNat / 0x8000000000000000 % 2 == 1
  let biased := bits.toNat / 0x10000000000000 % 2048
  let fraction := bits.toNat % 0x10000000000000
  if infinite : biased = 2047 then
    if fraction = 0 then infinity negative else nan
  else if biased = 0 then
    finite ⟨negative, fraction, 0, by unfold CanonicalDouble; omega⟩
  else
    finite ⟨negative, 0x10000000000000 + fraction, biased - 1,
      by unfold CanonicalDouble; refine ⟨?_, ?_, ?_⟩ <;> omega⟩

/-- The pattern of 64 bits of a number, the quiet one for `nan`. -/
def toBits : Double → UInt64
  | nan => 0x7FF8000000000000
  | infinity negative => UInt64.ofNat (signBit negative + 0x7FF0000000000000)
  | finite x => UInt64.ofNat (signBit x.negative + (x.exponent * 0x10000000000000 + x.significand))
where
  /-- The value of the highest bit. -/
  signBit (negative : Bool) : Nat :=
    if negative then 0x8000000000000000 else 0

example : toBits (ofBits 0x3FF8000000000000) = 0x3FF8000000000000 := by decide

example : toBits (ofBits 0x8000000000000001) = 0x8000000000000001 := by decide

end Double

end DeviceModel
