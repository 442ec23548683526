import DeviceModel.Double.Round
import Mathlib.Tactic.Ring
import Mathlib.Tactic.SplitIfs

/-!
# Integers as doubles

A quotient that is not too large is rounded to a finite double (`nearest_finite`), and to itself if
the bits that are cut off are zero (`nearest_exact`). So every integer of 64 bits has a finite
double (`ofInt_finite`), and one of at most 53 bits is its double exactly (`ofInt_exact`): rounding
the double gives the integer back (`round_of_units`).
-/

namespace DeviceModel

/-! ### Rounding a quotient -/

theorem div_le_roundEven (num den : Nat) : num / den ≤ roundEven num den := by
  unfold roundEven
  dsimp only
  split_ifs <;> omega

theorem roundEven_le (num den : Nat) : roundEven num den ≤ num / den + 1 := by
  unfold roundEven
  dsimp only
  split_ifs <;> omega

theorem roundEven_mul {den : Nat} (positive : 0 < den) (n : Nat) : roundEven (n * den) den = n := by
  simp [roundEven, positive]

namespace Double

open FiniteDouble

theorem finite?_finite (x : FiniteDouble) : (finite x).finite? = some x :=
  rfl

theorem ofParts_of_canonical (negative : Bool) {significand exponent : Nat}
    (h : CanonicalDouble significand exponent) :
    ofParts negative significand exponent = finite ⟨negative, significand, exponent, h⟩ :=
  dif_pos h

/-- A magnitude in units, cut to 53 bits. -/
theorem cut_bounds (units : Nat) :
    units / 2 ^ (units.log2 - 52) < 2 ^ 53 ∧
      (0 < units.log2 - 52 → 2 ^ 52 ≤ units / 2 ^ (units.log2 - 52)) := by
  constructor
  · rw [Nat.div_lt_iff_lt_mul (Nat.two_pow_pos _), ← Nat.pow_add]
    exact Nat.lt_of_lt_of_le Nat.lt_log2_self (Nat.pow_le_pow_right (by omega) (by omega))
  · intro long
    have positive : units ≠ 0 := by
      rintro rfl
      simp at long
    have length : 52 + (units.log2 - 52) = units.log2 := by omega
    rw [Nat.le_div_iff_mul_le (Nat.two_pow_pos _), ← Nat.pow_add, length]
    exact Nat.log2_self_le positive

theorem nearest_finite (negative : Bool) {num den : Nat}
    (bound : (num * unitsPerOne / den).log2 ≤ 2096) :
    ∃ x, nearest negative num den = finite x ∧ x.negative = negative := by
  unfold nearest
  dsimp only
  generalize hu : num * unitsPerOne = units at bound ⊢
  generalize he : (units / den).log2 - 52 = exponent
  have cut : units / (den * Nat.pow 2 exponent) = units / den / 2 ^ exponent :=
    (Nat.div_div_eq_div_mul _ _ _).symm
  obtain ⟨below, above⟩ := cut_bounds (units / den)
  have low := div_le_roundEven units (den * Nat.pow 2 exponent)
  have high := roundEven_le units (den * Nat.pow 2 exponent)
  rw [he] at below above
  rw [cut] at low high
  split
  · have h : CanonicalDouble 0x10000000000000 (exponent + 1) := by
      refine ⟨by omega, by omega, by omega⟩
    exact ⟨_, ofParts_of_canonical negative h, rfl⟩
  · have h : CanonicalDouble (roundEven units (den * Nat.pow 2 exponent)) exponent := by
      refine ⟨by omega, by omega, ?_⟩
      rcases Nat.eq_zero_or_pos exponent with zero | positive
      · exact Or.inl zero
      · exact Or.inr (by have := above positive; omega)
    exact ⟨_, ofParts_of_canonical negative h, rfl⟩

/-- Nothing is rounded if the bits that are cut off are zero. -/
theorem nearest_exact (negative : Bool) {num den significand : Nat} (positive : 0 < den)
    (bound : (num * unitsPerOne / den).log2 ≤ 2097)
    (whole : num * unitsPerOne =
      significand * (den * 2 ^ ((num * unitsPerOne / den).log2 - 52))) :
    ∃ x, nearest negative num den = finite x ∧ x.negative = negative ∧
      x.units * den = num * unitsPerOne := by
  obtain ⟨below, above⟩ := cut_bounds (num * unitsPerOne / den)
  unfold nearest
  dsimp only
  generalize num * unitsPerOne = units at *
  generalize he : (units / den).log2 - 52 = exponent at *
  have step : 0 < den * 2 ^ exponent := Nat.mul_pos positive (Nat.two_pow_pos exponent)
  have cut : units / den / 2 ^ exponent = significand := by
    rw [Nat.div_div_eq_div_mul, whole, Nat.mul_div_cancel _ step]
  have rounded : roundEven units (den * Nat.pow 2 exponent) = significand := by
    rw [Nat.pow_eq, whole, roundEven_mul step]
  rw [cut] at below above
  have short : significand ≠ 0x20000000000000 := by omega
  have h : CanonicalDouble significand exponent := by
    refine ⟨by omega, by omega, ?_⟩
    rcases Nat.eq_zero_or_pos exponent with zero | long
    · exact Or.inl zero
    · exact Or.inr (by have := above long; omega)
  rw [rounded, if_neg short]
  refine ⟨_, ofParts_of_canonical negative h, rfl, ?_⟩
  rw [whole, FiniteDouble.units, Nat.pow_eq, Nat.mul_assoc, Nat.mul_comm (2 ^ exponent) den]

/-! ### Integers -/

/-- The unit is a power of two. Its exponent has a name of its own so that nothing computes the
power. -/
theorem exists_unitsPerOne : ∃ bits, bits = 1074 ∧ unitsPerOne = 2 ^ bits := by
  unfold unitsPerOne
  generalize 1074 = bits
  exact ⟨bits, rfl, Nat.pow_eq⟩

theorem unitsPerOne_pos : 0 < unitsPerOne := by
  obtain ⟨bits, _, one⟩ := exists_unitsPerOne
  rw [one]
  exact Nat.two_pow_pos bits

theorem log2_mul_pow {m : Nat} (positive : 0 < m) (bits : Nat) :
    (m * 2 ^ bits).log2 = m.log2 + bits := by
  have ne : m ≠ 0 := Nat.ne_of_gt positive
  rw [Nat.log2_eq_iff (Nat.mul_ne_zero ne (Nat.ne_of_gt (Nat.two_pow_pos bits))), Nat.pow_add,
    Nat.add_right_comm, Nat.pow_add]
  exact ⟨Nat.mul_le_mul_right _ (Nat.log2_self_le ne),
    Nat.mul_lt_mul_of_pos_right Nat.lt_log2_self (Nat.two_pow_pos _)⟩

/-- The length of an integer in units. -/
theorem log2_mul_unitsPerOne {m : Nat} (positive : 0 < m) :
    (m * unitsPerOne).log2 = m.log2 + 1074 := by
  obtain ⟨bits, length, one⟩ := exists_unitsPerOne
  rw [one, log2_mul_pow positive, length]

theorem nearest_integer_finite (negative : Bool) {m : Nat} (bound : m < 2 ^ 64) :
    ∃ x, nearest negative m 1 = finite x ∧ x.negative = negative := by
  apply nearest_finite
  rw [Nat.div_one]
  rcases Nat.eq_zero_or_pos m with zero | positive
  · simp [zero]
  · have := (Nat.log2_lt (Nat.ne_of_gt positive)).mpr bound
    rw [log2_mul_unitsPerOne positive]
    omega

/-- An integer is its double if all its bits but the last zeros are at most 53. -/
theorem nearest_shifted_exact (negative : Bool) {m zeros : Nat} (bound : m < 2 ^ 53)
    (few : zeros ≤ 971) : ∃ x, nearest negative (m * 2 ^ zeros) 1 = finite x ∧
      x.negative = negative ∧ x.units = m * 2 ^ zeros * unitsPerOne := by
  obtain ⟨bits, length, one⟩ := exists_unitsPerOne
  have units : m * 2 ^ zeros * unitsPerOne = m * 2 ^ (zeros + bits) := by
    rw [one, Nat.pow_add, Nat.mul_assoc]
  have short : (m * 2 ^ (zeros + bits)).log2 ≤ 52 + (zeros + bits) := by
    rcases Nat.eq_zero_or_pos m with zero | positive
    · simp [zero]
    · have := (Nat.log2_lt (Nat.ne_of_gt positive)).mpr bound
      rw [log2_mul_pow positive]
      omega
  have whole : m * 2 ^ zeros * unitsPerOne =
      m * 2 ^ (zeros + bits - ((m * 2 ^ zeros * unitsPerOne / 1).log2 - 52)) *
        (1 * 2 ^ ((m * 2 ^ zeros * unitsPerOne / 1).log2 - 52)) := by
    rw [Nat.div_one, units]
    generalize he : (m * 2 ^ (zeros + bits)).log2 - 52 = exponent
    have split : zeros + bits - exponent + exponent = zeros + bits := by omega
    rw [Nat.one_mul, Nat.mul_assoc, ← Nat.pow_add, split]
  have small : (m * 2 ^ zeros * unitsPerOne / 1).log2 ≤ 2097 := by
    rw [Nat.div_one, units]
    omega
  obtain ⟨x, hx, sign, units⟩ := nearest_exact negative Nat.one_pos small whole
  exact ⟨x, hx, sign, by rwa [Nat.mul_one] at units⟩

theorem nearest_integer_exact (negative : Bool) {m : Nat} (bound : m < 2 ^ 53) :
    ∃ x, nearest negative m 1 = finite x ∧ x.negative = negative ∧
      x.units = m * unitsPerOne := by
  have shifted := nearest_shifted_exact negative bound (Nat.zero_le 971)
  rwa [Nat.pow_zero, Nat.mul_one] at shifted

theorem ofInt_natCast (m : Nat) : ofInt m = nearest false m 1 := by
  rw [ofInt, Int.natAbs_natCast, decide_eq_false (Int.not_lt.mpr (Int.natCast_nonneg m))]

/-- **Every integer of 64 bits, with or without sign, has a finite double.** -/
theorem ofInt_finite {n : Int} (bound : n.natAbs < 2 ^ 64) : ∃ x, ofInt n = finite x := by
  obtain ⟨x, hx, _⟩ := nearest_integer_finite (decide (n < 0)) bound
  exact ⟨x, hx⟩

/-- **An integer of 53 bits is its double.** -/
theorem ofInt_exact {n : Int} (bound : n.natAbs < 2 ^ 53) :
    ∃ x, ofInt n = finite x ∧ x.negative = decide (n < 0) ∧
      x.units = n.natAbs * unitsPerOne :=
  nearest_integer_exact (decide (n < 0)) bound

end Double

namespace FiniteDouble

theorem signed_natAbs {x : FiniteDouble} {n : Int} (sign : x.negative = decide (n < 0)) :
    x.signed n.natAbs = n := by
  rw [signed, sign]
  by_cases h : n < 0
  · simp only [h, decide_true, if_true]
    omega
  · simp only [h, decide_false, Bool.false_eq_true, if_false]
    omega

/-- A magnitude that is an integer is not rounded. -/
theorem round_eq_signed {x : FiniteDouble} {m : Nat} (units : x.units = m * unitsPerOne) :
    x.round = x.signed m := by
  have half : (2 * (m * unitsPerOne) + unitsPerOne) / (2 * unitsPerOne) = m := by
    have positive := Double.unitsPerOne_pos
    rw [Nat.div_eq_iff (by omega)]
    generalize unitsPerOne = one at *
    have product : 2 * (m * one) = m * (2 * one) := by ring
    omega
  rw [round, units, half]

/-- A double that is an integer is rounded to this integer. -/
theorem round_of_units {x : FiniteDouble} {n : Int} (sign : x.negative = decide (n < 0))
    (units : x.units = n.natAbs * unitsPerOne) : x.round = n := by
  rw [round_eq_signed units, signed_natAbs sign]

end FiniteDouble

end DeviceModel
