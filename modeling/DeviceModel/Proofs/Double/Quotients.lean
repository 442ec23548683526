import DeviceModel.Proofs.Double.Integers

/-!
# Products and quotients of doubles

Rounding a quotient depends on its value only: a common factor can be taken out
(`nearest_mul_mul`), and the sign is carried through (`nearest_not`). What is rounded is a number of
steps (`parts_of_nearest`), and the result is of the same size up to a factor of two
(`units_near`). So a product or a quotient of doubles of moderate size is finite (`exists_mul`,
`exists_div`).
-/

namespace DeviceModel

theorem roundEven_mul_mul (num den : Nat) {factor : Nat} (positive : 0 < factor) :
    roundEven (num * factor) (den * factor) = roundEven num den := by
  unfold roundEven
  dsimp only
  rw [Nat.mul_div_mul_right _ _ positive, Nat.mul_mod_mul_right, ← Nat.mul_assoc]
  simp only [Nat.mul_lt_mul_right positive]

namespace Double

open FiniteDouble

/-- A common factor does not count. -/
theorem nearest_mul_mul (negative : Bool) (num den : Nat) {factor : Nat} (positive : 0 < factor) :
    nearest negative (num * factor) (den * factor) = nearest negative num den := by
  have value (n : Nat) : num * factor * n = num * n * factor := Nat.mul_right_comm _ _ _
  have step (n : Nat) : den * factor * n = den * n * factor := Nat.mul_right_comm _ _ _
  unfold nearest
  dsimp only
  rw [value, step, Nat.mul_div_mul_right _ _ positive, roundEven_mul_mul _ _ positive]

theorem ofParts_not (negative : Bool) (significand exponent : Nat) :
    ofParts (!negative) significand exponent = (ofParts negative significand exponent).neg := by
  unfold ofParts
  split <;> rfl

/-- The sign does not count for the magnitude. -/
theorem nearest_not (negative : Bool) (num den : Nat) :
    nearest (!negative) num den = (nearest negative num den).neg := by
  unfold nearest
  dsimp only
  split <;> exact ofParts_not _ _ _

theorem parts_of_ofParts {negative : Bool} {significand exponent : Nat} {x : FiniteDouble}
    (h : ofParts negative significand exponent = finite x) :
    x.negative = negative ∧ x.significand = significand ∧ x.exponent = exponent := by
  unfold ofParts at h
  split at h
  · obtain rfl := finite.inj h
    exact ⟨rfl, rfl, rfl⟩
  · contradiction

/-- A quotient is rounded to a whole number of steps. The significand is this number, or half of it
if it is too long by a bit, which is a zero. -/
theorem parts_of_nearest {negative : Bool} {num den exponent : Nat} {x : FiniteDouble}
    (h : nearest negative num den = finite x)
    (size : (num * unitsPerOne / den).log2 - 52 = exponent) :
    x.negative = negative ∧
      x.units = roundEven (num * unitsPerOne) (den * 2 ^ exponent) * 2 ^ exponent ∧
      (roundEven (num * unitsPerOne) (den * 2 ^ exponent) % 2 = 0 → x.significand % 2 = 0) := by
  unfold nearest at h
  dsimp only at h
  rw [size, Nat.pow_eq] at h
  split at h
  case isTrue long =>
    obtain ⟨sign, significand, scale⟩ := parts_of_ofParts h
    rw [units, long, significand, scale, Nat.pow_eq, Nat.pow_succ]
    exact ⟨sign, by omega, fun _ => rfl⟩
  case isFalse =>
    obtain ⟨sign, significand, scale⟩ := parts_of_ofParts h
    rw [units, significand, scale]
    exact ⟨sign, rfl, id⟩

theorem negative_of_nearest {negative : Bool} {num den : Nat} {x : FiniteDouble}
    (h : nearest negative num den = finite x) : x.negative = negative :=
  (parts_of_nearest h rfl).1

/-! ### Size -/

/-- Rounding changes a number by less than its half, or by one unit. -/
theorem units_near {negative : Bool} {num den : Nat} {x : FiniteDouble}
    (h : nearest negative num den = finite x) :
    num * unitsPerOne / den ≤ 2 * x.units ∧ x.units ≤ 2 * (num * unitsPerOne / den) + 1 := by
  obtain ⟨below, above⟩ := cut_bounds (num * unitsPerOne / den)
  generalize he : (num * unitsPerOne / den).log2 - 52 = exponent at *
  obtain ⟨_, rounded, _⟩ := parts_of_nearest h he
  generalize num * unitsPerOne = units at *
  have cut : units / (den * 2 ^ exponent) = units / den / 2 ^ exponent :=
    (Nat.div_div_eq_div_mul _ _ _).symm
  have low := div_le_roundEven units (den * 2 ^ exponent)
  have high := roundEven_le units (den * 2 ^ exponent)
  rw [cut] at low high
  rw [rounded]
  have rest := Nat.div_add_mod (units / den) (2 ^ exponent)
  have less := Nat.mod_lt (units / den) (Nat.two_pow_pos exponent)
  generalize roundEven units (den * 2 ^ exponent) = significand at *
  generalize units / den = value at *
  rcases Nat.eq_zero_or_pos exponent with zero | long
  · rw [zero, Nat.pow_zero, Nat.div_one] at low high
    rw [zero, Nat.pow_zero, Nat.mul_one]
    omega
  · have some' : 1 ≤ value / 2 ^ exponent := by
      have := above long
      omega
    generalize 2 ^ exponent = step at *
    generalize value / step = quotient at *
    have first : 1 * step ≤ quotient * step := Nat.mul_le_mul_right step some'
    have lower : quotient * step ≤ significand * step := Nat.mul_le_mul_right step low
    have upper : significand * step ≤ (quotient + 1) * step := Nat.mul_le_mul_right step high
    rw [Nat.mul_comm step] at rest
    rw [Nat.add_mul] at upper
    omega

/-- A magnitude of at most so many binary digits before the point. -/
def Within (x : FiniteDouble) (bits : Nat) : Prop :=
  x.units ≤ 2 ^ bits * unitsPerOne

theorem log2_le_of_le {n bits : Nat} (bound : n ≤ 2 ^ bits * unitsPerOne) :
    n.log2 ≤ bits + 1074 := by
  obtain ⟨units, length, one⟩ := exists_unitsPerOne
  rw [one, ← Nat.pow_add] at bound
  rcases Nat.eq_zero_or_pos n with zero | positive
  · rw [zero, Nat.log2_zero]
    exact Nat.zero_le _
  · have : n.log2 < bits + units + 1 := by
      refine (Nat.log2_lt (Nat.ne_of_gt positive)).mpr (Nat.lt_of_le_of_lt bound ?_)
      exact Nat.pow_lt_pow_right (by decide) (Nat.lt_succ_self _)
    omega

theorem exists_mul {x y : FiniteDouble} {m n : Nat} (hx : Within x m) (hy : Within y n)
    (moderate : m + n ≤ 1000) : ∃ z, mul x y = finite z := by
  have quotient : x.units * y.units * unitsPerOne / (unitsPerOne * unitsPerOne) ≤
      2 ^ (m + n) * unitsPerOne := by
    have product := Nat.mul_le_mul hx hy
    have onePos := unitsPerOne_pos
    generalize unitsPerOne = one at *
    apply Nat.div_le_of_le_mul
    calc x.units * y.units * one ≤ 2 ^ m * one * (2 ^ n * one) * one :=
          Nat.mul_le_mul_right one product
      _ = one * one * (2 ^ (m + n) * one) := by
          rw [Nat.pow_add]
          ring
  obtain ⟨z, hz, _⟩ := nearest_finite (x.negative != y.negative)
    (Nat.le_trans (log2_le_of_le quotient) (by omega))
  exact ⟨z, hz⟩

theorem exists_div {x y : FiniteDouble} {m : Nat} (hx : Within x m)
    (hy : unitsPerOne ≤ 2 * y.units) (moderate : m ≤ 1000) : ∃ z, div x y = finite z := by
  have quotient : x.units * unitsPerOne / y.units ≤ 2 ^ (m + 1) * unitsPerOne := by
    apply Nat.div_le_of_le_mul
    calc x.units * unitsPerOne ≤ 2 ^ m * unitsPerOne * (2 * y.units) := Nat.mul_le_mul hx hy
      _ = y.units * (2 ^ (m + 1) * unitsPerOne) := by
          generalize unitsPerOne = one
          rw [Nat.pow_succ]
          ring
  obtain ⟨z, hz, _⟩ := nearest_finite (x.negative != y.negative)
    (Nat.le_trans (log2_le_of_le quotient) (by omega))
  exact ⟨z, hz⟩

/-- An integer of so many bits. -/
theorem within_of_integer {negative : Bool} {m bits : Nat} {x : FiniteDouble}
    (h : nearest negative m 1 = finite x) (bound : m ≤ 2 ^ bits) : Within x (bits + 2) := by
  obtain ⟨_, high⟩ := units_near h
  have onePos := unitsPerOne_pos
  have scaled := Nat.mul_le_mul_right unitsPerOne bound
  rw [Nat.div_one] at high
  rw [Within, Nat.pow_add]
  generalize unitsPerOne = one at *
  have power : 0 < 2 ^ bits * one := Nat.mul_pos (Nat.two_pow_pos bits) onePos
  rw [Nat.mul_right_comm]
  omega

end Double

end DeviceModel
