import DeviceModel.Proofs.Double.Nearest
import DeviceModel.Proofs.Double.Quotients
import Mathlib.Data.Nat.Cast.Order.Field
import Mathlib.Tactic.Qify

/-!
# The nearest double

`IsNearestTo` says which double is nearest to a number; of two equally near ones it is the one with
the even significand, so there is only one (`IsNearestTo.toRat_eq`). The doubles of one exponent and
the larger ones are multiples of a step, and a number that is measured in steps is rounded to the
nearest integer (`roundEven_nearest`). The doubles between the multiples are all below the numbers
of this size, and farther away than the least full significand of this size (`toRat_lt`). So
rounding gives the nearest double of a quotient (`isNearestTo_of_nearest`) and of an integer
(`isNearestTo_of_ofInt`).
-/

namespace DeviceModel

/-! ### The nearest integer -/

section

variable (num : Nat) {den : Nat} (positive : 0 < den)

include positive

/-- Twice the error of a rounded quotient is less than the divisor, or it is the divisor and the
result is even. -/
theorem roundEven_error :
    (2 * num < 2 * (roundEven num den * den) + den ∧
      2 * (roundEven num den * den) < 2 * num + den) ∨
    ((2 * num = 2 * (roundEven num den * den) + den ∨
      2 * (roundEven num den * den) = 2 * num + den) ∧ roundEven num den % 2 = 0) := by
  have parts := Nat.div_add_mod' num den
  have less := Nat.mod_lt num positive
  have next : (num / den + 1) * den = num / den * den + den := Nat.succ_mul _ _
  unfold roundEven
  dsimp only
  split_ifs with below above
  · omega
  · rw [next]
    omega
  · rcases Nat.mod_two_eq_zero_or_one (num / den) with even | odd
    · rw [even, Nat.add_zero]
      omega
    · rw [odd, next]
      omega

theorem roundEven_near :
    |(num / den : ℚ) - roundEven num den| < 1 / 2 ∨
      |(num / den : ℚ) - roundEven num den| = 1 / 2 ∧ roundEven num den % 2 = 0 := by
  have den0 : (0 : ℚ) < den := by exact_mod_cast positive
  have error : (num / den : ℚ) - roundEven num den =
      (2 * num - 2 * (roundEven num den * den)) / (2 * den) := by
    field_simp
  rw [error, abs_div, abs_of_pos (by linarith : (0 : ℚ) < 2 * den), div_lt_iff₀ (by linarith),
    div_eq_iff (by linarith), abs_lt]
  rcases roundEven_error num positive with ⟨below, above⟩ | ⟨tie, even⟩
  · left
    qify at below above
    exact ⟨by linarith, by linarith⟩
  · refine Or.inr ⟨?_, even⟩
    rcases tie with above | below
    · qify at above
      rw [above, add_sub_cancel_left, abs_of_pos den0]
      ring
    · qify at below
      rw [below, abs_sub_comm, add_sub_cancel_left, abs_of_pos den0]
      ring

/-- Every other integer is farther from a quotient than the rounded one, or equally far; then the
rounded one is even and the other odd. -/
theorem roundEven_nearest {n : Int} (other : n ≠ roundEven num den) :
    |(num / den : ℚ) - roundEven num den| < |(num / den : ℚ) - n| ∨
      |(num / den : ℚ) - roundEven num den| = |(num / den : ℚ) - n| ∧
        roundEven num den % 2 = 0 ∧ n % 2 = 1 := by
  have apart : 1 ≤ (roundEven num den - n).natAbs := by omega
  have gap : ((roundEven num den - n).natAbs : ℚ) ≤
      |(num / den : ℚ) - roundEven num den| + |(num / den : ℚ) - n| := by
    rw [Nat.cast_natAbs, Int.cast_abs, Int.cast_sub, Int.cast_natCast,
      abs_sub_comm (num / den : ℚ) (roundEven num den)]
    exact abs_sub_le _ _ _
  have least : (1 : ℚ) ≤ (roundEven num den - n).natAbs := by exact_mod_cast apart
  rcases roundEven_near num positive with near | ⟨half, even⟩
  · exact Or.inl (by linarith)
  · rw [half] at gap ⊢
    have far : (1 / 2 : ℚ) ≤ |(num / den : ℚ) - n| := by linarith
    refine far.lt_or_eq.imp_right fun tie => ⟨tie, even, ?_⟩
    have neighbours : (roundEven num den - n).natAbs ≤ 1 := by
      rw [← tie] at gap
      have : ((roundEven num den - n).natAbs : ℚ) ≤ 1 := by linarith
      exact_mod_cast this
    omega

end

namespace FiniteDouble

/-! ### The nearest double -/

/-- A double is nearest to a number if every double of another value is farther from it, or equally
far; then its significand is even and the other one is odd. -/
def IsNearestTo (x : FiniteDouble) (q : ℚ) : Prop :=
  ∀ y : FiniteDouble, y.toRat ≠ x.toRat →
    |q - x.toRat| < |q - y.toRat| ∨
      |q - x.toRat| = |q - y.toRat| ∧ x.significand % 2 = 0 ∧ y.significand % 2 = 1

/-- There is only one nearest double, the two zeros taken as one. -/
theorem IsNearestTo.toRat_eq {x y : FiniteDouble} {q : ℚ} (hx : x.IsNearestTo q)
    (hy : y.IsNearestTo q) : x.toRat = y.toRat := by
  by_contra other
  refine not_both_nearer (hx y (Ne.symm other)) (hy x other) ?_
  rintro ⟨even, _⟩ ⟨_, odd⟩
  omega

theorem signed_neg (x : FiniteDouble) (magnitude : Nat) :
    x.neg.signed magnitude = -x.signed magnitude := by
  unfold signed neg
  cases x.negative
  · rfl
  · exact (Int.neg_neg _).symm

theorem neg_toRat (x : FiniteDouble) : x.neg.toRat = -x.toRat := by
  have magnitude : x.neg.units = x.units := rfl
  rw [toRat, magnitude, signed_neg, Int.cast_neg, neg_div, toRat]

theorem neg_neg_eq (x : FiniteDouble) : x.neg.neg = x := by
  rw [neg, neg, Bool.not_not]

theorem IsNearestTo.neg {x : FiniteDouble} {q : ℚ} (h : x.IsNearestTo q) :
    x.neg.IsNearestTo (-q) := by
  intro y other
  rw [neg_toRat] at other ⊢
  rw [abs_neg_sub, abs_neg_sub, neg_neg, ← neg_toRat y]
  exact h y.neg fun same => other (by rw [← same, neg_toRat, neg_neg])

/-- The distance of neighbouring doubles of this exponent. -/
def step (exponent : Nat) : ℚ :=
  2 ^ exponent / unitsPerOne

variable {x y : FiniteDouble} {exponent : Nat}

theorem step_pos (exponent : Nat) : 0 < step exponent := by
  have one : (0 : ℚ) < unitsPerOne := by exact_mod_cast Double.unitsPerOne_pos
  exact div_pos (pow_pos (by norm_num) _) one

theorem toRat_of_units_eq {m : Nat} (h : x.units = m * 2 ^ exponent) :
    x.toRat = x.signed m * step exponent := by
  rw [toRat, h, signed_mul, step]
  push_cast
  ring

/-- A double of this exponent or a greater one is a whole number of steps, and this number is even
if the significand is. -/
theorem exists_steps (large : exponent ≤ y.exponent) :
    ∃ n : Int, y.toRat = n * step exponent ∧ (n % 2 = 1 → y.significand % 2 = 1) := by
  have whole : y.units = y.significand * 2 ^ (y.exponent - exponent) * 2 ^ exponent := by
    rw [units, Nat.pow_eq, Nat.mul_assoc, ← Nat.pow_add, Nat.sub_add_cancel large]
  refine ⟨_, toRat_of_units_eq whole, fun odd => ?_⟩
  have product : y.significand * 2 ^ (y.exponent - exponent) % 2 = 1 := by
    unfold signed at odd
    split_ifs at odd <;> omega
  exact Nat.odd_iff.mp (Nat.odd_mul.mp (Nat.odd_iff.mpr product)).1

/-- A double of a less exponent is less than any with all bits of this one. -/
theorem toRat_lt (small : y.exponent < exponent) : y.toRat < 2 ^ 52 * step exponent := by
  have one : (0 : ℚ) < unitsPerOne := by exact_mod_cast Double.unitsPerOne_pos
  have less : y.units < 2 ^ 52 * 2 ^ exponent := by
    calc y.units < 2 ^ 53 * 2 ^ y.exponent :=
          Nat.mul_lt_mul_of_pos_right y.canonical.1 (Nat.two_pow_pos _)
      _ = 2 ^ 52 * 2 ^ (y.exponent + 1) := by ring
      _ ≤ 2 ^ 52 * 2 ^ exponent := Nat.mul_le_mul_left _ (Nat.pow_le_pow_right (by decide) small)
  have magnitude : y.signed y.units ≤ y.units := by
    unfold signed
    split_ifs <;> omega
  have bound : (y.signed y.units : ℚ) < 2 ^ 52 * 2 ^ exponent := by
    exact_mod_cast lt_of_le_of_lt magnitude (Int.ofNat_lt.mpr less)
  rw [toRat, step, ← mul_div_assoc]
  exact div_lt_div_of_pos_right bound one

/-- A number measured in steps has the nearest whole number of steps as its nearest double, if it is
so large that smaller doubles do not matter. -/
theorem isNearestTo_of_steps {q : ℚ} {m : Nat} (value : x.toRat = m * step exponent)
    (closest : ∀ n : Int, n ≠ m →
      |q - m| < |q - n| ∨ |q - m| = |q - n| ∧ x.significand % 2 = 0 ∧ n % 2 = 1)
    (full : 0 < exponent → 2 ^ 52 ≤ q) : x.IsNearestTo (q * step exponent) := by
  have positive := step_pos exponent
  have scaled (a : ℚ) : |q * step exponent - a * step exponent| = |q - a| * step exponent := by
    rw [← sub_mul, abs_mul, abs_of_pos positive]
  intro y other
  rcases Nat.lt_or_ge y.exponent exponent with small | large
  -- the least full significand is between a smaller double and the number
  · have low := toRat_lt small
    have high := full (Nat.zero_lt_of_lt small)
    have near : |q - m| ≤ q - 2 ^ 52 := by
      rw [← abs_of_nonneg (sub_nonneg.mpr high)]
      rcases eq_or_ne (2 ^ 52 : Int) m with same | differs
      · have : (m : ℚ) = 2 ^ 52 := by exact_mod_cast same.symm
        rw [this]
      · have := closest _ differs
        rw [Int.cast_pow, Int.cast_ofNat] at this
        exact this.elim le_of_lt fun tie => tie.1.le
    left
    calc |q * step exponent - x.toRat| = |q - m| * step exponent := by rw [value, scaled]
      _ ≤ (q - 2 ^ 52) * step exponent := mul_le_mul_of_nonneg_right near positive.le
      _ < q * step exponent - y.toRat := by linarith
      _ ≤ |q * step exponent - y.toRat| := le_abs_self _
  · obtain ⟨n, steps, parity⟩ := exists_steps large
    have differs : n ≠ m := by
      rintro rfl
      exact other (by rw [steps, value, Int.cast_natCast])
    rw [steps, value, scaled, scaled, mul_lt_mul_iff_left₀ positive, mul_left_inj' positive.ne']
    exact (closest n differs).imp_right (And.imp_right (And.imp_right parity))

end FiniteDouble

namespace Double

open FiniteDouble

variable {x : FiniteDouble} {num den : Nat}

theorem isNearestTo_of_nearest_false (positive : 0 < den)
    (h : nearest false num den = finite x) : x.IsNearestTo (num / den) := by
  obtain ⟨_, above⟩ := cut_bounds (num * unitsPerOne / den)
  generalize size : (num * unitsPerOne / den).log2 - 52 = exponent at above
  obtain ⟨sign, whole, even⟩ := parts_of_nearest h size
  have value := toRat_of_units_eq whole
  rw [signed, sign, if_neg Bool.false_ne_true, Int.cast_natCast] at value
  have divisor : 0 < den * 2 ^ exponent := Nat.mul_pos positive (Nat.two_pow_pos exponent)
  have measured : (num / den : ℚ) =
      ((num * unitsPerOne : Nat) / (den * 2 ^ exponent : Nat) : ℚ) * step exponent := by
    have one : (unitsPerOne : ℚ) ≠ 0 := by exact_mod_cast unitsPerOne_pos.ne'
    have den0 : (den : ℚ) ≠ 0 := by exact_mod_cast positive.ne'
    rw [step]
    push_cast
    field_simp
  rw [measured]
  refine isNearestTo_of_steps value (fun n differs => ?_) fun long => ?_
  · exact (roundEven_nearest _ divisor differs).imp_right (And.imp_right (And.imp_left even))
  · have least := above long
    rw [Nat.div_div_eq_div_mul] at least
    calc (2 ^ 52 : ℚ) ≤ (num * unitsPerOne / (den * 2 ^ exponent) : Nat) := by exact_mod_cast least
      _ ≤ _ := Nat.cast_div_le

/-- **Rounding gives the nearest double of a quotient**, of either sign. -/
theorem isNearestTo_of_nearest {negative : Bool} (positive : 0 < den)
    (h : nearest negative num den = finite x) :
    x.IsNearestTo (if negative then -(num / den) else num / den) := by
  cases negative with
  | false => exact isNearestTo_of_nearest_false positive h
  | true =>
    have magnitude : nearest false num den = finite x.neg := by
      rw [← Bool.not_true, nearest_not, h, Double.neg]
    have near := (isNearestTo_of_nearest_false positive magnitude).neg
    rwa [neg_neg_eq] at near

/-- **The double of an integer is the nearest one.** -/
theorem isNearestTo_of_ofInt {n : Int} (h : ofInt n = finite x) : x.IsNearestTo n := by
  have near := isNearestTo_of_nearest Nat.one_pos h
  rw [Nat.cast_one, div_one, Nat.cast_natAbs] at near
  rcases lt_or_ge n 0 with below | above
  · rwa [decide_eq_true below, if_pos rfl, abs_of_neg below, Int.cast_neg, neg_neg] at near
  · rwa [decide_eq_false (not_lt.mpr above), if_neg Bool.false_ne_true,
      abs_of_nonneg above] at near

end Double

end DeviceModel
