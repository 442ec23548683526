import DeviceModel.Proofs.Double.Exact
import Mathlib.Data.Rat.Floor
import Mathlib.Tactic.FieldSimp
import Mathlib.Tactic.Linarith

/-!
# The nearest integer

`IsNearest` says which integer is nearest to a number; of two equally near ones it is the one that
is farther from zero. There is only one (`IsNearest.unique`), found by the floor after a half is
added (`isNearest_floor`), and it reaches a bound from half before it on (`IsNearest.le_iff`).

Rounding a double gives the nearest integer of its exact value (`isNearest_toRat_iff`). This integer
is a double again (`exists_ofInt_round`), so nothing is lost if it is kept as one.
-/

namespace DeviceModel

/-- Two candidates cannot both be preferred to the other. -/
theorem not_both_nearer {far far' : ℚ} {preferred preferred' : Prop}
    (h : far < far' ∨ far = far' ∧ preferred) (h' : far' < far ∨ far' = far ∧ preferred')
    (once : preferred → ¬preferred') : False := by
  rcases h with near | ⟨tie, first⟩
  · rcases h' with near' | ⟨tie', _⟩
    · exact lt_asymm near near'
    · exact near.ne tie'.symm
  · rcases h' with near' | ⟨_, second⟩
    · exact near'.ne tie.symm
    · exact once first second

/-- A number is as far from another as their mirror images are. -/
theorem abs_neg_sub (q z : ℚ) : |-q - z| = |q - -z| := by
  rw [neg_sub_left, abs_neg, sub_neg_eq_add, add_comm]

/-- An integer is nearest to a number if every other one is farther from it, or equally far and
nearer to zero. -/
def IsNearest (q : ℚ) (n : Int) : Prop :=
  ∀ m : Int, m ≠ n → |q - n| < |q - m| ∨ |q - n| = |q - m| ∧ |m| < |n|

namespace IsNearest

variable {q : ℚ} {m n : Int}

theorem unique (hm : IsNearest q m) (hn : IsNearest q n) : m = n := by
  by_contra other
  exact not_both_nearer (hm n (Ne.symm other)) (hn m other) fun away => lt_asymm away

theorem neg (h : IsNearest q n) : IsNearest (-q) (-n) := by
  intro m other
  rw [abs_neg_sub, abs_neg_sub, Int.cast_neg, neg_neg, abs_neg, ← Int.cast_neg m, ← abs_neg m]
  exact h (-m) fun same => other (neg_eq_iff_eq_neg.mp same)

end IsNearest

/-- The nearest integer of a number that is not negative: a half goes up. -/
theorem isNearest_floor {q : ℚ} (nonneg : 0 ≤ q) : IsNearest q ⌊q + 1 / 2⌋ := by
  generalize hn : ⌊q + 1 / 2⌋ = n
  obtain ⟨low, high⟩ := Int.floor_eq_iff.mp hn
  have near : |q - n| ≤ 1 / 2 := abs_le.mpr ⟨by linarith, by linarith⟩
  intro m other
  rcases Int.lt_or_gt_of_ne other with below | above
  · have gap : (m : ℚ) + 1 ≤ n := by exact_mod_cast below
    have far : |q - n| ≤ |q - m| := near.trans (le_trans (by linarith) (le_abs_self _))
    refine far.lt_or_eq.imp_right fun tie => ⟨tie, ?_⟩
    -- equally far below a number that is not negative is an integer that is not negative either
    have half : q - m ≤ 1 / 2 := by
      rw [abs_of_nonneg (by linarith : (0 : ℚ) ≤ q - m)] at tie
      rw [← tie]
      exact near
    have least : -1 < m := by
      have : (-1 : ℚ) < m := by linarith
      exact_mod_cast this
    rw [abs_of_nonneg (by omega), abs_of_nonneg (by omega)]
    exact below
  · have gap : (n : ℚ) + 1 ≤ m := by exact_mod_cast above
    have far : 1 / 2 < |q - m| := lt_of_lt_of_le (by linarith) (neg_le_abs _)
    exact Or.inl (near.trans_lt far)

namespace IsNearest

variable {q : ℚ} {k n : Int}

theorem eq_floor (h : IsNearest q n) (nonneg : 0 ≤ q) : n = ⌊q + 1 / 2⌋ :=
  h.unique (isNearest_floor nonneg)

/-- The nearest integer reaches a positive bound from half before it on. -/
theorem le_iff (h : IsNearest q n) (positive : 0 < k) : k ≤ n ↔ (k : ℚ) - 1 / 2 ≤ q := by
  have one : (1 : ℚ) ≤ k := by exact_mod_cast positive
  rcases le_total 0 q with nonneg | nonpos
  · rw [h.eq_floor nonneg, Int.le_floor]
    exact sub_le_iff_le_add.symm
  · have mirrored := h.neg.eq_floor (neg_nonneg.mpr nonpos)
    have low : 0 ≤ ⌊-q + 1 / 2⌋ := Int.floor_nonneg.mpr (by linarith)
    exact iff_of_false (by omega) (by linarith)

theorem le_neg_iff (h : IsNearest q n) (positive : 0 < k) : n ≤ -k ↔ q ≤ -k + 1 / 2 := by
  rw [le_neg, h.neg.le_iff positive]
  constructor <;> intro bound <;> linarith

end IsNearest

namespace FiniteDouble

/-- The exact value of a double is its magnitude with its sign. -/
theorem toRat_eq (x : FiniteDouble) :
    x.toRat = if x.negative then -(x.units / unitsPerOne : ℚ) else (x.units / unitsPerOne : ℚ) := by
  rw [toRat, signed]
  split_ifs
  · push_cast
    rw [neg_div]
  · rfl

theorem floor_units (x : FiniteDouble) :
    ⌊(x.units / unitsPerOne : ℚ) + 1 / 2⌋ =
      ((2 * x.units + unitsPerOne) / (2 * unitsPerOne) : Nat) := by
  have positive : (unitsPerOne : ℚ) ≠ 0 :=
    Nat.cast_ne_zero.mpr (Nat.ne_of_gt Double.unitsPerOne_pos)
  have quotient : (x.units / unitsPerOne : ℚ) + 1 / 2 =
      ((2 * x.units + unitsPerOne : Nat) : ℚ) / ((2 * unitsPerOne : Nat) : ℚ) := by
    push_cast
    generalize (unitsPerOne : ℚ) = one at *
    field_simp
  rw [quotient, Rat.floor_natCast_div_natCast, Int.natCast_ediv]

theorem isNearest_round (x : FiniteDouble) : IsNearest x.toRat x.round := by
  have nonneg : (0 : ℚ) ≤ x.units / unitsPerOne :=
    div_nonneg (Nat.cast_nonneg _) (Nat.cast_nonneg _)
  have magnitude := isNearest_floor nonneg
  rw [floor_units] at magnitude
  rw [toRat_eq, round, signed]
  split_ifs
  · exact magnitude.neg
  · exact magnitude

/-- **Rounding a double gives the integer that is nearest to its exact value.** -/
theorem isNearest_toRat_iff {x : FiniteDouble} {n : Int} : IsNearest x.toRat n ↔ x.round = n := by
  constructor
  · exact x.isNearest_round.unique
  · rintro rfl
    exact x.isNearest_round

/-! ### The rounded number as a double -/

/-- An integer with few bits in front of its last zeros is a double. -/
theorem exists_ofInt_of_shifted {n : Int} {m zeros : Nat} (short : m < 2 ^ 53) (few : zeros ≤ 971)
    (magnitude : n.natAbs = m * 2 ^ zeros) :
    ∃ y, Double.ofInt n = .finite y ∧ y.toRat = n := by
  obtain ⟨y, hy, sign, units⟩ := Double.nearest_shifted_exact (decide (n < 0)) short few
  rw [← magnitude] at hy units
  exact ⟨y, hy, toRat_of_units units (signed_natAbs sign)⟩

/-- **The nearest integer of a double is a double.** A large double is an integer already, and the
others are so small that 53 bits are enough for every integer of their size. -/
theorem exists_ofInt_round (x : FiniteDouble) :
    ∃ y, Double.ofInt x.round = .finite y ∧ y.toRat = x.round := by
  obtain ⟨short, bound, _⟩ := x.canonical
  obtain ⟨bits, length, one⟩ := Double.exists_unitsPerOne
  rcases Nat.lt_or_ge x.exponent bits with small | large
  · have half : 2 * x.units ≤ x.significand * unitsPerOne := by
      rw [FiniteDouble.units, Nat.pow_eq, one, Nat.mul_left_comm, ← Nat.pow_succ']
      exact Nat.mul_le_mul_left _ (Nat.pow_le_pow_right (by decide) small)
    have few : (2 * x.units + unitsPerOne) / (2 * unitsPerOne) < 2 ^ 53 := by
      have positive := Double.unitsPerOne_pos
      have most := Nat.mul_le_mul_right unitsPerOne (Nat.le_of_lt_succ short)
      generalize unitsPerOne = one at *
      exact Nat.div_lt_of_lt_mul (by omega)
    have magnitude : x.round.natAbs =
        (2 * x.units + unitsPerOne) / (2 * unitsPerOne) * 2 ^ 0 := by
      rw [round, natAbs_signed, Nat.pow_zero, Nat.mul_one]
    exact exists_ofInt_of_shifted few (Nat.zero_le 971) magnitude
  · have units : x.units = x.significand * 2 ^ (x.exponent - bits) * unitsPerOne := by
      rw [FiniteDouble.units, Nat.pow_eq, one, Nat.mul_assoc, ← Nat.pow_add,
        Nat.sub_add_cancel large]
    have magnitude : x.round.natAbs = x.significand * 2 ^ (x.exponent - bits) := by
      rw [round_eq_signed units, natAbs_signed]
    exact exists_ofInt_of_shifted short (by omega) magnitude

end FiniteDouble

end DeviceModel
