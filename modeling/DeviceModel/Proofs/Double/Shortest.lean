import DeviceModel.Double.Shortest
import DeviceModel.Proofs.Double.Integers
import DeviceModel.Proofs.Text.Digits

/-!
# The digits of the shortest decimal

A decimal that is taken from the grid of an exponent lies in the rounding interval
(`onGrid?_cases`), and one is found if the grid is finer than the interval (`isSome_onGrid?`). The
seventeenth grid is (`isSome_onGrid?_seventeenth`), so the digits of the shortest decimal are at
most `10 ^ 17` (`shortest_bounds`). For an integer of 53 bits it is the integer itself
(`shortest_of_integer`): no other integer lies in the interval.
-/

namespace DeviceModel

open Text

/-! ### The number of digits -/

namespace Double

theorem decimalLength_eq_length (n : Nat) : decimalLength n = (natText n).length := by
  fun_induction decimalLength n with
  | case1 n small => rw [natText, if_pos small, List.length_singleton]
  | case2 n large ih =>
    rw [ih, natText.eq_def n, if_neg large, List.length_append, List.length_singleton]

theorem exists_decimalLength {n : Nat} (positive : 0 < n) :
    ∃ k, decimalLength n = k + 1 ∧ 10 ^ k ≤ n ∧ n < 10 ^ (k + 1) := by
  have long := List.length_pos_iff.mpr (natText_ne_nil n)
  obtain ⟨k, length⟩ : ∃ k, (natText n).length = k + 1 := ⟨(natText n).length - 1, by omega⟩
  refine ⟨k, by rw [decimalLength_eq_length, length], ?_, length ▸ lt_pow_length_natText n⟩
  by_contra short
  cases k with
  | zero => omega
  | succ k =>
    have := length_natText_le (Nat.lt_of_not_le short)
    omega

end Double

/-! ### Zeros at the end -/

theorem Decimal.exists_strip (fuel : Nat) (d : Decimal) :
    ∃ zeros ≤ fuel, d.digits = (d.strip fuel).digits * 10 ^ zeros ∧
      (d.strip fuel).exponent = d.exponent + zeros := by
  induction fuel generalizing d with
  | zero => exact ⟨0, Nat.le_refl 0, by simp [strip], by simp [strip]⟩
  | succ fuel ih =>
    rw [strip]
    split
    case isTrue divides =>
      obtain ⟨zeros, bound, digits, exponent⟩ := ih ⟨d.digits / 10, d.exponent + 1⟩
      refine ⟨zeros + 1, by omega, ?_, ?_⟩
      · rw [Nat.pow_succ, ← Nat.mul_assoc, ← digits]
        dsimp only
        omega
      · rw [exponent]
        push_cast
        ring
    case isFalse => exact ⟨0, Nat.zero_le _, by simp, by simp⟩

namespace FiniteDouble

variable {x : FiniteDouble} {tie : Tie}

/-! ### The rounding interval -/

/-- One in quarters. The exponent has a name of its own so that nothing computes the power. -/
theorem quartersPerOne_eq : quartersPerOne = 4 * unitsPerOne := by
  have split : 1076 = 1074 + 2 := rfl
  unfold quartersPerOne unitsPerOne
  rw [split]
  generalize 1074 = bits
  rw [Nat.pow_eq, Nat.pow_eq, Nat.pow_add]
  omega

theorem quartersPerOne_pos : 0 < quartersPerOne := by
  have := Double.unitsPerOne_pos
  rw [quartersPerOne_eq]
  omega

theorem middle_eq (x : FiniteDouble) : x.middle = 4 * x.units :=
  Nat.mul_assoc 4 x.significand (Nat.pow 2 x.exponent)

theorem significand_pos (positive : 0 < x.units) : 0 < x.significand :=
  Nat.pos_of_mul_pos_right positive

/-- The ends of the interval, in steps of the double. -/
theorem exists_gap (x : FiniteDouble) :
    ∃ gap, x.lower = (4 * x.significand - gap) * 2 ^ x.exponent ∧
      (gap = 2 ∨ gap = 1 ∧ x.significand = 2 ^ 52) := by
  unfold lower
  dsimp only
  split
  case isTrue power => exact ⟨1, rfl, Or.inr ⟨rfl, power.1⟩⟩
  case isFalse => exact ⟨2, rfl, Or.inl rfl⟩

/-- The interval is not too narrow for a number of this size. -/
theorem interval_bounds (positive : 0 < x.units) :
    0 < x.lower ∧ x.lower < x.middle ∧ x.middle < x.upper ∧
      x.middle < 10 ^ 16 * (x.upper - x.lower) := by
  have leading := significand_pos positive
  have short := x.canonical.1
  obtain ⟨gap, low, kind⟩ := exists_gap x
  have power : 0 < 2 ^ x.exponent := Nat.two_pow_pos _
  have width : x.upper - x.lower = (2 + gap) * 2 ^ x.exponent := by
    rw [low, upper, Nat.pow_eq, ← Nat.mul_sub_right_distrib]
    congr 1
    omega
  rw [width, low, middle, upper, Nat.pow_eq, ← Nat.mul_assoc]
  refine ⟨Nat.mul_pos (by omega) power, ?_, ?_, ?_⟩ <;>
    exact Nat.mul_lt_mul_of_pos_right (by omega) power

/-! ### The grid of an exponent -/

/-- What magnitudes are multiplied by so that the points of the grid are whole. -/
def gridScale (exponent : Int) : Nat :=
  10 ^ (-exponent).toNat

/-- The distance of two points of the grid, in scaled quarters. -/
def gridStep (exponent : Int) : Nat :=
  quartersPerOne * 10 ^ exponent.toNat

theorem gridScale_pos (exponent : Int) : 0 < gridScale exponent :=
  Nat.pow_pos (by decide)

theorem gridStep_pos (exponent : Int) : 0 < gridStep exponent :=
  Nat.mul_pos quartersPerOne_pos (Nat.pow_pos (by decide))

theorem gridScale_natCast (exponent : Nat) : gridScale exponent = 1 := by
  rw [gridScale, Int.toNat_neg_natCast, Nat.pow_zero]

theorem gridStep_natCast (exponent : Nat) :
    gridStep exponent = quartersPerOne * 10 ^ exponent := by
  rw [gridStep, Int.toNat_natCast]

/-- The point of the grid next to a number, towards zero. -/
def gridBelow (x : FiniteDouble) (exponent : Int) : Nat :=
  x.middle * gridScale exponent / gridStep exponent

/-- One of the two neighbours of a number on a grid is taken if it lies in the interval, and none
if neither does. -/
theorem onGrid?_cases (tie : Tie) (positive : 0 < x.units) (exponent : Int) :
    (∃ digits, x.onGrid? tie exponent = some ⟨digits, exponent⟩ ∧
        (digits = x.gridBelow exponent ∨ digits = x.gridBelow exponent + 1) ∧
        x.lower * gridScale exponent ≤ digits * gridStep exponent ∧
        digits * gridStep exponent ≤ x.upper * gridScale exponent) ∨
      x.onGrid? tie exponent = none ∧
        x.gridBelow exponent * gridStep exponent ≤ x.lower * gridScale exponent ∧
        x.upper * gridScale exponent ≤ (x.gridBelow exponent + 1) * gridStep exponent := by
  obtain ⟨_, low, high, _⟩ := interval_bounds positive
  have lowScaled := Nat.mul_le_mul_right (gridScale exponent) (Nat.le_of_lt low)
  have highScaled := Nat.mul_le_mul_right (gridScale exponent) (Nat.le_of_lt high)
  have below : x.gridBelow exponent * gridStep exponent ≤ x.middle * gridScale exponent :=
    Nat.div_mul_le_self _ _
  have above : x.middle * gridScale exponent < (x.gridBelow exponent + 1) * gridStep exponent := by
    rw [Nat.mul_comm (x.gridBelow exponent + 1)]
    exact Nat.lt_mul_div_succ _ (gridStep_pos exponent)
  simp only [onGrid?, gridBelow, gridScale, gridStep, Nat.pow_eq] at *
  generalize quartersPerOne = one at *
  generalize x.middle * 10 ^ (-exponent).toNat = middle at *
  generalize x.lower * 10 ^ (-exponent).toNat = lower at *
  generalize x.upper * 10 ^ (-exponent).toNat = upper at *
  generalize one * 10 ^ exponent.toNat = step at *
  generalize middle / step = digits at *
  split_ifs with both nearer lowerFits upperFits
  · exact Or.inl ⟨digits, rfl, Or.inl rfl, by omega, by omega⟩
  · exact Or.inl ⟨digits + 1, rfl, Or.inr rfl, by omega, by omega⟩
  · exact Or.inl ⟨digits, rfl, Or.inl rfl, by omega, by omega⟩
  · exact Or.inl ⟨digits + 1, rfl, Or.inr rfl, by omega, by omega⟩
  · exact Or.inr ⟨rfl, by omega, by omega⟩

theorem isSome_onGrid? (tie : Tie) (positive : 0 < x.units) {exponent : Int}
    (narrow : gridStep exponent < (x.upper - x.lower) * gridScale exponent) :
    (x.onGrid? tie exponent).isSome := by
  rcases onGrid?_cases tie positive exponent with ⟨digits, found, _⟩ | ⟨_, low, high⟩
  · rw [found, Option.isSome_some]
  · rw [Nat.mul_sub_right_distrib] at narrow
    rw [Nat.add_mul, Nat.one_mul] at high
    omega

/-! ### The first digit -/

/-- The scale of the first digit. Its exponent has a name of its own so that nothing computes the
power. -/
theorem exists_shift (x : FiniteDouble) : ∃ shift : Nat, shift = 400 ∧ x.leadingExponent =
    (Double.decimalLength (x.middle * 10 ^ shift / quartersPerOne) : Int) - (shift + 1 : Nat) := by
  have next : (401 : Int) = (400 + 1 : Nat) := rfl
  unfold leadingExponent
  rw [next]
  generalize 400 = shift
  exact ⟨shift, rfl, rfl⟩

/-- A number lies between two powers of ten. -/
theorem exists_leadingExponent (positive : 0 < x.units) :
    ∃ leading shift : Nat, shift = 400 ∧ x.leadingExponent = (leading : Int) - shift ∧
      10 ^ leading * quartersPerOne ≤ x.middle * 10 ^ shift ∧
      x.middle * 10 ^ shift < 10 ^ (leading + 1) * quartersPerOne := by
  obtain ⟨bits, length, one⟩ := Double.exists_unitsPerOne
  obtain ⟨shift, large, scaled⟩ := exists_shift x
  have power : 2 ^ bits ≤ 10 ^ shift := by
    calc 2 ^ bits ≤ 2 ^ (3 * shift) := Nat.pow_le_pow_right (by decide) (by omega)
      _ = 8 ^ shift := by rw [Nat.pow_mul]
      _ ≤ 10 ^ shift := Nat.pow_le_pow_left (by decide) shift
  have many : 0 < x.middle * 10 ^ shift / quartersPerOne := by
    apply Nat.div_pos _ quartersPerOne_pos
    rw [middle_eq, quartersPerOne_eq, one]
    calc 4 * 2 ^ bits ≤ 4 * 10 ^ shift := Nat.mul_le_mul_left 4 power
      _ ≤ 4 * x.units * 10 ^ shift := Nat.mul_le_mul_right _ (by omega)
  obtain ⟨leading, length, low, high⟩ := Double.exists_decimalLength many
  refine ⟨leading, shift, large, ?_, ?_, ?_⟩
  · rw [scaled, length]
    push_cast
    ring
  · exact (Nat.le_div_iff_mul_le quartersPerOne_pos).mp low
  · exact (Nat.div_lt_iff_lt_mul quartersPerOne_pos).mp high

/-- Scale and step of the grid so many places below the first digit. -/
theorem exists_places (leading shift places : Nat) :
    ∃ up down : Nat, leading + down = up + shift + places ∧
      gridStep ((leading : Int) - shift - places) = quartersPerOne * 10 ^ up ∧
      gridScale ((leading : Int) - shift - places) = 10 ^ down :=
  ⟨_, _, by omega, rfl, rfl⟩

/-- Seventeen digits always suffice. -/
theorem isSome_onGrid?_seventeenth (tie : Tie) (positive : 0 < x.units) :
    (x.onGrid? tie (x.leadingExponent - (16 : Nat))).isSome := by
  obtain ⟨_, _, _, wide⟩ := interval_bounds positive
  obtain ⟨leading, shift, _, first, low, _⟩ := exists_leadingExponent positive
  apply isSome_onGrid? tie positive
  rw [first]
  obtain ⟨up, down, places, step, scale⟩ := exists_places leading shift 16
  rw [step, scale]
  generalize quartersPerOne = one at *
  generalize x.upper - x.lower = width at *
  refine Nat.lt_of_mul_lt_mul_right (a := 10 ^ (shift + 16)) ?_
  calc one * 10 ^ up * 10 ^ (shift + 16) = 10 ^ leading * one * 10 ^ down := by
        rw [Nat.mul_assoc, ← Nat.pow_add, ← Nat.add_assoc, ← places, Nat.pow_add]
        ring
    _ ≤ x.middle * 10 ^ shift * 10 ^ down := Nat.mul_le_mul_right _ low
    _ < 10 ^ 16 * width * 10 ^ shift * 10 ^ down := by
        refine Nat.mul_lt_mul_of_pos_right (Nat.mul_lt_mul_of_pos_right wide ?_) ?_ <;>
          exact Nat.pow_pos (by decide)
    _ = width * 10 ^ down * 10 ^ (shift + 16) := by
        rw [Nat.pow_add]
        ring

theorem gridBelow_lt (positive : 0 < x.units) (places : Nat) :
    x.gridBelow (x.leadingExponent - places) < 10 ^ (places + 1) := by
  obtain ⟨leading, shift, _, first, _, high⟩ := exists_leadingExponent positive
  obtain ⟨up, down, equal, step, scale⟩ := exists_places leading shift places
  rw [gridBelow, first, Nat.div_lt_iff_lt_mul (gridStep_pos _), step, scale]
  generalize quartersPerOne = one at *
  refine Nat.lt_of_mul_lt_mul_right (a := 10 ^ shift) ?_
  calc x.middle * 10 ^ down * 10 ^ shift = x.middle * 10 ^ shift * 10 ^ down := by ring
    _ < 10 ^ (leading + 1) * one * 10 ^ down :=
        Nat.mul_lt_mul_of_pos_right high (Nat.pow_pos (by decide))
    _ = one * 10 ^ (leading + down + 1) := by
        rw [Nat.add_right_comm, Nat.pow_add _ (leading + 1)]
        ring
    _ = 10 ^ (places + 1) * (one * 10 ^ up) * 10 ^ shift := by
        rw [equal]
        ring

/-! ### The first grid with a decimal -/

/-- The decimal is found on the first of the grids that has one. -/
theorem exists_firstOnGrids? {fuel places : Nat} {exponent : Int} (within : places < fuel)
    (there : (x.onGrid? tie (exponent - places)).isSome) :
    ∃ first ≤ places, ∃ d, x.firstOnGrids? tie fuel exponent = some d ∧
      x.onGrid? tie (exponent - first) = some d := by
  induction fuel generalizing places exponent with
  | zero => omega
  | succ fuel ih =>
    cases here : x.onGrid? tie exponent with
    | some d =>
      refine ⟨0, Nat.zero_le _, d, ?_, ?_⟩
      · rw [firstOnGrids?, here, Option.some_or]
      · rw [Int.natCast_zero, Int.sub_zero, here]
    | none =>
      cases places with
      | zero =>
        rw [Int.natCast_zero, Int.sub_zero, here] at there
        exact absurd there (by decide)
      | succ places =>
        have next (n : Nat) : exponent - (n + 1 : Nat) = exponent - 1 - n := by omega
        rw [next] at there
        obtain ⟨first, bound, d, found, onGrid⟩ := ih (Nat.lt_of_succ_lt_succ within) there
        refine ⟨first + 1, by omega, d, ?_, ?_⟩
        · rw [firstOnGrids?, here, Option.none_or, found]
        · rw [next, onGrid]

/-- The shortest decimal is one of a grid without the zeros at its end. -/
theorem exists_shortest {places : Nat} (within : places < 17)
    (there : (x.onGrid? tie (x.leadingExponent - places)).isSome) :
    ∃ first ≤ places, ∃ d, ∃ zeros : Nat, x.onGrid? tie (x.leadingExponent - first) = some d ∧
      zeros ≤ 17 ∧ d.digits = (x.shortest tie).digits * 10 ^ zeros ∧
      (x.shortest tie).exponent = d.exponent + zeros := by
  obtain ⟨first, bound, d, found, onGrid⟩ := exists_firstOnGrids? within there
  obtain ⟨zeros, few, digits, exponent⟩ := d.exists_strip 17
  refine ⟨first, bound, d, zeros, onGrid, few, ?_⟩
  rw [shortest, found, Option.map_some, Option.getD_some]
  exact ⟨digits, exponent⟩

/-- A decimal from a grid is positive and has no more digits than the places of the grid. -/
theorem digits_bounds (positive : 0 < x.units) {places : Nat} {d : Decimal}
    (onGrid : x.onGrid? tie (x.leadingExponent - places) = some d) :
    0 < d.digits ∧ d.digits ≤ 10 ^ (places + 1) ∧ d.exponent = x.leadingExponent - places := by
  obtain ⟨low, _⟩ := interval_bounds positive
  have below := gridBelow_lt positive places
  rcases onGrid?_cases tie positive (x.leadingExponent - places) with
    ⟨digits, found, neighbour, lower, _⟩ | ⟨none, _⟩
  · rw [found] at onGrid
    obtain rfl := Option.some.inj onGrid
    refine ⟨Nat.pos_of_ne_zero ?_, ?_, rfl⟩
    · rintro rfl
      rw [Nat.zero_mul] at lower
      have := Nat.mul_pos low (gridScale_pos (x.leadingExponent - places))
      omega
    · dsimp only
      omega
  · rw [none] at onGrid
    exact absurd onGrid nofun

/-- The shortest decimal has at most seventeen digits, or eighteen if only the first is not zero. -/
theorem shortest_bounds (tie : Tie) (positive : 0 < x.units) :
    0 < (x.shortest tie).digits ∧ (x.shortest tie).digits ≤ 10 ^ 17 ∧
      x.leadingExponent - 16 ≤ (x.shortest tie).exponent ∧
      (x.shortest tie).exponent ≤ x.leadingExponent + 17 := by
  obtain ⟨places, bound, d, zeros, onGrid, few, digits, exponent⟩ :=
    exists_shortest (by decide) (isSome_onGrid?_seventeenth tie positive)
  obtain ⟨digitsPos, digitsBound, grid⟩ := digits_bounds positive onGrid
  have short : 10 ^ (places + 1) ≤ 10 ^ 17 := Nat.pow_le_pow_right (by decide) (by omega)
  have factor : (x.shortest tie).digits ≤ d.digits := by
    rw [digits]
    exact Nat.le_mul_of_pos_right _ (Nat.pow_pos (by decide))
  rw [digits] at digitsPos
  exact ⟨Nat.pos_of_mul_pos_right digitsPos, by omega, by omega, by omega⟩

/-! ### Integers -/

/-- The first digit of a number from one up to a power of ten. -/
theorem leadingExponent_bounds {digits : Nat} (low : unitsPerOne ≤ x.units)
    (high : x.units < 10 ^ digits * unitsPerOne) :
    ∃ places < digits, x.leadingExponent = (places : Int) := by
  have onePos := Double.unitsPerOne_pos
  obtain ⟨leading, shift, _, first, below, above⟩ :=
    exists_leadingExponent (Nat.lt_of_lt_of_le onePos low)
  rw [middle_eq, quartersPerOne_eq] at below above
  generalize unitsPerOne = one at *
  have long : shift < leading + 1 := by
    refine (Nat.pow_lt_pow_iff_right (by decide : 1 < 10)).mp ?_
    refine Nat.lt_of_mul_lt_mul_right (a := 4 * one) ?_
    calc 10 ^ shift * (4 * one) ≤ 10 ^ shift * (4 * x.units) := by gcongr
      _ = 4 * x.units * 10 ^ shift := Nat.mul_comm _ _
      _ < 10 ^ (leading + 1) * (4 * one) := above
  have short : leading < digits + shift := by
    refine (Nat.pow_lt_pow_iff_right (by decide : 1 < 10)).mp ?_
    refine Nat.lt_of_mul_lt_mul_right (a := 4 * one) ?_
    calc 10 ^ leading * (4 * one) ≤ 4 * x.units * 10 ^ shift := below
      _ < 4 * (10 ^ digits * one) * 10 ^ shift :=
          Nat.mul_lt_mul_of_pos_right (Nat.mul_lt_mul_of_pos_left high (by decide))
            (Nat.pow_pos (by decide))
      _ = 10 ^ (digits + shift) * (4 * one) := by
          rw [Nat.pow_add]
          ring
  exact ⟨leading - shift, by omega, by omega⟩

variable {m : Nat} (units : x.units = m * unitsPerOne)
include units

theorem middle_of_integer : x.middle = m * quartersPerOne := by
  rw [middle_eq, units, quartersPerOne_eq]
  ring

/-- The integer itself is found on the grid of the units. -/
theorem isSome_onGrid?_zero (tie : Tie) (positive : 0 < m) : (x.onGrid? tie 0).isSome := by
  have some' : 0 < x.units := by
    rw [units]
    exact Nat.mul_pos positive Double.unitsPerOne_pos
  have scale : gridScale 0 = 1 := rfl
  have step : gridStep 0 = quartersPerOne := by
    rw [gridStep, Int.toNat_zero, Nat.pow_zero, Nat.mul_one]
  obtain ⟨_, low, _⟩ := interval_bounds some'
  have middle := middle_of_integer units
  have below : x.gridBelow 0 = m := by
    rw [gridBelow, scale, step, Nat.mul_one, middle, Nat.mul_div_cancel _ quartersPerOne_pos]
  rcases onGrid?_cases tie some' 0 with ⟨digits, found, _⟩ | ⟨_, outside, _⟩
  · rw [found, Option.isSome_some]
  · rw [below, scale, step, Nat.mul_one, ← middle] at outside
    exact absurd low (Nat.not_lt.mpr outside)

variable (bound : m < 2 ^ 53)
include bound

/-- The doubles next to an integer of 53 bits are at most one away. -/
theorem power_le_unitsPerOne : 2 ^ x.exponent ≤ unitsPerOne := by
  obtain ⟨bits, _, one⟩ := Double.exists_unitsPerOne
  rcases x.canonical.2.2 with zero | long
  · rw [zero]
    exact Double.unitsPerOne_pos
  · rw [one] at units ⊢
    refine Nat.pow_le_pow_right (by decide) (Nat.le_of_lt_succ ?_)
    refine (Nat.pow_lt_pow_iff_right (by decide : 1 < 2)).mp ?_
    refine Nat.lt_of_mul_lt_mul_left (a := 2 ^ 52) ?_
    calc 2 ^ 52 * 2 ^ x.exponent ≤ x.significand * 2 ^ x.exponent := by gcongr; exact long
      _ = m * 2 ^ bits := units
      _ < 2 ^ 53 * 2 ^ bits := Nat.mul_lt_mul_of_pos_right bound (Nat.two_pow_pos bits)
      _ = 2 ^ 52 * 2 ^ (bits + 1) := by
          rw [Nat.pow_succ]
          ring

/-- No other integer rounds to an integer of 53 bits. -/
theorem eq_of_mem_interval {n : Nat} (low : x.lower ≤ n * quartersPerOne)
    (high : n * quartersPerOne ≤ x.upper) : n = m := by
  have near := power_le_unitsPerOne units bound
  have onePos := Double.unitsPerOne_pos
  obtain ⟨gap, lower, kind⟩ := exists_gap x
  have centre : 4 * x.significand * 2 ^ x.exponent = 4 * (m * unitsPerOne) := by
    rw [← units, Nat.mul_assoc]
    rfl
  rw [upper, Nat.pow_eq, Nat.add_mul, centre] at high
  rw [lower, Nat.mul_sub_right_distrib, centre] at low
  rw [quartersPerOne_eq] at low high
  generalize unitsPerOne = one at *
  generalize 2 ^ x.exponent = step at *
  have le : n < m + 1 := by
    refine Nat.lt_of_mul_lt_mul_right (a := 4 * one) ?_
    calc n * (4 * one) ≤ 4 * (m * one) + 2 * step := high
      _ < (m + 1) * (4 * one) := by
        have : (m + 1) * (4 * one) = 4 * (m * one) + 4 * one := by ring
        omega
  have ge : m < n + 1 := by
    refine Nat.lt_of_mul_lt_mul_right (a := 4 * one) ?_
    have : (n + 1) * (4 * one) = n * (4 * one) + 4 * one := by ring
    have : m * (4 * one) = 4 * (m * one) := by ring
    have : gap * step ≤ 2 * step := Nat.mul_le_mul_right _ (by omega)
    omega
  omega

/-- The shortest decimal of an integer of 53 bits is this integer. -/
theorem shortest_of_integer (tie : Tie) (positive : 0 < m) :
    ∃ zeros : Nat, (x.shortest tie).exponent = zeros ∧
      (x.shortest tie).digits * 10 ^ zeros = m := by
  have onePos := Double.unitsPerOne_pos
  have low : unitsPerOne ≤ x.units := by
    rw [units]
    exact Nat.le_mul_of_pos_left _ positive
  have some' : 0 < x.units := Nat.lt_of_lt_of_le onePos low
  have high : x.units < 10 ^ 16 * unitsPerOne := by
    rw [units]
    exact Nat.mul_lt_mul_of_pos_right (by omega) onePos
  obtain ⟨places, few, leading⟩ := leadingExponent_bounds low high
  have there : (x.onGrid? tie (x.leadingExponent - places)).isSome := by
    rw [leading, Int.sub_self]
    exact isSome_onGrid?_zero units tie positive
  obtain ⟨first, before, d, zeros, onGrid, _, digits, exponent⟩ :=
    exists_shortest (by omega) there
  obtain ⟨rest, rfl⟩ := Nat.exists_eq_add_of_le before
  have grid : x.leadingExponent - first = (rest : Int) := by
    rw [leading]
    push_cast
    ring
  rw [grid] at onGrid
  rcases onGrid?_cases tie some' rest with ⟨digits', found, _, low, high⟩ | ⟨none, _⟩
  · rw [found] at onGrid
    obtain rfl := Option.some.inj onGrid
    rw [gridScale_natCast, gridStep_natCast, Nat.mul_one, Nat.mul_left_comm,
      Nat.mul_comm] at low high
    have value := eq_of_mem_interval units bound low high
    dsimp only at digits exponent
    refine ⟨rest + zeros, ?_, ?_⟩
    · rw [exponent, Int.natCast_add]
    · rw [Nat.add_comm, Nat.pow_add, ← Nat.mul_assoc, ← digits, value]
  · rw [none] at onGrid
    exact absurd onGrid nofun

end FiniteDouble

end DeviceModel
