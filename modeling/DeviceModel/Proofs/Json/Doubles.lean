import DeviceModel.Proofs.Double.Quotients
import DeviceModel.Proofs.Double.Shortest
import DeviceModel.Proofs.Json.Numbers

/-!
# Doubles in JSON text read back

A double is written with its shortest decimal, but the digits are not read as the double nearest to
them: they are gathered to an integer, this is rounded, and the result is scaled by a power of ten
and rounded again. So a double may come back as another one. The double of an integer of 64 bits
always comes back as some double (`exists_reread?`), and an integer of at most `2 ^ 54 / 10` comes
back as itself (`reread?_of_integer`), since ten times the integer still has a double. The bound is
sharp (`exists_reread?_ne`).
-/

namespace DeviceModel.Json

open Text NumberText FiniteDouble

/-- The double that is read where a double was written. -/
def reread? (x : FiniteDouble) : Option FiniteDouble :=
  (NumberText.ofDouble x).toDouble?

/-! ### Scaling by a power of ten -/

theorem exists_powerOfTen {k : Nat} (few : k ≤ 40) :
    ∃ power, powerOfTen k = .finite power ∧ unitsPerOne ≤ 2 * power.units ∧
      Double.Within power 142 := by
  have large : 10 ^ k ≤ 2 ^ 140 := Nat.le_trans (Nat.pow_le_pow_right (by decide) few) (by decide)
  have short : (10 ^ k * unitsPerOne / 1).log2 ≤ 2096 := by
    rw [Nat.div_one]
    exact Nat.le_trans (Double.log2_le_of_le (Nat.mul_le_mul_right _ large)) (by decide)
  obtain ⟨power, hp, _⟩ := Double.nearest_finite false short
  obtain ⟨low, _⟩ := Double.units_near hp
  rw [Nat.div_one] at low
  have one : unitsPerOne ≤ 10 ^ k * unitsPerOne :=
    Nat.le_mul_of_pos_left _ (Nat.pow_pos (by decide))
  exact ⟨power, hp, Nat.le_trans one low, Double.within_of_integer hp large⟩

/-- A number of moderate size is scaled to some double. -/
theorem exists_scale? {x : FiniteDouble} (moderate : Double.Within x 66) {place : Int}
    (few : place.natAbs ≤ 40) (fuel : Nat) : ∃ y, scale? fuel x place = some y := by
  obtain ⟨power, hp, one, size⟩ := exists_powerOfTen few
  have small : place.natAbs ≤ 308 := Nat.le_trans few (by decide)
  rw [scale?.eq_def, if_pos small, hp, Double.finite?_finite, Option.bind_some]
  split
  · obtain ⟨y, hy⟩ := Double.exists_mul moderate size (by decide)
    exact ⟨y, by rw [hy, Double.finite?_finite]⟩
  · obtain ⟨y, hy⟩ := Double.exists_div moderate one (by decide)
    exact ⟨y, by rw [hy, Double.finite?_finite]⟩

/-- A number with few digits and a small exponent has a double. -/
theorem exists_toDouble? {number : NumberText} (fits : number.significand < 2 ^ 64)
    (few : number.place.natAbs ≤ 40) : ∃ y, number.toDouble? = some y := by
  have magnitude : (number.significand : Int).natAbs < 2 ^ 64 := fits
  obtain ⟨x, hx⟩ := Double.ofInt_finite magnitude
  obtain ⟨y, hy⟩ := exists_scale? (Double.within_of_integer hx (Nat.le_of_lt magnitude)) few 4
  exact ⟨_, by rw [toDouble?_of_significand_lt fits hx, hy, Option.map_some]⟩

/-! ### Integers -/

variable {n : Int} {x : FiniteDouble} (h : Double.ofInt n = .finite x)
include h

/-- The double of an integer has at least its size if it is not zero, and not much more. -/
theorem units_bounds_of_ofInt (bound : n.natAbs < 2 ^ 64) (positive : 0 < x.units) :
    unitsPerOne ≤ x.units ∧ x.units < 10 ^ 20 * unitsPerOne := by
  obtain ⟨low, high⟩ := Double.units_near h
  have onePos := Double.unitsPerOne_pos
  have scaled := Nat.mul_le_mul_right unitsPerOne (Nat.le_of_lt bound)
  rw [Nat.div_one] at low high
  refine ⟨?_, ?_⟩
  · by_cases small : n.natAbs < 2 ^ 53
    · obtain ⟨y, hy, _, units⟩ := Double.ofInt_exact small
      obtain rfl := Double.finite.inj (h.symm.trans hy)
      rw [units] at positive ⊢
      exact Nat.le_mul_of_pos_left _ (Nat.pos_of_mul_pos_right positive)
    · have large : 2 * unitsPerOne ≤ n.natAbs * unitsPerOne :=
        Nat.mul_le_mul_right _ (by omega)
      exact Nat.le_of_mul_le_mul_left (Nat.le_trans large low) (by decide)
  · generalize unitsPerOne = one at *
    omega

/-- The digits of the double of an integer of 64 bits fit 64 bits, and its exponent is small. -/
theorem ofMagnitude_bounds (bound : n.natAbs < 2 ^ 64) :
    (ofMagnitude x).significand < 2 ^ 64 ∧ (ofMagnitude x).place.natAbs ≤ 40 := by
  rcases ofMagnitude_cases x with ⟨_, he⟩ | ⟨_, positive, he⟩
  · rw [he]
    exact ⟨by decide, by decide⟩
  · rw [he]
    obtain ⟨low, high⟩ := units_bounds_of_ofInt h bound positive
    obtain ⟨places, few, leading⟩ := leadingExponent_bounds low high
    obtain ⟨_, digits, least, greatest⟩ := shortest_bounds .even positive
    rw [leading] at least greatest
    rcases value_ofDecimal (x.shortest .even) with ⟨_, significand, place⟩ |
      ⟨zeros, _, short, significand, place⟩
    · rw [significand, place]
      exact ⟨by omega, by omega⟩
    · rw [significand, place]
      refine ⟨?_, by decide⟩
      calc (x.shortest .even).digits * 10 ^ zeros * 10
          < 10 ^ (natText (x.shortest .even).digits).length * 10 ^ zeros * 10 := by
            refine Nat.mul_lt_mul_of_pos_right ?_ (by decide)
            exact Nat.mul_lt_mul_of_pos_right (lt_pow_length_natText _) (Nat.pow_pos (by decide))
        _ = 10 ^ ((natText (x.shortest .even).digits).length + zeros + 1) := by
            rw [Nat.pow_succ, Nat.pow_add]
        _ ≤ 10 ^ 17 := Nat.pow_le_pow_right (by decide) (by omega)
        _ ≤ 2 ^ 64 := by decide

/-- The double of an integer of 64 bits is read back as some double. -/
theorem exists_reread? (bound : n.natAbs < 2 ^ 64) : ∃ y, reread? x = some y := by
  obtain ⟨fits, few⟩ := ofMagnitude_bounds h bound
  exact exists_toDouble? fits few

/-- An integer of at most sixteen digits is written with a zero after the point. -/
theorem significand_ofDouble (short : n.natAbs < 10 ^ 16) (bound : n.natAbs < 2 ^ 53) :
    (NumberText.ofDouble x).significand = n.natAbs * 10 ∧
      (NumberText.ofDouble x).place = -1 := by
  obtain ⟨y, hy, _, units⟩ := Double.ofInt_exact bound
  obtain rfl := Double.finite.inj (h.symm.trans hy)
  show (ofMagnitude x).significand = _ ∧ (ofMagnitude x).place = _
  rcases ofMagnitude_cases x with ⟨zero, he⟩ | ⟨_, some', he⟩
  · have none : n.natAbs = 0 := by
      rw [FiniteDouble.units, beq_iff_eq.mp zero, Nat.zero_mul] at units
      exact (Nat.mul_eq_zero.mp units.symm).resolve_right (Nat.ne_of_gt Double.unitsPerOne_pos)
    rw [he, none]
    exact ⟨rfl, rfl⟩
  · have positive : 0 < n.natAbs := by
      rw [units] at some'
      exact Nat.pos_of_mul_pos_right some'
    obtain ⟨zeros, exponent, value⟩ := shortest_of_integer units bound .even positive
    have digits := (shortest_bounds .even some').1
    have length : (natText (x.shortest .even).digits).length + zeros ≤ 16 := by
      have all := length_natText_le short
      rwa [← value, natText_mul_pow digits, List.length_append, List.length_replicate] at all
    rw [he]
    rcases value_ofDecimal (x.shortest .even) with ⟨notWhole, _⟩ |
      ⟨zeros', exponent', _, significand, place⟩
    · refine absurd ⟨?_, ?_⟩ notWhole
      · rw [exponent]
        exact Int.natCast_nonneg zeros
      · rw [exponent]
        exact_mod_cast length
    · obtain rfl : zeros = zeros' := Int.natCast_inj.mp (exponent.symm.trans exponent')
      rw [significand, place, value]
      exact ⟨rfl, rfl⟩

omit h in
/-- A number and its tenfold. -/
theorem div_ten {y power : FiniteDouble} {m : Nat} (tenfold : y.units = m * 10 * unitsPerOne)
    (ten : power.units = 10 * unitsPerOne) (sign : y.negative = power.negative) :
    Double.div y power = Double.nearest false m 1 := by
  have factor : 0 < 10 * unitsPerOne := Nat.mul_pos (by decide) Double.unitsPerOne_pos
  rw [Double.div, tenfold, ten, sign, bne_self_eq_false, Nat.mul_assoc,
    ← Double.nearest_mul_mul false m 1 factor, Nat.one_mul]

/-- The magnitude is read first and gets its sign afterwards. -/
theorem nearest_natAbs : ∃ z, Double.nearest false n.natAbs 1 = .finite z ∧
    (if x.negative then z.neg else z) = x := by
  have sign := Double.negative_of_nearest h
  rw [Double.ofInt] at h
  cases negative : decide (n < 0) with
  | false =>
    rw [negative] at h sign
    exact ⟨x, h, by rw [sign, if_neg Bool.false_ne_true]⟩
  | true =>
    rw [negative] at h sign
    refine ⟨x.neg, ?_, ?_⟩
    · rw [← Bool.not_true, Double.nearest_not, h]
      rfl
    · rw [sign, if_pos rfl, FiniteDouble.neg, FiniteDouble.neg, Bool.not_not]

/-- **An integer of at most `2 ^ 54 / 10` is read back as itself.** -/
theorem reread?_of_integer (bound : n.natAbs ≤ 1801439850948198) : reread? x = some x := by
  obtain ⟨significand, place⟩ := significand_ofDouble h (by omega) (by omega)
  have fits : (NumberText.ofDouble x).significand < 0x10000000000000000 := by omega
  have tenfold : n.natAbs * 10 = n.natAbs * 5 * 2 ^ 1 := by omega
  obtain ⟨y, hy, ySign, yUnits⟩ :=
    Double.nearest_shifted_exact false (show n.natAbs * 5 < 2 ^ 53 by omega) (by decide : 1 ≤ 971)
  obtain ⟨power, hp, powerSign, powerUnits⟩ :=
    Double.nearest_integer_exact false (by decide : 10 < 2 ^ 53)
  rw [← tenfold] at hy yUnits
  have digits : Double.ofInt (NumberText.ofDouble x).significand = .finite y := by
    rw [significand, Double.ofInt_natCast, hy]
  have ten : powerOfTen (-1 : Int).natAbs = .finite power := hp
  obtain ⟨z, hz, signed⟩ := nearest_natAbs h
  have sign : (NumberText.ofDouble x).negative = x.negative := rfl
  have scaled : scale? 4 y (-1) = some z := by
    rw [scale?.eq_def, if_pos (by decide), ten]
    rw [Double.finite?_finite, Option.bind_some, if_neg (by decide),
      div_ten yUnits powerUnits (ySign.trans powerSign.symm), hz, Double.finite?_finite]
  rw [reread?, toDouble?_of_significand_lt fits digits, place, scaled, Option.map_some, sign,
    signed]

omit h in
/-- The next integer comes back as another double. -/
theorem exists_reread?_ne :
    ∃ x, Double.ofInt 1801439850948199 = .finite x ∧ reread? x ≠ some x := by
  obtain ⟨x, hx⟩ := Double.ofInt_finite (by decide : (1801439850948199 : Int).natAbs < 2 ^ 64)
  have other : (Double.ofInt 1801439850948199).finite?.bind reread? ≠
      (Double.ofInt 1801439850948199).finite? := by
    decide +kernel
  rw [hx, Double.finite?_finite, Option.bind_some] at other
  exact ⟨x, hx, other⟩

end DeviceModel.Json
