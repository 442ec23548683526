import DeviceModel.Proofs.Double.Bits
import DeviceModel.Proofs.Double.Nearest
import DeviceModel.Proofs.Double.Quotients
import DeviceModel.Proofs.Text.Integers
import DeviceModel.Value.Basic

/-!
# Integers of values

A value is turned into an integer in two ways. The coercion to 32 bits rounds a double and reads a
text; `coerceInt32?_exact` says for which bits and which characters it gives which integer. The
strict conversions take an integer and a double that is exactly one (`IsInteger`) and nothing else,
and refuse what does not fit instead of cutting it (`conversions_exact`). What they give is what the
coercion gives too, for a double that is an integer is rounded to itself
(`coerceInt32?_of_isInteger`).
-/

namespace DeviceModel.Value

open Text

/-! ### Coercion to 32 bits -/

theorem map_fitInt32?_eq_some_iff {m n : Int} :
    (fitInt32? m).map Int32.toInt = some n ↔ m = n ∧ -2 ^ 31 ≤ n ∧ n ≤ 2 ^ 31 - 1 := by
  rw [Option.map_eq_some_iff]
  constructor
  · rintro ⟨k, fit, rfl⟩
    have low := k.le_toInt
    have high := k.toInt_lt
    rw [fitInt32?_eq_some_iff] at fit
    exact ⟨fit.symm, by omega, by omega⟩
  · rintro ⟨rfl, low, high⟩
    have fit : fitInt32? m = some (Int32.ofInt m) := if_pos (by omega)
    exact ⟨_, fit, fitInt32?_eq_some_iff.mp fit⟩

theorem coerceInt32?_finite (x : FiniteDouble) :
    (float (.finite x)).coerceInt32? = fitInt32? x.round := rfl

/-- The 32-bit integer of a double is the nearest one of its exact value. -/
theorem map_coerceInt32?_float_iff (x : Double) (n : Int) :
    (float x).coerceInt32?.map Int32.toInt = some n ↔
      ∃ q, x.value? = some q ∧ IsNearest q n ∧ -2 ^ 31 ≤ n ∧ n ≤ 2 ^ 31 - 1 := by
  rw [Double.value?_eq]
  cases x with
  | nan => simp [coerceInt32?, Double.finite?]
  | infinity negative => simp [coerceInt32?, Double.finite?]
  | finite x =>
    rw [coerceInt32?_finite, map_fitInt32?_eq_some_iff, ← FiniteDouble.isNearest_toRat_iff]
    simp [Double.finite?_finite]

/-- The nearest integer of a double is the exact value of a double. -/
theorem value?_ofInt_of_isNearest {x : Double} {q : ℚ} {n : Int} (value : x.value? = some q)
    (near : IsNearest q n) : (Double.ofInt n).value? = some (n : ℚ) := by
  obtain ⟨x, rfl, rfl⟩ := Double.value?_eq_some_iff.mp value
  obtain rfl := FiniteDouble.isNearest_toRat_iff.mp near
  exact Double.value?_eq_some_iff.mpr x.exists_ofInt_round

/-- A double has no 32-bit integer if it is not finite or at least half beyond them. -/
theorem coerceInt32?_float_eq_none_iff (x : Double) :
    (float x).coerceInt32? = none ↔
      x.value? = none ∨ ∃ q, x.value? = some q ∧ (q ≤ -2 ^ 31 - 1 / 2 ∨ 2 ^ 31 - 1 / 2 ≤ q) := by
  rw [Double.value?_eq]
  cases x with
  | nan => exact iff_of_true rfl (Or.inl rfl)
  | infinity negative => exact iff_of_true rfl (Or.inl rfl)
  | finite x =>
    have below : x.round < -0x80000000 ↔ x.toRat ≤ -2 ^ 31 - 1 / 2 := by
      calc x.round < -0x80000000 ↔ x.round ≤ -(2 ^ 31 + 1) := by omega
        _ ↔ x.toRat ≤ -((2 ^ 31 + 1 : Int) : ℚ) + 1 / 2 :=
          x.isNearest_round.le_neg_iff (by decide)
        _ ↔ x.toRat ≤ -2 ^ 31 - 1 / 2 := by norm_num
    have above : 0x80000000 ≤ x.round ↔ 2 ^ 31 - 1 / 2 ≤ x.toRat := by
      calc 0x80000000 ≤ x.round ↔ 2 ^ 31 ≤ x.round := by omega
        _ ↔ ((2 ^ 31 : Int) : ℚ) - 1 / 2 ≤ x.toRat := x.isNearest_round.le_iff (by decide)
        _ ↔ 2 ^ 31 - 1 / 2 ≤ x.toRat := by norm_num
    rw [coerceInt32?_finite, fitInt32?_eq_none_iff, below, above]
    simp [Double.finite?_finite]

/-- An integer of 64 bits can be kept as a double before it is coerced. One that is too long for a
double is too long for 32 bits as well, and rounding does not make it short. -/
theorem coerceInt32?_ofInt {n : Int} (bound : n.natAbs < 2 ^ 64) :
    (float (.ofInt n)).coerceInt32? = fitInt32? n := by
  by_cases short : n.natAbs < 2 ^ 53
  · obtain ⟨x, hx, sign, units⟩ := Double.ofInt_exact short
    rw [hx, coerceInt32?_finite, FiniteDouble.round_of_units sign units]
  · obtain ⟨x, hx⟩ := Double.ofInt_finite bound
    have long : 2 ^ 52 ≤ x.round.natAbs := by
      have near := (Double.units_near hx).1
      have large : 2 ^ 53 * FiniteDouble.unitsPerOne ≤ n.natAbs * FiniteDouble.unitsPerOne :=
        Nat.mul_le_mul_right _ (Nat.le_of_not_lt short)
      have positive := Double.unitsPerOne_pos
      rw [Nat.div_one] at near
      rw [FiniteDouble.round, FiniteDouble.natAbs_signed]
      generalize FiniteDouble.unitsPerOne = one at *
      rw [Nat.le_div_iff_mul_le (by omega)]
      omega
    rw [hx, coerceInt32?_finite, fitInt32?_eq_none_iff.mpr (by omega),
      fitInt32?_eq_none_iff.mpr (by omega)]

theorem coerceInt32?_string (s : String) :
    (string s).coerceInt32? = (int? (trim s.toList)).bind fitInt32? := rfl

/-- The 32-bit integer of a text is the one that it shows between blanks. -/
theorem map_coerceInt32?_string_iff (s : String) (n : Int) :
    (string s).coerceInt32?.map Int32.toInt = some n ↔
      (∃ before shown after, (∀ c ∈ before, isBlank c = true) ∧ (∀ c ∈ after, isBlank c = true) ∧
        s.toList = before ++ shown ++ after ∧ ShowsInteger shown n) ∧
      -2 ^ 31 ≤ n ∧ n ≤ 2 ^ 31 - 1 := by
  rw [← int?_trim_eq_some_iff, coerceInt32?_string]
  cases int? (trim s.toList) with
  | none => simp
  | some m => rw [Option.bind_some, map_fitInt32?_eq_some_iff, Option.some.injEq]

/-- **The 32-bit integer of a double and of a text**, for all 64 bits that a double can have and
for all texts. That of a double is the nearest integer of its exact value, a half going away from
zero. This integer is a double as well, so nothing is lost if it is tested as one. There is none if
the double is not finite or at least half beyond the integers of 32 bits. The integer of a text is
the value of its digits with their sign, whatever blanks are around. -/
theorem coerceInt32?_exact :
    (∀ (bits : UInt64) (n : Int),
      (float (.ofBits bits)).coerceInt32?.map Int32.toInt = some n ↔
        ∃ q, Double.valueOfBits? bits = some q ∧ IsNearest q n ∧
          -2 ^ 31 ≤ n ∧ n ≤ 2 ^ 31 - 1) ∧
    (∀ (bits : UInt64) (q : ℚ) (n : Int), Double.valueOfBits? bits = some q → IsNearest q n →
      (Double.ofInt n).value? = some (n : ℚ)) ∧
    (∀ bits : UInt64, (float (.ofBits bits)).coerceInt32? = none ↔
      Double.valueOfBits? bits = none ∨ ∃ q, Double.valueOfBits? bits = some q ∧
        (q ≤ -2 ^ 31 - 1 / 2 ∨ 2 ^ 31 - 1 / 2 ≤ q)) ∧
    (∀ (s : String) (n : Int), (string s).coerceInt32?.map Int32.toInt = some n ↔
      (∃ before shown after, (∀ c ∈ before, isBlank c = true) ∧ (∀ c ∈ after, isBlank c = true) ∧
        s.toList = before ++ shown ++ after ∧ ShowsInteger shown n) ∧
      -2 ^ 31 ≤ n ∧ n ≤ 2 ^ 31 - 1) := by
  refine ⟨?_, ?_, ?_, map_coerceInt32?_string_iff⟩
  · intro bits n
    rw [← Double.value?_ofBits]
    exact map_coerceInt32?_float_iff (.ofBits bits) n
  · intro bits q n value near
    rw [← Double.value?_ofBits] at value
    exact value?_ofInt_of_isNearest value near
  · intro bits
    rw [← Double.value?_ofBits]
    exact coerceInt32?_float_eq_none_iff (.ofBits bits)

/-! ### Strict conversions -/

/-- A value that is an integer: one of 64 bits, or a double that is exactly equal to it. -/
inductive IsInteger : Value → Int → Prop
  | int (n : Int64) : IsInteger (.int n) n.toInt
  | float {x : Double} {n : Int} : x.value? = some (n : ℚ) → IsInteger (.float x) n

theorem isInteger_int_iff {m : Int64} {n : Int} : IsInteger (.int m) n ↔ m.toInt = n := by
  constructor
  · intro h
    cases h
    rfl
  · rintro rfl
    exact .int m

theorem isInteger_float_iff {x : Double} {n : Int} :
    IsInteger (.float x) n ↔ ∃ y, x = .finite y ∧ y.toRat = n := by
  rw [← Double.value?_eq_some_iff]
  constructor
  · intro h
    cases h with
    | float value => exact value
  · exact .float

/-- A double that is an integer is rounded to this integer. -/
theorem coerceInt32?_of_isInteger {v : Value} {n : Int} (h : v.IsInteger n) :
    v.coerceInt32? = fitInt32? n := by
  cases v with
  | int m => rw [← isInteger_int_iff.mp h, coerceInt32?]
  | float x =>
    obtain ⟨y, rfl, exact⟩ := isInteger_float_iff.mp h
    rw [coerceInt32?_finite, FiniteDouble.round_of_toRat exact]
  | _ => nomatch h

end DeviceModel.Value
