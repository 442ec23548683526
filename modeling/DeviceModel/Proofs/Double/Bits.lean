import DeviceModel.Proofs.Double.Exact
import Mathlib.Tactic.NormNum

/-!
# The number that a pattern of bits stands for

`valueOfBits?` says it as the interchange format does: sign, exponent and fraction are fields of the
64 bits, and the number is a rational one. It is the exact value of the double that is made of the
pattern (`value?_ofBits`). Every double is made of one (`ofBits_toBits`), so what holds of all
patterns holds of all doubles, and a finite one has no other (`toBits_ofBits`).
-/

namespace DeviceModel

/-- A finite double is its significand with its sign, scaled by a power of two. -/
theorem FiniteDouble.toRat_eq_scaled (x : FiniteDouble) :
    x.toRat = (if x.negative then -1 else 1) * x.significand * 2 ^ ((x.exponent : ℤ) - 1074) := by
  obtain ⟨bits, length, one⟩ := Double.exists_unitsPerOne
  have scale : (x.exponent : ℤ) - 1074 = x.exponent - bits := by omega
  rw [scale, zpow_sub₀ (by norm_num), zpow_natCast, zpow_natCast, toRat, signed, units, one,
    Nat.pow_eq]
  split_ifs <;> push_cast <;> ring

namespace Double

/-- The number of a pattern, if it is a finite one. The highest bit is the sign, 11 bits are the
exponent and 52 the fraction. A one stands in front of the fraction unless the exponent is zero. -/
def valueOfBits? (bits : UInt64) : Option ℚ :=
  let sign : ℚ := if bits.toNat / 2 ^ 63 % 2 = 1 then -1 else 1
  let exponent : Nat := bits.toNat / 2 ^ 52 % 2 ^ 11
  let fraction : Nat := bits.toNat % 2 ^ 52
  if exponent = 2 ^ 11 - 1 then none
  else if exponent = 0 then some (sign * fraction * 2 ^ (-1074 : ℤ))
  else some (sign * (2 ^ 52 + fraction) * 2 ^ ((exponent : ℤ) - 1075))

/-- The exact value of a double, if it is finite. -/
def value? (x : Double) : Option ℚ :=
  valueOfBits? x.toBits

/-! ### From bits to doubles and back -/

theorem map_toRat_ofBits (bits : UInt64) :
    (ofBits bits).finite?.map FiniteDouble.toRat = valueOfBits? bits := by
  unfold ofBits valueOfBits?
  norm_num only
  by_cases special : bits.toNat / 4503599627370496 % 2048 = 2047
  · rw [dif_pos special, if_pos special]
    split <;> rfl
  rw [dif_neg special, if_neg special]
  by_cases subnormal : bits.toNat / 4503599627370496 % 2048 = 0
  · rw [if_pos subnormal, if_pos subnormal, finite?_finite, Option.map_some,
      FiniteDouble.toRat_eq_scaled]
    simp only [beq_iff_eq]
    norm_num only
  · have exponent : ((bits.toNat / 4503599627370496 % 2048 - 1 : Nat) : ℤ) - 1074 =
        (bits.toNat / 4503599627370496 % 2048 : Nat) - 1075 := by
      omega
    rw [if_neg subnormal, if_neg subnormal, finite?_finite, Option.map_some,
      FiniteDouble.toRat_eq_scaled]
    simp only [beq_iff_eq, exponent]
    push_cast
    rfl

/-- A pattern with the fields of a finite double stands for it. -/
theorem ofBits_eq_finite {bits : UInt64} {x : FiniteDouble}
    (fields : bits.toNat =
      toBits.signBit x.negative + (x.exponent * 0x10000000000000 + x.significand)) :
    ofBits bits = finite x := by
  obtain ⟨negative, significand, exponent, canonical⟩ := x
  obtain ⟨short, bound, leading⟩ := id canonical
  dsimp only at fields
  obtain ⟨sign, rest⟩ : (bits.toNat / 0x8000000000000000 % 2 == 1) = negative ∧
      bits.toNat % 0x8000000000000000 = exponent * 0x10000000000000 + significand := by
    unfold toBits.signBit at fields
    split at fields
    next minus =>
      rw [minus, beq_iff_eq]
      omega
    next plus =>
      rw [Bool.not_eq_true] at plus
      rw [plus, beq_eq_false_iff_ne]
      omega
  unfold ofBits
  dsimp only
  rw [dif_neg (by omega)]
  split
  next subnormal =>
    simp only [sign, finite.injEq, FiniteDouble.mk.injEq, true_and]
    omega
  next normal =>
    simp only [sign, finite.injEq, FiniteDouble.mk.injEq, true_and]
    omega

/-- **Every double has a pattern.** -/
theorem ofBits_toBits (x : Double) : ofBits x.toBits = x := by
  cases x with
  | nan => decide
  | infinity negative => cases negative <;> decide
  | finite x =>
    apply ofBits_eq_finite
    obtain ⟨short, bound, _⟩ := x.canonical
    rw [toBits, UInt64.toNat_ofNat']
    unfold toBits.signBit
    split <;> omega

theorem signBit_add_mod (bits : UInt64) :
    toBits.signBit (bits.toNat / 0x8000000000000000 % 2 == 1) +
      bits.toNat % 0x8000000000000000 = bits.toNat := by
  have bound := bits.toNat_lt
  unfold toBits.signBit
  split
  next minus =>
    rw [beq_iff_eq] at minus
    omega
  next plus =>
    rw [beq_iff_eq] at plus
    omega

/-- **A finite double keeps its pattern.** -/
theorem toBits_ofBits {bits : UInt64} {q : ℚ} (value : valueOfBits? bits = some q) :
    (ofBits bits).toBits = bits := by
  rw [← map_toRat_ofBits] at value
  have split := signBit_add_mod bits
  rw [← UInt64.toNat_inj]
  unfold ofBits at value ⊢
  dsimp only at value ⊢
  by_cases special : bits.toNat / 0x10000000000000 % 2048 = 2047
  · rw [dif_pos special] at value
    split at value <;> contradiction
  rw [dif_neg special]
  have bound := bits.toNat_lt
  split
  next subnormal =>
    rw [toBits, UInt64.toNat_ofNat']
    dsimp only
    omega
  next normal =>
    rw [toBits, UInt64.toNat_ofNat']
    dsimp only
    omega

theorem value?_eq (x : Double) : x.value? = x.finite?.map FiniteDouble.toRat := by
  rw [value?, ← map_toRat_ofBits, ofBits_toBits]

theorem value?_eq_some_iff {x : Double} {q : ℚ} :
    x.value? = some q ↔ ∃ y, x = finite y ∧ y.toRat = q := by
  rw [value?_eq]
  cases x with
  | nan => exact iff_of_false nofun nofun
  | infinity negative => exact iff_of_false nofun nofun
  | finite y => simp [finite?_finite]

/-- **The exact value of the double of a pattern is the number of the pattern.** -/
theorem value?_ofBits (bits : UInt64) : (ofBits bits).value? = valueOfBits? bits := by
  rw [value?_eq, map_toRat_ofBits]

end Double

end DeviceModel
