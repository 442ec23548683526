import DeviceModel.Proofs.Double.Exact
import DeviceModel.Proofs.Item.Reloading
import DeviceModel.Proofs.Text.Integers

/-!
# One integer in several forms

An item of an integer type takes a value for its 32-bit integer and nothing else
(`write_congr_of_coerceInt32?`). An integer, a double that is exactly this integer and a text that
spells it have the same one, so it does not matter in which form an integer is written
(`integer_forms_run`): it is the number if it has 32 bits, checked against the range like any other,
and else it is refused.
-/

namespace DeviceModel.Item

variable {τ : Type} {item : Item τ}

theorem write_of_isInteger (type : item.dataType.isInteger) {v : Value} (hv : v ≠ .null) (now : τ) :
    item.write (.value v) now =
      match v.coerceInt32? with
      | some n => item.write (.number n.toInt64) now
      | none => ⟨false, item⟩ :=
  writeValue_of_isInteger type hv now

theorem write_congr_of_coerceInt32? (type : item.dataType.isInteger) {v w : Value} (hv : v ≠ .null)
    (hw : w ≠ .null) (same : v.coerceInt32? = w.coerceInt32?) (now : τ) :
    item.write (.value v) now = item.write (.value w) now := by
  rw [write_of_isInteger type hv, write_of_isInteger type hw, same]

theorem coerceInt32?_of_toRat {x : FiniteDouble} {n : Int} (exact : x.toRat = n) :
    (Value.float (.finite x)).coerceInt32? = fitInt32? n := by
  exact Value.coerceInt32?_of_isInteger (Value.isInteger_float_iff.mpr ⟨x, rfl, exact⟩)

theorem coerceInt32?_of_spells {s : String} {n : Int} (spells : Text.Spells n s) :
    (Value.string s).coerceInt32? = fitInt32? n := by
  rw [Value.coerceInt32?, Text.int?_of_spells spells]
  rfl

/-- **It does not matter in which form an integer is written** to an item of an integer type, in
every state: as an integer, as a double that is exactly this integer, or as a text of it with blanks
around, zeros in front and a sign that is not wrong. The outcome is that of writing the number if it
has 32 bits, and else it is refused and the item is as it was. -/
theorem integer_forms_run {descriptor : Descriptor} (integer : descriptor.dataType.isInteger)
    (ops : List (Op τ)) (n : Int64) (now : τ) :
    let item : Item τ := (new descriptor).run ops
    let outcome := item.write (.value (.int n)) now
    (∀ x : FiniteDouble, x.toRat = n.toInt →
      item.write (.value (.float (.finite x))) now = outcome) ∧
    (∀ s, Text.Spells n.toInt s → item.write (.value (.string s)) now = outcome) ∧
    (FitsInt32 n → outcome = item.write (.number n) now) ∧
    (¬ FitsInt32 n → outcome = ⟨false, item⟩) := by
  intro item outcome
  have type : item.dataType.isInteger := (new descriptor).dataType_run ops ▸ integer
  have coerced : (Value.int n).coerceInt32? = fitInt32? n.toInt := rfl
  have written : outcome = _ := write_of_isInteger type (v := .int n) nofun now
  rw [coerced] at written
  refine ⟨?_, ?_, ?_, ?_⟩
  · intro x exact
    have same : (Value.float (.finite x)).coerceInt32? = (Value.int n).coerceInt32? := by
      rw [coerceInt32?_of_toRat exact, coerced]
    exact write_congr_of_coerceInt32? type (v := .float (.finite x)) (w := .int n)
      nofun nofun same now
  · intro s spells
    have same : (Value.string s).coerceInt32? = (Value.int n).coerceInt32? := by
      rw [coerceInt32?_of_spells spells, coerced]
    exact write_congr_of_coerceInt32? type (v := .string s) (w := .int n) nofun nofun same now
  · intro fits
    obtain ⟨m, fit, same⟩ := fitInt32?_toInt fits
    rw [written, fit]
    show item.write (.number m.toInt64) now = item.write (.number n) now
    rw [same]
  · intro long
    have none : fitInt32? n.toInt = none := if_neg long
    rw [written, none]

/-- The double `-2.0`. -/
def minusTwo : FiniteDouble := ⟨true, 0x10000000000000, 1023, by decide⟩

/-- A text with blanks of two kinds and zeros, and a double. -/
theorem minusTwo_forms :
    let offset : Descriptor := ⟨"config/offset", .int16, -500, 500⟩
    let item : Item Nat := (new offset).run [.write (.number 7) 1]
    offset.dataType.isInteger ∧ minusTwo.toRat = ((-2 : Int64).toInt : ℚ) ∧
      Text.Spells (-2 : Int64).toInt "\u00a0-0002\n" ∧ FitsInt32 (-2) ∧
      item.write (.value (.float (.finite minusTwo))) 2 = item.write (.number (-2)) 2 ∧
      item.write (.value (.string "\u00a0-0002\n")) 2 = item.write (.number (-2)) 2 ∧
      (item.write (.number (-2)) 2).accepted := by
  intro offset item
  have integer : offset.dataType.isInteger := by decide
  have exact : minusTwo.toRat = ((-2 : Int64).toInt : ℚ) :=
    FiniteDouble.toRat_eq_intCast_iff.mpr (by decide +kernel)
  have spells : Text.Spells (-2 : Int64).toInt "\u00a0-0002\n" := by
    have before : ∀ c ∈ ['\u00a0'], Text.isBlank c = true := List.all_eq_true.mp (by decide)
    have after : ∀ c ∈ ['\n'], Text.isBlank c = true := List.all_eq_true.mp (by decide)
    have shown := Text.Spells.intro 3 before after (.minus (by decide : (-2 : Int) ≤ 0))
    have digits : Text.natText (-2 : Int).natAbs = ['2'] := by
      show Text.natText 2 = ['2']
      rw [Text.natText]
      decide
    rw [digits] at shown
    exact shown
  have fits : FitsInt32 (-2) := by decide
  obtain ⟨floats, texts, number, _⟩ :=
    integer_forms_run integer [.write (.number 7) 1] (-2) 2
  have same := number fits
  exact ⟨integer, exact, spells, fits, (floats minusTwo exact).trans same,
    (texts _ spells).trans same, by decide⟩

end DeviceModel.Item
