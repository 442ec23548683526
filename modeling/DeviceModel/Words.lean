import DeviceModel.Text.Decimal

/-!
# Integers of fixed width

Numbers of attributes have 64 bits, and numbers that come from a value of another kind 32, both
with sign. An integer that does not fit is refused, never cut.
-/

namespace DeviceModel

/-- The 64-bit integer equal to `n`, if there is one. -/
def fitInt64? (n : Int) : Option Int64 :=
  if -0x8000000000000000 ≤ n ∧ n < 0x8000000000000000 then some (Int64.ofInt n) else none

theorem fitInt64?_toInt (n : Int64) : fitInt64? n.toInt = some n := by
  rw [fitInt64?, if_pos ⟨n.le_toInt, n.toInt_lt⟩, Int64.ofInt_toInt]

/-- The 32-bit integer equal to `n`, if there is one. -/
def fitInt32? (n : Int) : Option Int32 :=
  if -0x80000000 ≤ n ∧ n < 0x80000000 then some (Int32.ofInt n) else none

/-- The integer that fits is the same one. -/
theorem fitInt64?_eq_some_iff {n : Int} {m : Int64} : fitInt64? n = some m ↔ m.toInt = n := by
  constructor
  · intro fit
    rw [fitInt64?] at fit
    split at fit
    next range => rw [← Option.some.inj fit, Int64.toInt_ofInt_of_le range.1 range.2]
    next => contradiction
  · rintro rfl
    exact fitInt64?_toInt m

theorem fitInt64?_eq_none_iff {n : Int} :
    fitInt64? n = none ↔ n < -0x8000000000000000 ∨ 0x8000000000000000 ≤ n := by
  rw [fitInt64?]
  split
  next range => exact iff_of_false nofun (by omega)
  next outside => exact iff_of_true rfl (by omega)

theorem fitInt32?_eq_some_iff {n : Int} {m : Int32} : fitInt32? n = some m ↔ m.toInt = n := by
  constructor
  · intro fit
    rw [fitInt32?] at fit
    split at fit
    next range => rw [← Option.some.inj fit, Int32.toInt_ofInt_of_le range.1 range.2]
    next => contradiction
  · rintro rfl
    rw [fitInt32?, if_pos ⟨m.le_toInt, m.toInt_lt⟩, Int32.ofInt_toInt]

theorem fitInt32?_toInt_eq_some_iff {n : Int64} {m : Int32} :
    fitInt32? n.toInt = some m ↔ m.toInt64 = n := by
  rw [fitInt32?_eq_some_iff, ← Int64.toInt_inj, Int32.toInt_toInt64]

theorem fitInt32?_eq_none_iff {n : Int} :
    fitInt32? n = none ↔ n < -0x80000000 ∨ 0x80000000 ≤ n := by
  rw [fitInt32?]
  split
  next range => exact iff_of_false nofun (by omega)
  next outside => exact iff_of_true rfl (by omega)

/-- A 64-bit integer in decimal notation. -/
def int64Text (n : Int64) : String :=
  String.ofList (Text.intText n.toInt)

end DeviceModel
