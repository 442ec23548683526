import Mathlib.Tactic.SplitIfs

/-!
# Texts in the order of their bytes

Texts are ordered by their characters. UTF-8 keeps this order, so texts that ascend also ascend by
their bytes (`bytes_lt_bytes`). The reason is that the encodings of two characters differ in a byte
that both have, whatever follows them (`utf8EncodeChar_append_lt`).
-/

namespace DeviceModel.Text

/-- The bytes of a text in UTF-8. -/
def bytes (s : String) : List UInt8 :=
  s.toUTF8.data.toList

theorem bytes_eq (s : String) : bytes s = s.toList.flatMap String.utf8EncodeChar := by
  rw [bytes, String.toUTF8_eq_toByteArray, ← String.utf8Encode_toList, List.utf8Encode,
    List.toList_data_toByteArray]

/-- The first byte decides, or what follows it if the first bytes are the same. -/
theorem ofNat_cons_lt {a b : Nat} (bound : b < 256) (le : a ≤ b) {rest rest' : List UInt8}
    (next : a = b → rest < rest') : UInt8.ofNat a :: rest < UInt8.ofNat b :: rest' := by
  rw [List.cons_lt_cons_iff]
  rcases Nat.lt_or_eq_of_le le with less | same
  · left
    rw [UInt8.lt_iff_toNat_lt, UInt8.toNat_ofNat', UInt8.toNat_ofNat', Nat.mod_eq_of_lt bound,
      Nat.mod_eq_of_lt (Nat.lt_trans less bound)]
    exact less
  · right
    rw [same]
    exact ⟨rfl, next same⟩

/-- The encoding of a character, whatever follows, is less than that of a greater one. -/
theorem utf8EncodeChar_append_lt {c d : Char} (h : c < d) (rest rest' : List UInt8) :
    String.utf8EncodeChar c ++ rest < String.utf8EncodeChar d ++ rest' := by
  have less : c.val.toNat < d.val.toNat := h
  have bound : d.val.toNat < 0x110000 := by
    have valid := d.valid
    simp only [UInt32.isValidChar, Nat.isValidChar] at valid
    omega
  unfold String.utf8EncodeChar
  generalize c.val.toNat = m at less
  generalize d.val.toNat = n at less bound
  dsimp only
  -- byte by byte: if all that two encodings have in common are the same, then so are `m` and `n`
  split_ifs <;> repeat refine ofNat_cons_lt (by omega) (by omega) fun _ => ?_
  all_goals omega

theorem exists_utf8EncodeChar_eq_cons (c : Char) :
    ∃ byte rest, String.utf8EncodeChar c = byte :: rest := by
  refine List.exists_cons_of_length_pos ?_
  rw [String.length_utf8EncodeChar]
  exact c.utf8Size_pos

theorem flatMap_utf8EncodeChar_lt {s t : List Char} (h : s < t) :
    s.flatMap String.utf8EncodeChar < t.flatMap String.utf8EncodeChar := by
  induction h with
  | nil =>
    obtain ⟨byte, rest, he⟩ := exists_utf8EncodeChar_eq_cons _
    rw [List.flatMap_nil, List.flatMap_cons, he]
    exact List.nil_lt_cons _ _
  | rel less =>
    rw [List.flatMap_cons, List.flatMap_cons]
    exact utf8EncodeChar_append_lt less _ _
  | cons _ ih =>
    rw [List.flatMap_cons, List.flatMap_cons]
    exact List.append_left_lt ih

/-- **A text that comes before another has the lesser bytes.** -/
theorem bytes_lt_bytes {s t : String} (h : s < t) : bytes s < bytes t := by
  rw [bytes_eq, bytes_eq]
  exact flatMap_utf8EncodeChar_lt h

end DeviceModel.Text
