import DeviceModel.Json.Printer
import DeviceModel.Json.Reader
import Mathlib.Tactic.SplitIfs

/-!
# Texts between quotes read back

Every character of a text is written so that it is read as one code unit, its own code point
(`readUnits?_escape`). No character is half of a surrogate pair, so the code units of a text make up
the text again (`ofUnits?_toNat`), and what is between the quotes is read back (`readText?_quoted`).
-/

namespace DeviceModel.Json

open Text

/-- The four hexadecimal digits of a control character. -/
theorem basedNat?_control :
    ∀ n < 32, basedNat? 16 ['0', '0', basedChar (n / 16), basedChar (n % 16)] = some n := by
  decide

/-- A letter after a backslash is read as the code point that it stands for. -/
theorem readUnits?_letter {letter : Char} {unit : Nat} (value : escapeValue? letter = some unit)
    (rest : List Char) :
    readUnits? ('\\' :: letter :: rest) =
      (readUnits? rest).map fun read => (unit :: read.1, read.2) := by
  have other : letter ≠ 'u' := by
    rintro rfl
    simp [escapeValue?] at value
  rw [readUnits?]
  · rw [value]
    cases readUnits? rest <;> rfl
  · rintro _ _ _ _ _ he
    exact absurd he other

/-- A character that needs no escape is read as itself. -/
theorem readUnits?_plain {c : Char} (quote : c ≠ '"') (backslash : c ≠ '\\')
    (control : ¬c.toNat < 0x20) (rest : List Char) :
    readUnits? (c :: rest) = (readUnits? rest).map fun read => (c.toNat :: read.1, read.2) := by
  rw [readUnits?]
  · rw [if_neg control]
    cases readUnits? rest <;> rfl
  · exact quote
  · rintro _ _ _ _ _ he
    exact absurd he backslash
  · rintro _ _ he
    exact absurd he backslash

theorem readUnits?_escape (c : Char) (rest : List Char) :
    readUnits? (escape c ++ rest) =
      (readUnits? rest).map fun read => (c.toNat :: read.1, read.2) := by
  unfold escape
  split_ifs with quote backslash newLine carriageReturn tabulator backspace formFeed control
  · subst quote
    exact readUnits?_letter rfl rest
  · subst backslash
    exact readUnits?_letter rfl rest
  · subst newLine
    exact readUnits?_letter rfl rest
  · subst carriageReturn
    exact readUnits?_letter rfl rest
  · subst tabulator
    exact readUnits?_letter rfl rest
  · rw [backspace]
    exact readUnits?_letter rfl rest
  · rw [formFeed]
    exact readUnits?_letter rfl rest
  · simp only [List.cons_append, List.nil_append, readUnits?, basedNat?_control _ control]
    cases readUnits? rest <;> rfl
  · exact readUnits?_plain quote backslash control rest

theorem readUnits?_quoted (s rest : List Char) :
    readUnits? (s.flatMap escape ++ '"' :: rest) = some (s.map Char.toNat, rest) := by
  induction s with
  | nil => simp [readUnits?]
  | cons c s ih =>
    rw [List.flatMap_cons, List.append_assoc, readUnits?_escape, ih]
    rfl

/-- No character is half of a surrogate pair. -/
theorem ofUnits?_toNat (s : List Char) : ofUnits? (s.map Char.toNat) = some s := by
  induction s with
  | nil => rfl
  | cons c s ih =>
    have valid : c.toNat < 0xD800 ∨ 0xDFFF < c.toNat ∧ c.toNat < 0x110000 := c.valid
    rw [List.map_cons, ofUnits?.eq_def]
    dsimp only
    rw [if_neg (by omega), if_neg (by omega), ih, Char.ofNat_toNat]
    rfl

theorem readText?_quoted (s : String) (rest : List Char) :
    readText? (s.toList.flatMap escape ++ '"' :: rest) = some (some s, rest) := by
  rw [readText?, readUnits?_quoted, Option.map_some]
  dsimp only
  rw [ofUnits?_toNat, Option.map_some, String.ofList_toList]

end DeviceModel.Json
