import DeviceModel.Text.Decimal
import Mathlib.Algebra.Group.Nat.Defs
import Mathlib.Data.List.Induction
import Mathlib.Data.List.TakeWhile
import Mathlib.Tactic.Ring

/-!
# Decimal notation read back

The digits of a number read back as the number (`natOf_natText`), and zeros in front of them do not
count (`natOf_padded`). Both are digits and nothing else, so a reader of digits stops where they end
(`readDigits?_append`). A number below `10 ^ width` fills its width exactly (`length_padded`), and
the digits that fill it are those of one number alone (`padded_natOf`). Zeros at the end of the
digits of a number are a power of ten (`natText_mul_pow`).
-/

namespace DeviceModel.Text

theorem digitValue_digitChar : ∀ d < 10, digitValue (digitChar d) = d := by
  decide

theorem isDigit_digitChar : ∀ d < 10, (digitChar d).isDigit = true := by
  decide

/-! ### Digits of a number -/

theorem natOf_concat (digits : List Char) (c : Char) :
    natOf (digits ++ [c]) = 10 * natOf digits + digitValue c := by
  rw [natOf, List.foldl_append]
  rfl

/-- Digits after a number that was read already. -/
theorem foldl_digits (value : Nat) (digits : List Char) :
    digits.foldl (fun n c => 10 * n + digitValue c) value =
      value * 10 ^ digits.length + natOf digits := by
  induction digits generalizing value with
  | nil => simp [natOf]
  | cons c digits ih =>
    rw [natOf, List.foldl_cons, List.foldl_cons, ih, ih, List.length_cons, Nat.pow_succ]
    ring

theorem natOf_append (front back : List Char) :
    natOf (front ++ back) = natOf front * 10 ^ back.length + natOf back := by
  rw [natOf, List.foldl_append]
  exact foldl_digits _ back

theorem natOf_natText (n : Nat) : natOf (natText n) = n := by
  fun_induction natText n with
  | case1 n small => simp [natOf, digitValue_digitChar n small]
  | case2 n large ih =>
    rw [natOf_concat, ih, digitValue_digitChar _ (Nat.mod_lt _ (by omega))]
    omega

theorem isDigit_of_mem_natText {n : Nat} : ∀ c ∈ natText n, c.isDigit = true := by
  fun_induction natText n with
  | case1 n small =>
    intro c mem
    rw [List.mem_singleton.mp mem]
    exact isDigit_digitChar n small
  | case2 n large ih =>
    intro c mem
    rcases List.mem_append.mp mem with front | last
    · exact ih c front
    · rw [List.mem_singleton.mp last]
      exact isDigit_digitChar _ (Nat.mod_lt _ (by omega))

theorem natText_ne_nil (n : Nat) : natText n ≠ [] := by
  fun_induction natText n <;> simp

theorem length_natText_le {width n : Nat} (bound : n < 10 ^ (width + 1)) :
    (natText n).length ≤ width + 1 := by
  induction width generalizing n with
  | zero =>
    have small : n < 10 := by simpa using bound
    rw [natText, if_pos small]
    rfl
  | succ width ih =>
    rw [natText]
    split
    · simp
    · have front : (natText (n / 10)).length ≤ width + 1 := by
        apply ih
        rw [Nat.pow_succ] at bound
        omega
      rw [List.length_append, List.length_singleton]
      omega

theorem digitChar_ne_zero : ∀ d < 10, 0 < d → digitChar d ≠ '0' := by
  decide

/-- A positive number is written without a zero in front. -/
theorem exists_natText_eq_cons {n : Nat} (positive : 0 < n) :
    ∃ c rest, natText n = c :: rest ∧ c ≠ '0' := by
  fun_induction natText n with
  | case1 n small => exact ⟨_, [], rfl, digitChar_ne_zero n small positive⟩
  | case2 n large ih =>
    obtain ⟨c, rest, he, ne⟩ := ih (by omega)
    exact ⟨c, rest ++ [digitChar (n % 10)], by rw [he, List.cons_append], ne⟩

theorem natText_mul_ten {n : Nat} (positive : 0 < n) : natText (n * 10) = natText n ++ ['0'] := by
  rw [natText, if_neg (by omega), Nat.mul_div_cancel _ (by decide), Nat.mul_mod_left]
  rfl

/-- A power of ten as a factor is zeros at the end. -/
theorem natText_mul_pow {n : Nat} (positive : 0 < n) (zeros : Nat) :
    natText (n * 10 ^ zeros) = natText n ++ List.replicate zeros '0' := by
  induction zeros with
  | zero => simp
  | succ zeros ih =>
    have front : 0 < n * 10 ^ zeros := Nat.mul_pos positive (Nat.pow_pos (by decide))
    rw [Nat.pow_succ, ← Nat.mul_assoc, natText_mul_ten front, ih, List.append_assoc,
      ← List.replicate_succ']

/-- A number has no fewer digits than its size asks for. -/
theorem lt_pow_length_natText (n : Nat) : n < 10 ^ (natText n).length := by
  fun_induction natText n with
  | case1 n small => exact small
  | case2 n large ih =>
    rw [List.length_append, List.length_singleton, Nat.pow_succ]
    omega

/-! ### Zeros in front -/

theorem natOf_zeros_append (count : Nat) (digits : List Char) :
    natOf (List.replicate count '0' ++ digits) = natOf digits := by
  induction count with
  | zero => rfl
  | succ count ih =>
    rw [List.replicate_succ, List.cons_append]
    exact ih

theorem natOf_padded (width n : Nat) : natOf (padded width n) = n := by
  rw [padded, natOf_zeros_append, natOf_natText]

theorem isDigit_of_mem_padded {width n : Nat} : ∀ c ∈ padded width n, c.isDigit = true := by
  intro c mem
  rcases List.mem_append.mp mem with zero | digit
  · rw [(List.mem_replicate.mp zero).2]
    rfl
  · exact isDigit_of_mem_natText c digit

theorem padded_ne_nil (width n : Nat) : padded width n ≠ [] :=
  List.append_ne_nil_of_right_ne_nil _ (natText_ne_nil n)

theorem length_padded {width n : Nat} (bound : n < 10 ^ (width + 1)) :
    (padded (width + 1) n).length = width + 1 := by
  have short := length_natText_le bound
  rw [padded, List.length_append, List.length_replicate]
  omega

/-! ### Digits of a fixed width -/

theorem isDigit_iff {c : Char} : c.isDigit = true ↔ 48 ≤ c.toNat ∧ c.toNat ≤ 57 := by
  simp [Char.isDigit, UInt32.le_iff_toNat_le]

theorem digitValue_lt_of_isDigit {c : Char} (h : c.isDigit = true) : digitValue c < 10 := by
  obtain ⟨low, high⟩ := isDigit_iff.mp h
  rw [digitValue]
  omega

theorem digitValue_inj {c d : Char} (hc : c.isDigit = true) (hd : d.isDigit = true)
    (h : digitValue c = digitValue d) : c = d := by
  obtain ⟨lowC, highC⟩ := isDigit_iff.mp hc
  obtain ⟨lowD, highD⟩ := isDigit_iff.mp hd
  rw [digitValue, digitValue] at h
  apply Char.ext
  apply UInt32.toNat_inj.mp
  show c.toNat = d.toNat
  omega

theorem natOf_lt {digits : List Char} (all : ∀ c ∈ digits, c.isDigit = true) :
    natOf digits < 10 ^ digits.length := by
  induction digits using List.reverseRecOn with
  | nil => decide
  | append_singleton digits c ih =>
    have front := ih fun d mem => all d (List.mem_append_left [c] mem)
    have last := digitValue_lt_of_isDigit (all c (by simp))
    rw [natOf_concat, List.length_append, List.length_singleton, Nat.pow_succ]
    omega

/-- As many digits with the same value are the same digits. -/
theorem natOf_inj {s t : List Char} (hs : ∀ c ∈ s, c.isDigit = true)
    (ht : ∀ c ∈ t, c.isDigit = true) (width : s.length = t.length) (value : natOf s = natOf t) :
    s = t := by
  induction s using List.reverseRecOn generalizing t with
  | nil => exact (List.length_eq_zero_iff.mp width.symm).symm
  | append_singleton s c ih =>
    cases t using List.reverseRecOn with
    | nil => simp at width
    | append_singleton t d _ =>
      have lastC := digitValue_lt_of_isDigit (hs c (by simp))
      have lastD := digitValue_lt_of_isDigit (ht d (by simp))
      rw [natOf_concat, natOf_concat] at value
      have last : c = d := digitValue_inj (hs c (by simp)) (ht d (by simp)) (by omega)
      have front : s = t := by
        apply ih
        · exact fun e mem => hs e (List.mem_append_left [c] mem)
        · exact fun e mem => ht e (List.mem_append_left [d] mem)
        · simpa using width
        · omega
      rw [front, last]

/-- Digits are the number that they show, written to their width. -/
theorem padded_natOf {digits : List Char} {width : Nat} (all : ∀ c ∈ digits, c.isDigit = true)
    (fills : digits.length = width + 1) : padded (width + 1) (natOf digits) = digits := by
  have bound : natOf digits < 10 ^ (width + 1) := fills ▸ natOf_lt all
  apply natOf_inj isDigit_of_mem_padded all
  · rw [length_padded bound, fills]
  · exact natOf_padded (width + 1) (natOf digits)

/-! ### Reading digits -/

/-- Digits that are not too many are read, up to the first character that is none. -/
theorem readDigits?_append {most : Option Nat} {digits rest : List Char} (any : digits ≠ [])
    (all : ∀ c ∈ digits, c.isDigit = true) (stops : ∀ c ∈ rest.head?, c.isDigit = false)
    (fits : ∀ n, most = some n → digits.length ≤ n) :
    readDigits? most (digits ++ rest) = some (digits, rest) := by
  have run : (digits ++ rest).takeWhile Char.isDigit = digits := by
    rw [List.takeWhile_append_of_pos all]
    cases rest with
    | nil => simp
    | cons c rest => simp [stops c rfl]
  cases most with
  | none => simp [readDigits?, run, any]
  | some n => simp [readDigits?, run, any, List.take_of_length_le (fits n rfl)]

/-- What is read is digits, not too many, from the beginning of the text. -/
theorem eq_append_of_readDigits? {most : Option Nat} {s digits rest : List Char}
    (read : readDigits? most s = some (digits, rest)) :
    digits ≠ [] ∧ (∀ c ∈ digits, c.isDigit = true) ∧ (∀ n, most = some n → digits.length ≤ n) ∧
      s = digits ++ rest := by
  have taken {front : List Char} (start : front <+: s.takeWhile Char.isDigit)
      (some : (if front.isEmpty then none else Option.some (front, s.drop front.length)) =
        Option.some (digits, rest)) :
      digits = front ∧ digits ≠ [] ∧ (∀ c ∈ digits, c.isDigit = true) ∧ s = digits ++ rest := by
    split at some
    next => contradiction
    next any =>
      obtain ⟨rfl, rfl⟩ := Prod.mk.inj (Option.some.inj some)
      refine ⟨rfl, by simpa using any, fun c hc => ?_, ?_⟩
      · exact List.mem_takeWhile_imp (start.subset hc)
      · exact (List.prefix_iff_eq_append.mp (start.trans (List.takeWhile_prefix _))).symm
  cases most with
  | none =>
    obtain ⟨_, any, all, parts⟩ := taken (List.prefix_refl _) read
    exact ⟨any, all, nofun, parts⟩
  | some n =>
    obtain ⟨rfl, any, all, parts⟩ := taken (List.take_prefix n _) read
    refine ⟨any, all, ?_, parts⟩
    rintro _ ⟨⟩
    exact List.length_take_le n _

theorem readDigits?_none_padded {width n : Nat} {rest : List Char}
    (stops : ∀ c ∈ rest.head?, c.isDigit = false) :
    readDigits? none (padded width n ++ rest) = some (padded width n, rest) :=
  readDigits?_append (padded_ne_nil width n) isDigit_of_mem_padded stops nofun

end DeviceModel.Text
