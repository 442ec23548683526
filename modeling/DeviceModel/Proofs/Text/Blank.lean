import DeviceModel.Proofs.Text.Digits
import DeviceModel.Text.Blank

/-!
# Blanks around a text

A text is its leading blanks followed by what `trimStart` leaves (`exists_trimStart`), and what
`trim` leaves with the blanks of both ends around it (`exists_trim`). A text that neither begins nor
ends with a blank is left when the blanks around it are taken away (`trim_append`). Digits and signs
are no blanks.
-/

namespace DeviceModel.Text

theorem isBlank_of_isDigit {c : Char} (h : c.isDigit = true) : isBlank c = false := by
  obtain ⟨low, high⟩ := isDigit_iff.mp h
  simp [isBlank, blankRanges]
  omega

theorem exists_trimStart (s : List Char) :
    ∃ blanks, (∀ c ∈ blanks, isBlank c = true) ∧ s = blanks ++ trimStart s :=
  ⟨s.takeWhile isBlank, fun _ => List.mem_takeWhile_imp, List.takeWhile_append_dropWhile.symm⟩

theorem exists_trim (s : List Char) :
    ∃ before after, (∀ c ∈ before, isBlank c = true) ∧ (∀ c ∈ after, isBlank c = true) ∧
      s = before ++ trim s ++ after := by
  obtain ⟨before, blank, front⟩ := exists_trimStart s
  obtain ⟨after, blank', back⟩ := exists_trimStart (trimStart s).reverse
  have middle : trimStart s = trim s ++ after.reverse := by
    rw [trim, ← List.reverse_append, ← back, List.reverse_reverse]
  refine ⟨before, after.reverse, blank, fun c hc => blank' c (List.mem_reverse.mp hc), ?_⟩
  rw [List.append_assoc, ← middle]
  exact front

/-- Blanks in front of a text that does not begin with one. -/
theorem trimStart_append {blanks s : List Char} (blank : ∀ c ∈ blanks, isBlank c = true)
    (front : ∀ c ∈ s.head?, isBlank c = false) : trimStart (blanks ++ s) = s := by
  rw [trimStart, List.dropWhile_append_of_pos blank]
  cases s with
  | nil => rfl
  | cons c s => simp [front c rfl]

theorem trim_append {before s after : List Char} (blank : ∀ c ∈ before, isBlank c = true)
    (blank' : ∀ c ∈ after, isBlank c = true) (any : s ≠ [])
    (front : ∀ c ∈ s.head?, isBlank c = false) (back : ∀ c ∈ s.getLast?, isBlank c = false) :
    trim (before ++ s ++ after) = s := by
  have start : trimStart (before ++ s ++ after) = s ++ after := by
    rw [List.append_assoc]
    apply trimStart_append blank
    intro c hc
    cases s with
    | nil => contradiction
    | cons d s => exact front c hc
  rw [trim, start, List.reverse_append, trimStart_append, List.reverse_reverse]
  · intro c hc
    exact blank' c (List.mem_reverse.mp hc)
  · rwa [List.head?_reverse]

end DeviceModel.Text
