import DeviceModel.Text.Case

/-!
# Lower case and ASCII

The lower-case form of an ASCII text is that of its letters (`lower_of_ascii`). A character beyond
ASCII leaves one beyond ASCII in the lower-case form of a text, whatever stands around it
(`exists_beyond_of_lowerAt`); only the Kelvin sign leaves a `k` and nothing else (`lowerAt_kelvin`).
So an ASCII word without a `k` is the lower-case form of the texts that are the word up to the case
of ASCII letters, and of no other (`lower_eq_iff`).
-/

namespace DeviceModel.Text

/-! ### Characters beyond ASCII -/

theorem toLower_of_beyond {c : Char} (beyond : 0x80 ≤ c.toNat) : c.toLower = c := by
  have notCapital : ¬(c.val ≥ 'A'.val ∧ c.val ≤ 'Z'.val) := by
    rintro ⟨_, high⟩
    have small : c.toNat ≤ 0x5A := UInt32.le_iff_toNat_le.mp high
    omega
  exact dif_neg notCapital

/-- The small letters of a run are beyond ASCII as its capitals are. -/
theorem CapitalRun.beyond_smallOf {run : CapitalRun} {n : Nat} (capital : run.contains n) :
    0x80 ≤ (run.smallOf n).toNat := by
  simp only [contains, Bool.and_eq_true, decide_eq_true_eq] at capital
  obtain ⟨-, small⟩ := run.beyond
  have scalar := run.scalar
  have valid : (run.small + (n - run.first)).isValidChar := by
    unfold Nat.isValidChar
    omega
  have code : (run.smallOf n).toNat = run.small + (n - run.first) := by
    rw [smallOf, Char.ofNat, dif_pos valid]
    rfl
  omega

theorem beyond_smallLetter {c : Char} (beyond : 0x80 ≤ c.toNat) : 0x80 ≤ (smallLetter c).toNat := by
  unfold smallLetter
  split
  next run found =>
    have capital := List.find?_some found
    exact CapitalRun.beyond_smallOf capital
  next => exact beyond

/-- Both small forms of a capital sigma are beyond ASCII, and of the two characters that the capital
I with a dot becomes, the dot is. -/
theorem exists_beyond_of_lowerAt {c : Char} (beyond : 0x80 ≤ c.toNat) (notKelvin : c ≠ '\u212A')
    (before after : List Char) : ∃ d ∈ lowerAt before c after, 0x80 ≤ d.toNat := by
  rw [lowerAt]
  split
  next =>
    refine ⟨_, List.mem_singleton_self _, ?_⟩
    split <;> decide
  next =>
    rw [lowerChar, if_neg (Nat.not_lt.mpr beyond), if_neg notKelvin]
    split
    next => exact ⟨'\u0307', by decide, by decide⟩
    next => exact ⟨_, List.mem_singleton_self _, beyond_smallLetter beyond⟩

theorem lowerAt_kelvin (before after : List Char) : lowerAt before '\u212A' after = ['k'] :=
  rfl

theorem lowerAt_of_ascii {c : Char} (ascii : c.toNat < 0x80) (before after : List Char) :
    lowerAt before c after = [c.toLower] := by
  have notSigma : c ≠ 'Σ' := by
    rintro rfl
    contradiction
  rw [lowerAt, if_neg notSigma, lowerChar, if_pos ascii]

/-! ### Texts -/

theorem lowerFrom_of_ascii {s : List Char} (ascii : ∀ c ∈ s, c.toNat < 0x80) (before : List Char) :
    lowerFrom before s = s.map Char.toLower := by
  induction s generalizing before with
  | nil => rfl
  | cons c s ih =>
    rw [lowerFrom, lowerAt_of_ascii (ascii c List.mem_cons_self),
      ih fun d mem => ascii d (List.mem_cons_of_mem c mem)]
    rfl

theorem lower_of_ascii {s : List Char} (ascii : ∀ c ∈ s, c.toNat < 0x80) :
    lower s = s.map Char.toLower :=
  lowerFrom_of_ascii ascii []

/-- Every character of a text gives its part of the lower-case form. -/
theorem exists_lowerAt_subset_lowerFrom {c : Char} {s : List Char} (mem : c ∈ s)
    (start : List Char) : ∃ before after, lowerAt before c after ⊆ lowerFrom start s := by
  induction s generalizing start with
  | nil => contradiction
  | cons d s ih =>
    rcases List.mem_cons.mp mem with rfl | later
    · exact ⟨start, s, List.subset_append_left _ _⟩
    · obtain ⟨before, after, part⟩ := ih later (d :: start)
      exact ⟨before, after, List.subset_append_of_subset_right _ part⟩

/-- An ASCII word without the one letter that a character beyond ASCII can become. -/
def Plain (word : List Char) : Prop :=
  ∀ d ∈ word, d.toNat < 0x80 ∧ d ≠ 'k'

-- The instance goes through the word; the one that a search may find goes through all characters.
instance (word : List Char) : Decidable (Plain word) :=
  List.decidableBAll (fun d : Char => d.toNat < 0x80 ∧ d ≠ 'k') word

theorem ascii_of_plain_lower {s : List Char} (plain : Plain (lower s)) :
    ∀ c ∈ s, c.toNat < 0x80 := by
  intro c mem
  refine Nat.lt_of_not_le fun beyond => ?_
  obtain ⟨before, after, part⟩ := exists_lowerAt_subset_lowerFrom mem []
  by_cases kelvin : c = '\u212A'
  · subst kelvin
    rw [lowerAt_kelvin] at part
    exact (plain 'k' (part (List.mem_singleton_self _))).2 rfl
  · obtain ⟨d, inside, high⟩ := exists_beyond_of_lowerAt beyond kelvin before after
    exact absurd (plain d (part inside)).1 (Nat.not_lt.mpr high)

theorem ascii_of_plain_map_toLower {s : List Char} (plain : Plain (s.map Char.toLower)) :
    ∀ c ∈ s, c.toNat < 0x80 := by
  intro c mem
  refine Nat.lt_of_not_le fun beyond => ?_
  have low := (plain c.toLower (List.mem_map_of_mem mem)).1
  rw [toLower_of_beyond beyond] at low
  exact absurd low (Nat.not_lt.mpr beyond)

/-- **Lower case of ASCII letters is all that leads to a plain word.** -/
theorem lower_eq_iff {s word : List Char} (plain : Plain word) :
    lower s = word ↔ s.map Char.toLower = word := by
  constructor
  · rintro rfl
    exact (lower_of_ascii (ascii_of_plain_lower plain)).symm
  · rintro rfl
    exact lower_of_ascii (ascii_of_plain_map_toLower plain)

theorem equalsIgnoringAsciiCase_iff {s t : String} :
    equalsIgnoringAsciiCase s t ↔ s.toList.map Char.toLower = t.toList.map Char.toLower :=
  beq_iff_eq

end DeviceModel.Text
