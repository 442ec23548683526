import DeviceModel.Proofs.Text.Blank

/-!
# Integers read from a text

The texts of an integer are runs of digits, with a sign in front or without (`ShowsInteger`), and
they are all texts that are read (`int?_eq_some_iff`). Blanks may be around them if these are taken
away before (`int?_trim_eq_some_iff`). Of these `Spells` has the ones that a person would call the
integer in decimal notation: the digits of its magnitude with any number of zeros and one sign in
front, and blanks at both ends. They are read as the integer (`int?_of_spells`).
-/

namespace DeviceModel.Text

/-- The ways to write an integer. -/
inductive ShowsInteger : List Char → Int → Prop
  | unsigned {digits : List Char} (any : digits ≠ []) (all : ∀ c ∈ digits, c.isDigit = true) :
      ShowsInteger digits (natOf digits)
  | signed {digits : List Char} (negative : Bool) (any : digits ≠ [])
      (all : ∀ c ∈ digits, c.isDigit = true) :
      ShowsInteger ((if negative then '-' else '+') :: digits) (withSign negative (natOf digits))

theorem nat?_eq_some_iff {digits : List Char} {n : Nat} :
    nat? digits = some n ↔
      digits ≠ [] ∧ (∀ c ∈ digits, c.isDigit = true) ∧ natOf digits = n := by
  rw [nat?]
  constructor
  · intro read
    split at read
    next => contradiction
    next digital =>
      have parts : digits ≠ [] ∧ ∀ c ∈ digits, c.isDigit = true := by simpa using digital
      exact ⟨parts.1, parts.2, Option.some.inj read⟩
  · rintro ⟨any, all, rfl⟩
    rw [if_neg]
    simpa using ⟨any, all⟩

/-- A digit is no sign. -/
theorem readSign_of_isDigit {digits : List Char} (all : ∀ c ∈ digits, c.isDigit = true) :
    readSign digits = (false, digits) := by
  unfold readSign
  split
  next => exact absurd (all '-' List.mem_cons_self) (by decide)
  next => exact absurd (all '+' List.mem_cons_self) (by decide)
  next => rfl

/-- **The texts that are read as an integer.** -/
theorem int?_eq_some_iff {s : List Char} {n : Int} : int? s = some n ↔ ShowsInteger s n := by
  constructor
  · intro read
    obtain ⟨magnitude, found, rfl⟩ := Option.map_eq_some_iff.mp read
    obtain ⟨any, all, rfl⟩ := nat?_eq_some_iff.mp found
    revert any all
    unfold readSign
    split
    next rest => exact .signed true
    next rest => exact .signed false
    next => exact .unsigned
  · intro shows
    cases shows with
    | unsigned any all =>
      have found := nat?_eq_some_iff.mpr ⟨any, all, rfl⟩
      rw [int?, readSign_of_isDigit all, found]
      rfl
    | signed negative any all =>
      have found := nat?_eq_some_iff.mpr ⟨any, all, rfl⟩
      cases negative with
      | false => simp [int?, readSign, found]
      | true => simp [int?, readSign, found]

/-! ### Decimal notation with blanks and zeros -/

/-- The signs that an integer can have: a minus unless it is positive, and a plus or none unless it
is negative. -/
inductive SignOf (n : Int) : List Char → Prop
  | none (nonnegative : 0 ≤ n) : SignOf n []
  | plus (nonnegative : 0 ≤ n) : SignOf n ['+']
  | minus (nonpositive : n ≤ 0) : SignOf n ['-']

/-- The texts of an integer in decimal notation, with blanks around and zeros in front. -/
inductive Spells (n : Int) : String → Prop
  | intro {before after sign : List Char} (zeros : Nat)
      (blank : ∀ c ∈ before, isBlank c = true) (blank' : ∀ c ∈ after, isBlank c = true)
      (signed : SignOf n sign) :
      Spells n (String.ofList
        (before ++ (sign ++ (List.replicate zeros '0' ++ natText n.natAbs)) ++ after))

theorem isDigit_of_mem_zeros {zeros n : Nat} :
    ∀ c ∈ List.replicate zeros '0' ++ natText n, c.isDigit = true := by
  intro c hc
  rcases List.mem_append.mp hc with zero | digit
  · rw [List.eq_of_mem_replicate zero]
    rfl
  · exact isDigit_of_mem_natText c digit

theorem zeros_append_ne_nil (zeros n : Nat) : List.replicate zeros '0' ++ natText n ≠ [] := by
  intro none
  exact natText_ne_nil n (List.append_eq_nil_iff.mp none).2

theorem shows_of_signOf {n : Int} {sign : List Char} (signed : SignOf n sign) (zeros : Nat) :
    ShowsInteger (sign ++ (List.replicate zeros '0' ++ natText n.natAbs)) n := by
  have any := zeros_append_ne_nil zeros n.natAbs
  have all : ∀ c ∈ List.replicate zeros '0' ++ natText n.natAbs, c.isDigit = true :=
    isDigit_of_mem_zeros
  have value : natOf (List.replicate zeros '0' ++ natText n.natAbs) = n.natAbs := by
    rw [natOf_zeros_append, natOf_natText]
  cases signed with
  | none nonnegative =>
    have shown := ShowsInteger.unsigned any all
    rwa [value, Int.natAbs_of_nonneg nonnegative] at shown
  | plus nonnegative =>
    have same : withSign false n.natAbs = n := Int.natAbs_of_nonneg nonnegative
    have shown := ShowsInteger.signed false any all
    rw [value, same] at shown
    exact shown
  | minus nonpositive =>
    have same : withSign true n.natAbs = n := by
      show -(n.natAbs : Int) = n
      omega
    have shown := ShowsInteger.signed true any all
    rw [value, same] at shown
    exact shown

/-- A text of an integer begins with a sign or a digit and ends with a digit. -/
theorem ShowsInteger.not_isBlank {s : List Char} {n : Int} (shows : ShowsInteger s n) :
    s ≠ [] ∧ (∀ c ∈ s.head?, isBlank c = false) ∧ ∀ c ∈ s.getLast?, isBlank c = false := by
  cases shows with
  | unsigned any all =>
    refine ⟨any, fun c hc => ?_, fun c hc => ?_⟩
    · exact isBlank_of_isDigit (all c (List.mem_of_mem_head? hc))
    · exact isBlank_of_isDigit (all c (List.mem_of_mem_getLast? hc))
  | signed negative any all =>
    refine ⟨List.cons_ne_nil _ _, ?_, fun c hc => ?_⟩
    · rintro _ ⟨⟩
      cases negative <;> decide
    · rw [List.getLast?_cons_of_ne_nil any] at hc
      exact isBlank_of_isDigit (all c (List.mem_of_mem_getLast? hc))

/-- **The texts that are read as an integer once the blanks at their ends are gone.** -/
theorem int?_trim_eq_some_iff {s : List Char} {n : Int} :
    int? (trim s) = some n ↔ ∃ before shown after, (∀ c ∈ before, isBlank c = true) ∧
      (∀ c ∈ after, isBlank c = true) ∧ s = before ++ shown ++ after ∧ ShowsInteger shown n := by
  constructor
  · intro read
    obtain ⟨before, after, blank, blank', parts⟩ := exists_trim s
    exact ⟨before, trim s, after, blank, blank', parts, int?_eq_some_iff.mp read⟩
  · rintro ⟨before, shown, after, blank, blank', rfl, shows⟩
    obtain ⟨any, front, back⟩ := shows.not_isBlank
    rw [trim_append blank blank' any front back]
    exact int?_eq_some_iff.mpr shows

/-- **A text that spells an integer is read as the integer.** -/
theorem int?_of_spells {n : Int} {s : String} (spells : Spells n s) :
    int? (trim s.toList) = some n := by
  cases spells with
  | intro zeros blank blank' signed =>
    rw [String.toList_ofList, int?_trim_eq_some_iff]
    exact ⟨_, _, _, blank, blank', rfl, shows_of_signOf signed zeros⟩

end DeviceModel.Text
