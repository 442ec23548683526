import DeviceModel.Json.Number
import DeviceModel.Json.Printer
import DeviceModel.Proofs.Double.Shortest
import DeviceModel.Proofs.Text.Digits

/-!
# Numbers in JSON text read back

A number is written as the parts that `NumberText.ofInt` and `NumberText.ofDouble` give for it, one
after the other, and the reader finds these parts again (`read?_write`). The parts of an integer of
64 bits have its value (`toDocument_ofInt`). Those of a double are never read as an integer, and
their value is the double nearest to their digits, scaled, as long as the digits fit 64 bits
(`toDouble?_of_significand_lt`).
-/

namespace DeviceModel.Json.NumberText

open Text

/-! ### Parts one after the other -/

/-- The point and the digits after it, if there are any. -/
def fractionText : List Char → List Char
  | [] => []
  | c :: rest => '.' :: c :: rest

/-- The letter and the digits of the exponent, if there is one. -/
def exponentText : Option Int → List Char
  | none => []
  | some exponent => 'e' :: (if exponent < 0 then '-' else '+') :: natText exponent.natAbs

/-- The text of the parts without the sign. -/
def unsigned (number : NumberText) : List Char :=
  number.whole ++ (fractionText number.fraction ++ exponentText number.exponent)

/-- The text of a number with these parts. -/
def write (number : NumberText) : List Char :=
  (if number.negative then ['-'] else []) ++ number.unsigned

/-- The digits are digits, and none of those before the point is a zero too many. -/
structure WellFormed (number : NumberText) : Prop where
  leading : number.whole = ['0'] ∨ ∃ c rest, number.whole = c :: rest ∧ c ≠ '0'
  whole : ∀ c ∈ number.whole, c.isDigit = true
  fraction : ∀ c ∈ number.fraction, c.isDigit = true

/-- No number goes on with this text. -/
def Ends (rest : List Char) : Prop :=
  ∀ c ∈ rest.head?, c.isDigit = false ∧ c ≠ '.' ∧ c ≠ 'e' ∧ c ≠ 'E'

theorem readWhole?_append {whole rest : List Char}
    (leading : whole = ['0'] ∨ ∃ c rest, whole = c :: rest ∧ c ≠ '0')
    (digits : ∀ c ∈ whole, c.isDigit = true) (stops : ∀ c ∈ rest.head?, c.isDigit = false) :
    readWhole? (whole ++ rest) = some (whole, rest) := by
  rcases leading with rfl | ⟨c, tail, rfl, notZero⟩
  · cases rest with
    | nil => rfl
    | cons c rest => simp [readWhole?, stops c rfl]
  · rw [List.cons_append, readWhole?, ← List.cons_append]
    · exact readDigits?_append (List.cons_ne_nil _ _) digits stops nofun
    · rintro _ he
      exact absurd (List.cons.inj he).1 notZero

theorem readFraction?_append {fraction rest : List Char}
    (digits : ∀ c ∈ fraction, c.isDigit = true)
    (stops : ∀ c ∈ rest.head?, c.isDigit = false ∧ c ≠ '.') :
    readFraction? (fractionText fraction ++ rest) = some (fraction, rest) := by
  cases fraction with
  | nil =>
    rw [fractionText, List.nil_append, readFraction?]
    rintro tail rfl
    exact absurd rfl (stops '.' rfl).2
  | cons c tail =>
    have digits : readDigits? none (c :: tail ++ rest) = some (c :: tail, rest) :=
      readDigits?_append (List.cons_ne_nil _ _) digits (fun c mem => (stops c mem).1) nofun
    exact digits

theorem readExponent?_append {rest : List Char} (ends : Ends rest) (exponent : Option Int) :
    readExponent? (exponentText exponent ++ rest) = some (exponent, rest) := by
  cases exponent with
  | none =>
    cases rest with
    | nil => rfl
    | cons c rest => simp [exponentText, readExponent?, ends c rfl]
  | some exponent =>
    have digits : readDigits? none (natText exponent.natAbs ++ rest) =
        some (natText exponent.natAbs, rest) :=
      readDigits?_append (natText_ne_nil _) isDigit_of_mem_natText (fun c mem => (ends c mem).1)
        nofun
    by_cases negative : exponent < 0
    · have value : withSign true exponent.natAbs = exponent := by
        rw [withSign, if_pos rfl]
        omega
      simp [exponentText, readExponent?, negative, readSign, digits, natOf_natText, value]
    · have value : withSign false exponent.natAbs = exponent := by
        rw [withSign, if_neg (by decide)]
        omega
      simp [exponentText, readExponent?, negative, readSign, digits, natOf_natText, value]

theorem stops_exponentText {rest : List Char} (ends : Ends rest) (exponent : Option Int) :
    ∀ c ∈ (exponentText exponent ++ rest).head?, c.isDigit = false ∧ c ≠ '.' := by
  cases exponent with
  | none => exact fun c mem => ⟨(ends c mem).1, (ends c mem).2.1⟩
  | some exponent =>
    intro c mem
    obtain rfl : 'e' = c := by simpa [exponentText] using mem
    decide

theorem stops_fractionText {fraction rest : List Char}
    (stops : ∀ c ∈ rest.head?, c.isDigit = false) :
    ∀ c ∈ (fractionText fraction ++ rest).head?, c.isDigit = false := by
  cases fraction with
  | nil => exact stops
  | cons _ _ =>
    intro c mem
    obtain rfl : '.' = c := by simpa [fractionText] using mem
    decide

/-- The first character of a number without sign. -/
theorem WellFormed.exists_whole_eq_cons {number : NumberText} (formed : number.WellFormed) :
    ∃ c rest, number.whole = c :: rest ∧ c.isDigit = true := by
  have leads : ∃ c rest, number.whole = c :: rest := by
    rcases formed.leading with zero | ⟨c, rest, he, _⟩
    · exact ⟨_, _, zero⟩
    · exact ⟨c, rest, he⟩
  obtain ⟨c, rest, he⟩ := leads
  exact ⟨c, rest, he, formed.whole c (he ▸ List.mem_cons_self)⟩

/-- The first character of a number. -/
theorem WellFormed.exists_write_eq_cons {number : NumberText} (formed : number.WellFormed) :
    ∃ c rest, number.write = c :: rest ∧ (c = '-' ∨ c.isDigit = true) := by
  obtain ⟨c, rest, he, digit⟩ := formed.exists_whole_eq_cons
  rw [write, unsigned, he]
  cases number.negative with
  | true => exact ⟨_, _, rfl, Or.inl rfl⟩
  | false => exact ⟨_, _, rfl, Or.inr digit⟩

theorem read?_write {number : NumberText} (formed : number.WellFormed) {rest : List Char}
    (ends : Ends rest) : read? (number.write ++ rest) = some (number, rest) := by
  obtain ⟨c, tail, first, digit⟩ := formed.exists_whole_eq_cons
  obtain ⟨negative, whole, fraction, exponent⟩ := number
  have stops := stops_exponentText ends exponent
  have readWhole : readWhole?
      (whole ++ (fractionText fraction ++ (exponentText exponent ++ rest))) = some (whole, _) :=
    readWhole?_append formed.leading formed.whole (stops_fractionText fun c mem => (stops c mem).1)
  have readFraction : readFraction? (fractionText fraction ++ (exponentText exponent ++ rest)) =
      some (fraction, _) :=
    readFraction?_append formed.fraction stops
  have readExponent := readExponent?_append ends exponent
  have plain : ∀ s,
      whole ++ (fractionText fraction ++ (exponentText exponent ++ rest)) ≠ '-' :: s := by
    rintro s he
    rw [show whole = c :: tail from first] at he
    obtain rfl : c = '-' := (List.cons.inj he).1
    contradiction
  unfold read?
  -- without a sign the text is matched as a whole, which `plain` allows
  cases negative <;> simp [write, unsigned, readWhole, readFraction, readExponent]

/-! ### Integers -/

theorem leading_natText (n : Nat) :
    natText n = ['0'] ∨ ∃ c rest, natText n = c :: rest ∧ c ≠ '0' := by
  rcases Nat.eq_zero_or_pos n with zero | positive
  · rw [zero, natText]
    exact Or.inl rfl
  · exact Or.inr (exists_natText_eq_cons positive)

/-- The parts of an integer. -/
def ofInt (n : Int) : NumberText :=
  ⟨decide (n < 0), natText n.natAbs, [], none⟩

theorem wellFormed_ofInt (n : Int) : (ofInt n).WellFormed :=
  ⟨leading_natText _, isDigit_of_mem_natText, nofun⟩

theorem write_ofInt (n : Int) : (ofInt n).write = intText n := by
  cases n with
  | ofNat n =>
    simp [ofInt, write, unsigned, fractionText, exponentText, intText]
  | negSucc n =>
    simp [ofInt, write, unsigned, Int.negSucc_lt_zero, fractionText, exponentText, intText]

theorem toDocument_ofInt {n : Int} (low : -0x8000000000000000 ≤ n)
    (high : n < 0x10000000000000000) : (ofInt n).toDocument = .integer n := by
  have whole : (ofInt n).isWhole = true := rfl
  have magnitude : natOf (ofInt n).whole = n.natAbs := natOf_natText _
  have sign : (ofInt n).negative = decide (n < 0) := rfl
  rw [toDocument, whole, magnitude, sign]
  by_cases negative : n < 0
  · have tooSmall :
        ¬(true && !decide (n < 0) && decide (n.natAbs < 0x10000000000000000)) = true := by
      simp only [negative, decide_true, Bool.not_true, Bool.and_false, Bool.false_and]
      exact Bool.false_ne_true
    have fits : (true && decide (n < 0) && decide (0 < n.natAbs) &&
        decide (n.natAbs ≤ 0x8000000000000000)) = true := by
      simp only [Bool.and_eq_true, decide_eq_true_eq]
      exact ⟨⟨⟨trivial, negative⟩, by omega⟩, by omega⟩
    have value : -(n.natAbs : Int) = n := by omega
    rw [if_neg tooSmall, if_pos fits, value]
  · have fits : (true && !decide (n < 0) && decide (n.natAbs < 0x10000000000000000)) = true := by
      simp only [Bool.and_eq_true, Bool.not_eq_true', decide_eq_true_eq, decide_eq_false_iff_not]
      exact ⟨⟨trivial, negative⟩, by omega⟩
    have value : (n.natAbs : Int) = n := by omega
    rw [if_pos fits, value]

/-! ### Digits as a double -/

/-- All digits as one number. -/
def significand (number : NumberText) : Nat :=
  natOf (number.whole ++ number.fraction)

/-- The exponent of the last digit. -/
def place (number : NumberText) : Int :=
  number.exponent.getD 0 - number.fraction.length

/-- All digits are gathered if they fit 64 bits. -/
theorem gather_of_lt {value : Nat} {digits : List Char}
    (fits : digits.foldl (fun n c => 10 * n + digitValue c) value < 0x10000000000000000) :
    gather value digits = (digits.foldl (fun n c => 10 * n + digitValue c) value, []) := by
  induction digits generalizing value with
  | nil => rfl
  | cons c rest ih =>
    rw [List.foldl_cons] at fits
    have grows := Nat.le_mul_of_pos_right (10 * value + digitValue c)
      (Nat.pow_pos (by decide) : 0 < 10 ^ rest.length)
    have next : 10 * value + digitValue c < 0x10000000000000000 := by
      rw [foldl_digits] at fits
      omega
    rw [gather, if_pos next, List.foldl_cons, ih fits]

/-- All digits count if they fit 64 bits. -/
theorem toDouble?_of_significand_lt {number : NumberText}
    (fits : number.significand < 0x10000000000000000) {x : FiniteDouble}
    (finite : Double.ofInt number.significand = .finite x) :
    number.toDouble? =
      (scale? 4 x number.place).map fun x => if number.negative then x.neg else x := by
  have split : number.significand =
      number.fraction.foldl (fun n c => 10 * n + digitValue c) (natOf number.whole) := by
    rw [significand, natOf, List.foldl_append, ← natOf.eq_def]
  have leading : natOf number.whole ≤ number.significand := by
    rw [significand, natOf_append]
    exact Nat.le_trans (Nat.le_mul_of_pos_right _ (Nat.pow_pos (by decide))) (Nat.le_add_right _ _)
  have whole : gather 0 number.whole = (natOf number.whole, []) :=
    gather_of_lt (Nat.lt_of_le_of_lt leading fits)
  have fraction : gather (natOf number.whole) number.fraction = (number.significand, []) := by
    rw [split] at fits ⊢
    exact gather_of_lt fits
  have exponent : ((0 : Nat) : Int) - (number.fraction.length - 0 : Nat) + number.exponent.getD 0 =
      number.place := by
    rw [place]
    omega
  rw [toDouble?, whole]
  dsimp only
  rw [fraction]
  dsimp only
  rw [finite, List.length_nil, exponent]
  rfl

/-- A number with a point or an exponent is read as a double. -/
theorem toDocument_of_not_isWhole {number : NumberText} (notWhole : number.isWhole = false) :
    number.toDocument = number.toDouble?.elim .unreadable fun x => .real (.finite x) := by
  simp only [toDocument, notWhole, Bool.false_and, Bool.false_eq_true, if_false]
  cases number.toDouble? <;> rfl

/-! ### Doubles -/

/-- The parts of a decimal in the layout of JSON. -/
def ofDecimal (decimal : Decimal) : NumberText :=
  let digits := natText decimal.digits
  let point := decimal.exponent + digits.length
  if doubleLayout.isPositional point then
    if point ≤ 0 then ⟨false, ['0'], List.replicate (-point).toNat '0' ++ digits, none⟩
    else if 0 ≤ decimal.exponent then
      ⟨false, natText (decimal.digits * 10 ^ decimal.exponent.toNat), ['0'], none⟩
    else ⟨false, digits.take point.toNat, digits.drop point.toNat, none⟩
  else ⟨false, digits.take 1, digits.drop 1, some (point - 1)⟩

/-- A decimal is written as a whole number with one digit after the point. -/
def IsWhole (decimal : Decimal) : Prop :=
  0 ≤ decimal.exponent ∧ (natText decimal.digits).length + decimal.exponent ≤ 16

/-- The four layouts: with zeros before the digits, with zeros after them, with the point among
them, and with an exponent. -/
theorem ofDecimal_cases (decimal : Decimal) :
    (∃ zeros : Nat, decimal.exponent + (natText decimal.digits).length = -zeros ∧
        ofDecimal decimal =
          ⟨false, ['0'], List.replicate zeros '0' ++ natText decimal.digits, none⟩) ∨
      (∃ zeros : Nat, decimal.exponent = zeros ∧ (natText decimal.digits).length + zeros ≤ 16 ∧
        ofDecimal decimal = ⟨false, natText (decimal.digits * 10 ^ zeros), ['0'], none⟩) ∨
      (∃ point : Nat, decimal.exponent + (natText decimal.digits).length = point ∧
        0 < point ∧ point < (natText decimal.digits).length ∧ ofDecimal decimal =
          ⟨false, (natText decimal.digits).take point, (natText decimal.digits).drop point, none⟩) ∨
      ¬IsWhole decimal ∧ ofDecimal decimal =
        ⟨false, (natText decimal.digits).take 1, (natText decimal.digits).drop 1,
          some (decimal.exponent + (natText decimal.digits).length - 1)⟩ := by
  have length := List.length_pos_iff.mpr (natText_ne_nil decimal.digits)
  unfold ofDecimal IsWhole
  dsimp only
  split_ifs with positional front whole
  · exact Or.inl ⟨_, by omega, rfl⟩
  · obtain ⟨zeros, exponent⟩ := Int.eq_ofNat_of_zero_le whole
    have bound : decimal.exponent + (natText decimal.digits).length ≤ 16 := by
      simp only [DoubleLayout.isPositional, doubleLayout, decide_eq_true_eq] at positional
      exact positional.2
    refine Or.inr (Or.inl ⟨zeros, exponent, by omega, ?_⟩)
    rw [exponent, Int.toNat_natCast]
  · obtain ⟨point, he⟩ := Int.eq_ofNat_of_zero_le (Int.le_of_lt (Int.not_le.mp front))
    refine Or.inr (Or.inr (Or.inl ⟨point, he, by omega, by omega, ?_⟩))
    rw [he, Int.toNat_natCast]
  · have outside : ¬(-5 < decimal.exponent + (natText decimal.digits).length ∧
        decimal.exponent + (natText decimal.digits).length ≤ 16) := by
      simpa only [DoubleLayout.isPositional, doubleLayout, decide_eq_true_eq] using positional
    exact Or.inr (Or.inr (Or.inr ⟨by omega, rfl⟩))

variable {decimal : Decimal}

theorem fractionText_of_ne_nil {fraction : List Char} (any : fraction ≠ []) :
    fractionText fraction = '.' :: fraction := by
  cases fraction with
  | nil => exact absurd rfl any
  | cons c rest => rfl

theorem placePoint_whole {digits : List Char} {zeros : Nat} (any : digits ≠ []) :
    doubleLayout.placePoint digits (zeros + digits.length : Nat) =
      digits ++ List.replicate zeros '0' ++ ['.', '0'] := by
  have length := List.length_pos_iff.mpr any
  have positive : ¬((zeros + digits.length : Nat) : Int) ≤ 0 := by omega
  have nothing : (digits ++ List.replicate zeros '0').drop (zeros + digits.length) = [] := by
    rw [List.drop_eq_nil_iff, List.length_append, List.length_replicate]
    omega
  rw [DoubleLayout.placePoint, if_neg positive]
  simp only [Int.toNat_natCast, Nat.add_sub_cancel, nothing]
  rfl

theorem placePoint_fraction {digits : List Char} {point : Nat} (positive : 0 < point)
    (inside : point < digits.length) :
    doubleLayout.placePoint digits point = digits.take point ++ '.' :: digits.drop point := by
  have notZero : ¬(point : Int) ≤ 0 := by omega
  have noZeros : point - digits.length = 0 := by omega
  obtain ⟨c, rest, fraction⟩ : ∃ c rest, digits.drop point = c :: rest :=
    List.exists_cons_of_ne_nil (by rw [Ne, List.drop_eq_nil_iff]; omega)
  rw [DoubleLayout.placePoint, if_neg notZero]
  simp only [Int.toNat_natCast, noZeros, List.replicate_zero, List.append_nil, fraction]

theorem withExponent_eq (digits : List Char) (point : Int) :
    DoubleLayout.withExponent digits point =
      digits.take 1 ++ (fractionText (digits.drop 1) ++ exponentText (some (point - 1))) := by
  match digits with
  | [] => rfl
  | [_] => rfl
  | _ :: _ :: _ => rfl

theorem unsigned_ofDecimal (positive : 0 < decimal.digits) :
    (ofDecimal decimal).unsigned = doubleLayout.decimalText decimal := by
  have any := natText_ne_nil decimal.digits
  unfold ofDecimal DoubleLayout.decimalText
  dsimp only
  split_ifs with positional front whole
  · have fraction : fractionText (List.replicate
        (-(decimal.exponent + (natText decimal.digits).length)).toNat '0' ++
          natText decimal.digits) = '.' :: _ :=
      fractionText_of_ne_nil (List.append_ne_nil_of_right_ne_nil _ any)
    rw [DoubleLayout.placePoint, if_pos front, unsigned, fraction]
    simp [exponentText]
  · obtain ⟨zeros, exponent⟩ := Int.eq_ofNat_of_zero_le whole
    rw [exponent, ← Int.natCast_add, placePoint_whole any, natText_mul_pow positive]
    rfl
  · obtain ⟨point, he⟩ := Int.eq_ofNat_of_zero_le (Int.le_of_lt (Int.not_le.mp front))
    have inside : point < (natText decimal.digits).length := by omega
    have fraction : fractionText ((natText decimal.digits).drop point) = '.' :: _ :=
      fractionText_of_ne_nil (by rw [Ne, List.drop_eq_nil_iff]; omega)
    rw [he, placePoint_fraction (by omega) inside, Int.toNat_natCast, unsigned, fraction]
    simp [exponentText]
  · rw [withExponent_eq]
    rfl

theorem leading_take {n places : Nat} (positive : 0 < n) (some' : 0 < places) :
    ∃ c rest, (natText n).take places = c :: rest ∧ c ≠ '0' := by
  obtain ⟨c, rest, he, notZero⟩ := exists_natText_eq_cons positive
  obtain ⟨places, rfl⟩ := Nat.exists_eq_succ_of_ne_zero (Nat.ne_of_gt some')
  exact ⟨c, rest.take places, by rw [he]; rfl, notZero⟩

theorem wellFormed_ofDecimal (positive : 0 < decimal.digits) : (ofDecimal decimal).WellFormed := by
  have digits := isDigit_of_mem_natText (n := decimal.digits)
  have taken (n : Nat) : ∀ c ∈ (natText decimal.digits).take n, c.isDigit = true :=
    fun c mem => digits c (List.mem_of_mem_take mem)
  have dropped (n : Nat) : ∀ c ∈ (natText decimal.digits).drop n, c.isDigit = true :=
    fun c mem => digits c (List.mem_of_mem_drop mem)
  have zero : ∀ c ∈ ['0'], c.isDigit = true := List.forall_mem_singleton.mpr rfl
  rcases ofDecimal_cases decimal with ⟨zeros, _, he⟩ | ⟨zeros, _, _, he⟩ | ⟨point, _, some', _, he⟩ |
    ⟨_, he⟩
  · rw [he]
    refine ⟨Or.inl rfl, zero, fun c mem => ?_⟩
    rcases List.mem_append.mp mem with zero | digit
    · rw [(List.mem_replicate.mp zero).2]
      rfl
    · exact digits c digit
  · rw [he]
    exact ⟨leading_natText _, isDigit_of_mem_natText, zero⟩
  · rw [he]
    exact ⟨Or.inr (leading_take positive some'), taken _, dropped _⟩
  · rw [he]
    exact ⟨Or.inr (leading_take positive Nat.one_pos), taken _, dropped _⟩

/-- The digits of a decimal are all its digits, unless it is written as a whole number: such a
number has at most sixteen digits before the point and a zero after it. -/
theorem value_ofDecimal (decimal : Decimal) :
    ¬IsWhole decimal ∧ (ofDecimal decimal).significand = decimal.digits ∧
        (ofDecimal decimal).place = decimal.exponent ∨
      ∃ zeros : Nat, decimal.exponent = zeros ∧ (natText decimal.digits).length + zeros ≤ 16 ∧
        (ofDecimal decimal).significand = decimal.digits * 10 ^ zeros * 10 ∧
        (ofDecimal decimal).place = -1 := by
  have length := List.length_pos_iff.mpr (natText_ne_nil decimal.digits)
  rcases ofDecimal_cases decimal with ⟨zeros, front, he⟩ | ⟨zeros, whole, short, he⟩ |
    ⟨point, inside, _, _, he⟩ | ⟨notWhole, he⟩
  · rw [he]
    refine Or.inl ⟨fun whole => by have := whole.1; omega, ?_, ?_⟩
    · rw [significand, natOf_append, natOf_zeros_append, natOf_natText]
      exact Nat.add_eq_right.mpr (Nat.zero_mul _)
    · simp only [place, Option.getD_none, List.length_append, List.length_replicate]
      omega
  · rw [he]
    refine Or.inr ⟨zeros, whole, short, ?_, rfl⟩
    rw [significand, natOf_append, natOf_natText]
    rfl
  · rw [he]
    refine Or.inl ⟨fun whole => by have := whole.1; omega, ?_, ?_⟩
    · rw [significand, List.take_append_drop, natOf_natText]
    · simp only [place, Option.getD_none, List.length_drop]
      omega
  · rw [he]
    refine Or.inl ⟨notWhole, ?_, ?_⟩
    · rw [significand, List.take_append_drop, natOf_natText]
    · simp only [place, Option.getD_some, List.length_drop]
      omega

theorem isWhole_ofDecimal (decimal : Decimal) : (ofDecimal decimal).isWhole = false := by
  have any := natText_ne_nil decimal.digits
  rcases ofDecimal_cases decimal with ⟨zeros, _, he⟩ | ⟨zeros, _, _, he⟩ | ⟨point, _, _, inside, he⟩ |
    ⟨_, he⟩
  · rw [he]
    simp [isWhole, any]
  · rw [he]
    rfl
  · have rest : (natText decimal.digits).drop point ≠ [] := by
      rw [Ne, List.drop_eq_nil_iff]
      omega
    rw [he]
    simp [isWhole, rest]
  · rw [he]
    simp [isWhole]

theorem units_pos_of_isZero {x : FiniteDouble} (notZero : x.isZero = false) : 0 < x.units := by
  have significand : x.significand ≠ 0 := by simpa [FiniteDouble.isZero] using notZero
  exact Nat.mul_pos (Nat.pos_of_ne_zero significand) (Nat.two_pow_pos _)

/-- The number with a sign. -/
def signed (negative : Bool) (number : NumberText) : NumberText :=
  { number with negative }

/-- The parts of a double without its sign. -/
def ofMagnitude (x : FiniteDouble) : NumberText :=
  if x.isZero then ⟨false, ['0'], ['0'], none⟩ else ofDecimal (x.shortest .even)

/-- The parts of a double in the layout of JSON. -/
def ofDouble (x : FiniteDouble) : NumberText :=
  (ofMagnitude x).signed x.negative

/-- A double other than zero is laid out by its shortest decimal. -/
theorem ofMagnitude_cases (x : FiniteDouble) :
    x.isZero = true ∧ ofMagnitude x = ⟨false, ['0'], ['0'], none⟩ ∨
      x.isZero = false ∧ 0 < x.units ∧ ofMagnitude x = ofDecimal (x.shortest .even) := by
  cases zero : x.isZero with
  | true => exact Or.inl ⟨rfl, by rw [ofMagnitude, zero, if_pos rfl]⟩
  | false =>
    refine Or.inr ⟨rfl, units_pos_of_isZero zero, ?_⟩
    rw [ofMagnitude, zero, if_neg Bool.false_ne_true]

theorem unsigned_ofMagnitude (x : FiniteDouble) : (ofMagnitude x).unsigned =
    if x.isZero then ['0', '.', '0'] else doubleLayout.decimalText (x.shortest .even) := by
  rcases ofMagnitude_cases x with ⟨zero, he⟩ | ⟨notZero, positive, he⟩
  · rw [he, zero]
    rfl
  · rw [he, notZero, if_neg Bool.false_ne_true]
    exact unsigned_ofDecimal (FiniteDouble.shortest_bounds .even positive).1

theorem write_ofDouble (x : FiniteDouble) : (ofDouble x).write = doubleLayout.text x := by
  have unsigned : (ofDouble x).unsigned = (ofMagnitude x).unsigned := rfl
  have sign : (ofDouble x).negative = x.negative := rfl
  have mark : doubleLayout.wholeMark = true := rfl
  have tie : doubleLayout.tie = .even := rfl
  have zero : "0.0".toList = ['0', '.', '0'] := by decide
  rw [write, unsigned, unsigned_ofMagnitude, sign, DoubleLayout.text, mark, tie, zero, if_pos rfl]
  cases x.negative <;> rfl

theorem wellFormed_ofDouble (x : FiniteDouble) : (ofDouble x).WellFormed := by
  have formed : (ofMagnitude x).WellFormed := by
    rcases ofMagnitude_cases x with ⟨_, he⟩ | ⟨_, positive, he⟩
    · rw [he]
      exact ⟨Or.inl rfl, List.forall_mem_singleton.mpr rfl, List.forall_mem_singleton.mpr rfl⟩
    · rw [he]
      exact wellFormed_ofDecimal (FiniteDouble.shortest_bounds .even positive).1
  exact ⟨formed.leading, formed.whole, formed.fraction⟩

theorem isWhole_ofDouble (x : FiniteDouble) : (ofDouble x).isWhole = false := by
  have unsigned : (ofDouble x).isWhole = (ofMagnitude x).isWhole := rfl
  rw [unsigned]
  rcases ofMagnitude_cases x with ⟨_, he⟩ | ⟨_, _, he⟩
  · rw [he]
    rfl
  · rw [he, isWhole_ofDecimal]

end DeviceModel.Json.NumberText
