import DeviceModel.Proofs.Item.Instants

/-!
# Numbers in range

The range of a descriptor is checked where a number is written as such and where an integer comes
out of a value. A truth value and a point in time are stored unchecked, and the zero of a new item
was never written at all. So what is known of the number of an item depends on its type and on the
writes of its run: `mem_numbersOf_cases` says it of every number in the log, and `range_run` of the
current and of the previous number.
-/

namespace DeviceModel.Item

variable {τ : Type}

/-! ### The steps of a run -/

theorem descriptor_of_mem_history {item : Item τ} {ops : List (Op τ)} {step : Step τ}
    (mem : step ∈ history item ops) : step.item.descriptor = item.descriptor := by
  induction ops generalizing item with
  | nil => contradiction
  | cons op ops ih =>
    rcases List.mem_cons.mp mem with rfl | later
    · rfl
    · rw [ih later, descriptor_apply]

theorem op_mem_of_mem_history {item : Item τ} {ops : List (Op τ)} {step : Step τ}
    (mem : step ∈ history item ops) : step.op ∈ ops := by
  have := List.mem_map_of_mem (f := Step.op) mem
  rwa [map_op_history] at this

theorem canHold_of_content? {step : Step τ} {content : Content}
    (h : step.content? = some content) : step.item.CanHold content := by
  rcases step.item.apply_cases step.op with ⟨none, _⟩ | ⟨other, _, some, held, _⟩
  · rw [h] at none
    contradiction
  · rw [h] at some
    rwa [Option.some.inj some]

/-- A number is written as such, and then it is in range, or it comes out of a value. -/
theorem Step.number?_cases {step : Step τ} {n : Int64} (h : step.number? = some n) :
    (∃ now, step.op = .write (.number n) now ∧ step.writes ∧ step.item.descriptor.accepts n) ∨
      ∃ v now, step.op = .write (.value v) now ∧ step.item.CanHold (.number n) ∧
        (Write.value v).content? step.item.dataType = some (.number n) := by
  have stored : step.content? = some (.number n) := by
    unfold Step.number? at h
    split at h
    next m hc => rw [hc, Option.some.inj h]
    next => contradiction
  obtain ⟨item, op⟩ := step
  cases op with
  | write w now =>
    have accepted : (item.write w now).accepted = true := by
      rw [← isSome_content?_write, stored]
      rfl
    have carried : w.content? item.dataType = some (.number n) := by
      simpa only [Step.content?, accepted, if_true] using stored
    cases w with
    | text s =>
      rw [Write.content?] at carried
      cases carried
    | number m =>
      obtain rfl : m = n := by simpa [Write.content?] using carried
      refine Or.inl ⟨now, rfl, ?_, (accepted_writeNumber_iff item m now).mp accepted⟩
      simp [Step.writes, accepted]
    | value v => exact Or.inr ⟨v, now, rfl, canHold_of_content? stored, carried⟩
  | restore instant => contradiction
  | setPublic isPublic => contradiction
  | addRule rule => contradiction

/-- What sets the instant of an item without restoring it gives it a value. -/
theorem Step.writes_of_setAt? (step : Step τ) {t : τ} (unrestored : ∀ t, step.op ≠ .restore t)
    (set : step.setAt? = some t) : step.writes := by
  obtain ⟨item, op⟩ := step
  cases op with
  | write w now =>
    simp only [setAt?] at set
    split at set
    next writes => exact writes
    next => contradiction
  | restore instant => exact absurd rfl (unrestored instant)
  | setPublic isPublic => contradiction
  | addRule rule => contradiction

/-! ### The numbers of a log -/

/-- No number is written as such: all numbers of the run come out of values. -/
def OnlyValues (item : Item τ) (ops : List (Op τ)) : Prop :=
  ∀ step ∈ history item ops, ∀ n now, step.op = .write (.number n) now → step.writes = false

/-- Whether a number fits 32 bits with sign. -/
def FitsInt32 (n : Int64) : Prop :=
  -0x80000000 ≤ n.toInt ∧ n.toInt < 0x80000000

instance (n : Int64) : Decidable (FitsInt32 n) :=
  inferInstanceAs (Decidable (_ ∧ _))

theorem fitsInt32_toInt64 (n : Int32) : FitsInt32 n.toInt64 := by
  have low := n.le_toInt
  have high := n.toInt_lt
  rw [FitsInt32, Int32.toInt_toInt64]
  omega

/-- **Where the numbers of a run come from.** -/
theorem mem_numbersOf_cases {descriptor : Descriptor} {ops : List (Op τ)} {n : Int64}
    (mem : n ∈ numbersOf (new descriptor : Item τ) ops) :
    (descriptor.accepts n ∧ ¬ OnlyValues (new descriptor : Item τ) ops) ∨
      (descriptor.dataType.isInteger ∧ descriptor.accepts n ∧ FitsInt32 n) ∨
      (descriptor.dataType = .bool ∧ (n = 0 ∨ n = 1)) ∨
      descriptor.dataType = .time := by
  obtain ⟨step, stepMem, number⟩ := List.mem_filterMap.mp mem
  have same : step.item.descriptor = descriptor := descriptor_of_mem_history stepMem
  have type : step.item.dataType = descriptor.dataType := congrArg Descriptor.dataType same
  rcases Step.number?_cases number with ⟨now, op, writes, accepts⟩ | ⟨v, now, _, held, carried⟩
  · rw [same] at accepts
    refine Or.inl ⟨accepts, fun only => ?_⟩
    rw [only step stepMem n now op] at writes
    contradiction
  right
  rw [type] at carried
  by_cases hv : v = .null
  · rw [hv] at carried
    exact absurd (Option.some.inj carried) nofun
  rcases descriptor.dataType.kinds with ht | ht | ht | ht
  · rw [content?_of_isTextual ht hv] at carried
    exact absurd (Option.some.inj carried) nofun
  · rw [ht, content?_of_bool hv] at carried
    simp only [Option.some.injEq, Content.number.injEq] at carried
    refine Or.inr (Or.inl ⟨ht, ?_⟩)
    rw [← carried]
    cases v.coerceBool
    · exact Or.inl rfl
    · exact Or.inr rfl
  · exact Or.inr (Or.inr ht)
  · obtain ⟨_, hBool, hTime⟩ := DataType.isInteger_iff.mp ht
    rw [content?_of_isInteger ht hv] at carried
    obtain ⟨m, _, hm⟩ := Option.map_eq_some_iff.mp carried
    rw [← Content.number.inj hm] at held ⊢
    rw [CanHold, type, same] at held
    exact Or.inl ⟨ht, by tauto, fitsInt32_toInt64 m⟩

section

variable {descriptor : Descriptor} {ops : List (Op τ)} {n : Int64}

theorem accepts_of_mem_numbersOf (hBool : descriptor.dataType ≠ .bool)
    (hTime : descriptor.dataType ≠ .time) (mem : n ∈ numbersOf (new descriptor : Item τ) ops) :
    descriptor.accepts n := by
  rcases mem_numbersOf_cases mem with h | h | h | h
  · exact h.1
  · exact h.2.1
  · exact absurd h.1 hBool
  · exact absurd h hTime

theorem fitsInt32_of_mem_numbersOf (integer : descriptor.dataType.isInteger)
    (only : OnlyValues (new descriptor : Item τ) ops)
    (mem : n ∈ numbersOf (new descriptor : Item τ) ops) : FitsInt32 n := by
  obtain ⟨_, hBool, hTime⟩ := DataType.isInteger_iff.mp integer
  rcases mem_numbersOf_cases mem with h | h | h | h
  · exact absurd only h.2
  · exact h.2.2
  · exact absurd h.1 hBool
  · exact absurd h hTime

theorem truth_of_mem_numbersOf (truth : descriptor.dataType = .bool)
    (mem : n ∈ numbersOf (new descriptor : Item τ) ops) :
    (n = 0 ∨ n = 1) ∨ (descriptor.accepts n ∧ ¬ OnlyValues (new descriptor : Item τ) ops) := by
  rcases mem_numbersOf_cases mem with h | h | h | h
  · exact Or.inr h
  · rw [truth] at h
    exact absurd h.1 nofun
  · exact Or.inl h.2
  · rw [truth] at h
    contradiction

end

/-! ### The number of an item -/

theorem number_mem_of_ne_nil {descriptor : Descriptor} {ops : List (Op τ)}
    (written : numbersOf (new descriptor : Item τ) ops ≠ []) :
    ((new descriptor : Item τ).run ops).number ∈ numbersOf (new descriptor : Item τ) ops := by
  rw [(numbers_run descriptor ops).1, List.getLastD_eq_getLast?,
    List.getLast?_eq_some_getLast written]
  exact List.getLast_mem written

theorem number_mem_or_zero (descriptor : Descriptor) (ops : List (Op τ)) :
    ((new descriptor : Item τ).run ops).number = 0 ∨
      ((new descriptor : Item τ).run ops).number ∈ numbersOf (new descriptor : Item τ) ops := by
  rw [(numbers_run descriptor ops).1]
  exact List.mem_cons.mp List.getLastD_mem_cons

theorem previous_mem_or_zero (descriptor : Descriptor) (ops : List (Op τ)) :
    ((new descriptor : Item τ).run ops).previous = 0 ∨
      ((new descriptor : Item τ).run ops).previous ∈ numbersOf (new descriptor : Item τ) ops := by
  rw [(numbers_run descriptor ops).2]
  exact (List.mem_cons.mp List.getLastD_mem_cons).imp_right (List.dropLast_sublist _).mem

/-- An integer item holds a value only after a number was written, unless its instants were
restored. -/
theorem numbersOf_ne_nil_of_hasValue {descriptor : Descriptor} {ops : List (Op τ)}
    (integer : descriptor.dataType.isInteger) (unrestored : ∀ instant, .restore instant ∉ ops)
    (valued : ((new descriptor : Item τ).run ops).hasValue) :
    numbersOf (new descriptor : Item τ) ops ≠ [] := by
  obtain ⟨t, ht⟩ := Option.isSome_iff_exists.mp valued
  obtain ⟨step, mem, set⟩ := mem_of_latest? ((lastSet_run descriptor ops).symm.trans ht)
  have stepMem : step ∈ history (new descriptor) ops := (List.rtakeWhile_suffix _ _).subset mem
  have notRestored (instant : τ) : step.op ≠ .restore instant := fun he =>
    unrestored instant (he ▸ op_mem_of_mem_history stepMem)
  have writes := step.writes_of_setAt? notRestored set
  rw [Step.writes_eq, Step.clears_eq] at writes
  cases hc : step.content? with
  | none => simp [hc] at writes
  | some content =>
    cases content with
    | nothing => simp [hc] at writes
    | number n =>
      have number : step.number? = some n := by rw [Step.number?, hc]
      exact List.ne_nil_of_mem (List.mem_filterMap.mpr ⟨step, stepMem, number⟩)
    | text s =>
      -- there is no buffer for it
      have text : step.text? = some s := by rw [Step.text?, hc]
      have logged : s ∈ textsOf (new descriptor : Item τ) ops :=
        List.mem_filterMap.mpr ⟨step, stepMem, text⟩
      rw [textsOf_eq_nil (DataType.hasTextBuffer_of_isInteger integer)] at logged
      contradiction

/-! ### Ranges -/

/-- **The current and the previous number are in range as far as they were checked.** Of a type
other than truth values and points in time, both are zero as long as no number was written; then the
current one is in range, and the previous one is in range or zero. An integer item whose instants
were not restored holds a value only in range, and one whose numbers all come out of values holds a
number of 32 bits. The number of a truth value is zero, one or in range, and in range only if it was
written as a number. -/
theorem range_run (descriptor : Descriptor) (ops : List (Op τ)) :
    let start : Item τ := new descriptor
    let item := start.run ops
    (descriptor.dataType ≠ .bool → descriptor.dataType ≠ .time →
      (numbersOf start ops = [] → item.number = 0 ∧ item.previous = 0) ∧
      (numbersOf start ops ≠ [] → descriptor.accepts item.number ∧
        (item.previous = 0 ∨ descriptor.accepts item.previous))) ∧
    (descriptor.dataType.isInteger →
      ((∀ instant, .restore instant ∉ ops) → item.hasValue → descriptor.accepts item.number) ∧
      (OnlyValues start ops → FitsInt32 item.number)) ∧
    (descriptor.dataType = .bool →
      (item.number = 0 ∨ item.number = 1 ∨ descriptor.accepts item.number) ∧
      (OnlyValues start ops → item.number = 0 ∨ item.number = 1)) := by
  intro start item
  refine ⟨fun hBool hTime => ⟨fun none => ?_, fun written => ⟨?_, ?_⟩⟩,
    fun integer => ⟨fun unrestored valued => ?_, fun only => ?_⟩, fun truth => ⟨?_, fun only => ?_⟩⟩
  · obtain ⟨number, previous⟩ := numbers_run (τ := τ) descriptor ops
    rw [number, previous, none]
    exact ⟨rfl, rfl⟩
  · exact accepts_of_mem_numbersOf hBool hTime (number_mem_of_ne_nil written)
  · exact (previous_mem_or_zero descriptor ops).imp_right (accepts_of_mem_numbersOf hBool hTime)
  · obtain ⟨_, hBool, hTime⟩ := DataType.isInteger_iff.mp integer
    have written := numbersOf_ne_nil_of_hasValue integer unrestored valued
    exact accepts_of_mem_numbersOf hBool hTime (number_mem_of_ne_nil written)
  · rcases number_mem_or_zero descriptor ops with zero | mem
    · rw [zero]
      exact ⟨by decide, by decide⟩
    · exact fitsInt32_of_mem_numbersOf integer only mem
  · rcases number_mem_or_zero descriptor ops with zero | mem
    · exact Or.inl zero
    · rcases truth_of_mem_numbersOf truth mem with value | ⟨accepts, _⟩
      · exact value.imp_right Or.inl
      · exact Or.inr (Or.inr accepts)
  · rcases number_mem_or_zero descriptor ops with zero | mem
    · exact Or.inl zero
    · rcases truth_of_mem_numbersOf truth mem with value | ⟨_, other⟩
      · exact value
      · exact absurd only other

end DeviceModel.Item
