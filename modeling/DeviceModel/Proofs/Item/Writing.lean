import DeviceModel.Item.Run

/-!
# Writes are all or nothing

A write is either refused, and then the item is what it was, or it leaves behind what it carries:
a text, a number or nothing (`write_cases`).  What it carries depends on the type of the item alone
(`Write.content?`), and `put` says what the item is afterwards.  All that a write can do to an item
follows from these two.

Whether a write is accepted could depend on the buffer that the item happens to have.  It does not:
an item that was made by `new` has a buffer exactly if its type asks for one, and every operation
keeps this (`WellFormed`).  So for every item that a run leads to, the descriptor and what is
written decide (`accepted_write_run`).
-/

namespace DeviceModel

namespace DataType

theorem isTextual_iff {type : DataType} :
    type.isTextual ↔ type = .string ∨ type = .timePattern := by
  cases type <;> simp [isTextual]

theorem hasTextBuffer_iff {type : DataType} :
    type.hasTextBuffer ↔ type = .string ∨ type = .timePattern ∨ type = .time := by
  cases type <;> simp [hasTextBuffer]

theorem hasTextBuffer_of_isTextual {type : DataType} (h : type.isTextual) :
    type.hasTextBuffer := by
  rcases isTextual_iff.mp h with rfl | rfl <;> rfl

theorem hasTextBuffer_of_isInteger {type : DataType} (h : type.isInteger) :
    type.hasTextBuffer = false := by
  cases type <;> first | contradiction | rfl

theorem isInteger_iff {type : DataType} :
    type.isInteger ↔ ¬ type.isTextual ∧ type ≠ .bool ∧ type ≠ .time := by
  cases type <;> simp [isInteger, isTextual]

/-- The four ways in which a type can keep its values. -/
theorem kinds (type : DataType) :
    type.isTextual ∨ type = .bool ∨ type = .time ∨ type.isInteger := by
  cases type <;> simp [isTextual, isInteger]

end DataType

namespace Descriptor

theorem accepts_iff {descriptor : Descriptor} {n : Int64} :
    descriptor.accepts n ↔ (descriptor.least = 0 ∧ descriptor.greatest = 0) ∨
      (descriptor.least ≤ n ∧ n ≤ descriptor.greatest) := by
  simp [accepts, hasRange]

end Descriptor

namespace Value

theorem isNull_eq_false {v : Value} (h : v ≠ .null) : v.isNull = false := by
  cases v with
  | null => exact absurd rfl h
  | _ => rfl

end Value

namespace Item

variable {τ : Type}

/-! ### What a write carries -/

/-- What an accepted write leaves behind in an item. -/
inductive Content
  | text (s : String)
  | number (n : Int64)
  /-- The item holds no value any more. -/
  | nothing
deriving DecidableEq

/-- The point in time that a value gives. -/
def momentOf? : Value → Option Moment
  | .string s => Moment.ofText? s
  | .dateTime moment => some moment
  | _ => none

/-- What a write carries for an item of this type, if the type can make anything of it. -/
def Write.content? (type : DataType) : Write → Option Content
  | .text s => some (.text s)
  | .number n => some (.number n)
  | .value .null => some .nothing
  | .value v =>
    match type with
    | .string | .timePattern => some (.text v.coerceString)
    | .bool => some (.number (if v.coerceBool then 1 else 0))
    | .time => (momentOf? v).map fun moment => .number (momentNumber moment)
    | _ => v.coerceInt32?.map fun n => .number n.toInt64

/-- The item with something stored in it at the instant `now`. -/
def put (item : Item τ) (now : τ) : Content → Item τ
  | .text s =>
    { item with
      buffer := some s
      lastSet := some now
      lastChanged := if item.buffer = some s then item.lastChanged else some now }
  | .number n =>
    { item with
      number := n
      previous := item.number
      lastSet := some now
      lastChanged := if item.number = n then item.lastChanged else some now }
  | .nothing => item.clear

/-- Whether an item can hold something: a text needs a buffer, and a number must be in range unless
it stands for a truth value or a point in time. -/
def CanHold (item : Item τ) : Content → Prop
  | .text _ => item.buffer.isSome
  | .number n => item.descriptor.accepts n ∨ item.dataType = .bool ∨ item.dataType = .time
  | .nothing => True

theorem content?_of_isTextual {type : DataType} {v : Value} (h : type.isTextual)
    (hv : v ≠ .null) : (Write.value v).content? type = some (.text v.coerceString) := by
  rcases DataType.isTextual_iff.mp h with rfl | rfl <;> cases v <;> first | contradiction | rfl

theorem content?_of_bool {v : Value} (hv : v ≠ .null) :
    (Write.value v).content? .bool = some (.number (if v.coerceBool then 1 else 0)) := by
  cases v <;> first | contradiction | rfl

theorem content?_of_time {v : Value} (hv : v ≠ .null) :
    (Write.value v).content? .time =
      (momentOf? v).map fun moment => .number (momentNumber moment) := by
  cases v <;> first | contradiction | rfl

theorem content?_of_isInteger {type : DataType} {v : Value} (h : type.isInteger)
    (hv : v ≠ .null) :
    (Write.value v).content? type = v.coerceInt32?.map fun n => .number n.toInt64 := by
  cases v with
  | null => contradiction
  | _ => cases type <;> first | contradiction | rfl

/-- Only writing null carries nothing. -/
theorem content?_eq_nothing_iff {type : DataType} {w : Write} :
    w.content? type = some .nothing ↔ w = .value .null := by
  constructor
  · intro h
    cases w with
    | text s => exact absurd (Option.some.inj h) (by nofun)
    | number n => exact absurd (Option.some.inj h) (by nofun)
    | value v =>
      by_cases hv : v = .null
      · rw [hv]
      rcases type.kinds with ht | rfl | rfl | ht
      · rw [content?_of_isTextual ht hv] at h
        cases h
      · rw [content?_of_bool hv] at h
        cases h
      · rw [content?_of_time hv] at h
        simp at h
      · rw [content?_of_isInteger ht hv] at h
        simp at h
  · intro h
    rw [h]
    rfl

/-! ### What a write does -/

theorem storeText_of_none {item : Item τ} (h : item.buffer = none) (s : String) (now : τ) :
    item.storeText s now = ⟨false, item⟩ := by
  simp only [storeText, h]

theorem storeText_of_some {item : Item τ} {text : String} (h : item.buffer = some text) (s : String)
    (now : τ) : item.storeText s now = ⟨true, item.put now (.text s)⟩ := by
  simp only [storeText, h, put, Option.some.injEq]
  by_cases hs : text = s
  · rw [if_pos hs, if_pos hs, ← hs, ← h]
  · rw [if_neg hs, if_neg hs]

theorem storeNumber_eq_put (item : Item τ) (n : Int64) (now : τ) :
    item.storeNumber n now = ⟨true, item.put now (.number n)⟩ := by
  simp only [storeNumber, put]
  by_cases hn : item.number = n
  · rw [if_pos hn, if_pos hn, ← hn]
  · rw [if_neg hn, if_neg hn]

theorem writeValue_of_isTextual {item : Item τ} {v : Value} (h : item.dataType.isTextual)
    (hv : v ≠ .null) (now : τ) :
    item.writeValue v now = item.storeText v.coerceString now := by
  unfold writeValue
  rw [Value.isNull_eq_false hv]
  rcases DataType.isTextual_iff.mp h with ht | ht <;> rw [ht] <;> rfl

theorem writeValue_of_bool {item : Item τ} {v : Value} (h : item.dataType = .bool)
    (hv : v ≠ .null) (now : τ) :
    item.writeValue v now = item.storeNumber (if v.coerceBool then 1 else 0) now := by
  unfold writeValue
  rw [Value.isNull_eq_false hv, h]
  rfl

theorem writeValue_of_time {item : Item τ} {v : Value} (h : item.dataType = .time)
    (hv : v ≠ .null) (now : τ) :
    item.writeValue v now =
      match momentOf? v with
      | some moment => item.storeNumber (momentNumber moment) now
      | none => ⟨false, item⟩ := by
  unfold writeValue
  rw [h]
  cases v <;> first | contradiction | rfl

theorem writeValue_of_isInteger {item : Item τ} {v : Value} (h : item.dataType.isInteger)
    (hv : v ≠ .null) (now : τ) :
    item.writeValue v now =
      match v.coerceInt32? with
      | some n => item.writeNumber n.toInt64 now
      | none => ⟨false, item⟩ := by
  unfold writeValue
  rw [Value.isNull_eq_false hv]
  cases ht : item.dataType <;> rw [ht] at h <;> first | contradiction | rfl

/-- **A write is refused and changes nothing, or it leaves behind what it carries.** -/
theorem write_cases (item : Item τ) (w : Write) (now : τ) :
    item.write w now = ⟨false, item⟩ ∨
      ∃ content, w.content? item.dataType = some content ∧ item.CanHold content ∧
        item.write w now = ⟨true, item.put now content⟩ := by
  -- the two ways to store, which all values share
  have storing (s : String) : item.storeText s now = ⟨false, item⟩ ∨
      item.CanHold (.text s) ∧ item.storeText s now = ⟨true, item.put now (.text s)⟩ := by
    cases h : item.buffer with
    | none => exact Or.inl (storeText_of_none h s now)
    | some text => exact Or.inr ⟨by simp only [CanHold, h, Option.isSome_some],
        storeText_of_some h s now⟩
  have numbering (n : Int64) : item.writeNumber n now = ⟨false, item⟩ ∨
      item.CanHold (.number n) ∧ item.writeNumber n now = ⟨true, item.put now (.number n)⟩ := by
    rw [writeNumber, storeNumber_eq_put]
    by_cases h : item.descriptor.accepts n
    · exact Or.inr ⟨Or.inl h, if_pos h⟩
    · exact Or.inl (if_neg h)
  cases w with
  | text s => exact (storing s).imp_right fun h => ⟨_, rfl, h⟩
  | number n => exact (numbering n).imp_right fun h => ⟨_, rfl, h⟩
  | value v =>
    by_cases hv : v = .null
    · subst hv
      exact Or.inr ⟨.nothing, rfl, trivial, rfl⟩
    · rcases item.dataType.kinds with ht | ht | ht | ht
      · rw [content?_of_isTextual ht hv, write, writeValue_of_isTextual ht hv]
        exact (storing v.coerceString).imp_right fun h => ⟨_, rfl, h⟩
      · rw [write, writeValue_of_bool ht hv, storeNumber_eq_put, ht]
        exact Or.inr ⟨_, content?_of_bool hv, Or.inr (Or.inl ht), rfl⟩
      · rw [write, writeValue_of_time ht hv, ht, content?_of_time hv]
        cases momentOf? v with
        | none => exact Or.inl rfl
        | some moment =>
          exact Or.inr ⟨_, rfl, Or.inr (Or.inr ht), storeNumber_eq_put _ _ _⟩
      · rw [write, writeValue_of_isInteger ht hv, content?_of_isInteger ht hv]
        cases v.coerceInt32? with
        | none => exact Or.inl rfl
        | some n => exact (numbering n.toInt64).imp_right fun h => ⟨_, rfl, h⟩

/-- A refused write changes nothing: neither number, nor the text, the instants, the visibility,
the rules or the descriptor. -/
theorem item_write_of_not_accepted {item : Item τ} {w : Write} {now : τ}
    (h : (item.write w now).accepted = false) : (item.write w now).item = item := by
  rcases item.write_cases w now with he | ⟨content, _, _, he⟩
  · rw [he]
  · rw [he] at h
    contradiction

theorem descriptor_put (item : Item τ) (now : τ) (content : Content) :
    (item.put now content).descriptor = item.descriptor := by
  cases content <;> rfl

theorem descriptor_write (item : Item τ) (w : Write) (now : τ) :
    (item.write w now).item.descriptor = item.descriptor := by
  rcases item.write_cases w now with he | ⟨content, _, _, he⟩
  · rw [he]
  · rw [he, descriptor_put]

/-! ### What a write does not look at -/

section

variable {σ : Type}

/-- The outcome of a write with another item after it. -/
def Outcome.map (change : Item τ → Item σ) (outcome : Outcome τ) : Outcome σ :=
  ⟨outcome.accepted, change outcome.item⟩

/-- A change of items that writes do not notice: what decides on a write stays as it is, and it does
not matter whether something is stored before the change or after it. -/
structure Unnoticed (f : τ → σ) (change : Item τ → Item σ) : Prop where
  descriptor : ∀ item, (change item).descriptor = item.descriptor
  buffer : ∀ item, (change item).buffer = item.buffer
  put : ∀ item now content, (change item).put (f now) content = change (item.put now content)

variable {f : τ → σ} {change : Item τ → Item σ} (h : Unnoticed f change)
include h

theorem Unnoticed.storeText (item : Item τ) (s : String) (now : τ) :
    (change item).storeText s (f now) = (item.storeText s now).map change := by
  cases stored : item.buffer with
  | none => rw [storeText_of_none stored, storeText_of_none ((h.buffer item).trans stored)]; rfl
  | some text =>
    rw [storeText_of_some stored, storeText_of_some ((h.buffer item).trans stored), h.put]
    rfl

theorem Unnoticed.storeNumber (item : Item τ) (n : Int64) (now : τ) :
    (change item).storeNumber n (f now) = (item.storeNumber n now).map change := by
  rw [storeNumber_eq_put, storeNumber_eq_put, h.put]
  rfl

theorem Unnoticed.writeNumber (item : Item τ) (n : Int64) (now : τ) :
    (change item).writeNumber n (f now) = (item.writeNumber n now).map change := by
  rw [Item.writeNumber, Item.writeNumber, h.descriptor, h.storeNumber]
  split <;> rfl

theorem Unnoticed.writeValue (item : Item τ) (v : Value) (now : τ) :
    (change item).writeValue v (f now) = (item.writeValue v now).map change := by
  have same : (change item).dataType = item.dataType :=
    congrArg Descriptor.dataType (h.descriptor item)
  by_cases hv : v = .null
  · subst hv
    exact congrArg (Outcome.mk true) (h.put item now .nothing)
  rcases item.dataType.kinds with ht | ht | ht | ht
  · rw [writeValue_of_isTextual ht hv, writeValue_of_isTextual (same ▸ ht) hv, h.storeText]
  · rw [writeValue_of_bool ht hv, writeValue_of_bool (same ▸ ht) hv, h.storeNumber]
  · rw [writeValue_of_time ht hv, writeValue_of_time (same ▸ ht) hv]
    cases momentOf? v with
    | none => rfl
    | some moment => exact h.storeNumber item _ now
  · rw [writeValue_of_isInteger ht hv, writeValue_of_isInteger (same ▸ ht) hv]
    cases v.coerceInt32? with
    | none => rfl
    | some n => exact h.writeNumber item _ now

/-- A write gives the same answer before and after a change that it does not notice. -/
theorem Unnoticed.write (item : Item τ) (w : Write) (now : τ) :
    (change item).write w (f now) = (item.write w now).map change := by
  cases w with
  | text s => exact h.storeText item s now
  | number n => exact h.writeNumber item n now
  | value v => exact h.writeValue item v now

end

/-! ### Items and their buffers -/

/-- An item has a buffer exactly if its type asks for one. -/
def WellFormed (item : Item τ) : Prop :=
  item.buffer.isSome = item.dataType.hasTextBuffer

theorem wellFormed_new (descriptor : Descriptor) : WellFormed (new descriptor : Item τ) := by
  simp only [WellFormed, new, dataType]
  by_cases h : descriptor.dataType.hasTextBuffer <;> simp [h]

theorem WellFormed.put {item : Item τ} (h : item.WellFormed) {content : Content}
    (held : item.CanHold content) (now : τ) : (item.put now content).WellFormed := by
  cases content with
  | text s =>
    have hs : item.dataType.hasTextBuffer := h.symm.trans held
    exact hs.symm
  | number n => exact h
  | nothing => exact h

theorem WellFormed.write {item : Item τ} (h : item.WellFormed) (w : Write) (now : τ) :
    (item.write w now).item.WellFormed := by
  rcases item.write_cases w now with he | ⟨content, _, held, he⟩
  · rw [he]
    exact h
  · rw [he]
    exact h.put held now

theorem WellFormed.apply {item : Item τ} (h : item.WellFormed) (op : Op τ) :
    (item.apply op).WellFormed := by
  cases op with
  | write w now => exact h.write w now
  | restore instant => exact h
  | setPublic isPublic => exact h
  | addRule rule =>
    rw [Item.apply, addRule_eq]
    exact h

theorem descriptor_apply (item : Item τ) (op : Op τ) :
    (item.apply op).descriptor = item.descriptor := by
  cases op with
  | write w now => exact item.descriptor_write w now
  | restore instant => rfl
  | setPublic isPublic => rfl
  | addRule rule => rw [apply, addRule_eq]

theorem descriptor_run (item : Item τ) (ops : List (Op τ)) :
    (item.run ops).descriptor = item.descriptor := by
  induction ops generalizing item with
  | nil => rfl
  | cons op ops ih => rw [run_cons, ih, descriptor_apply]

theorem dataType_run (item : Item τ) (ops : List (Op τ)) :
    (item.run ops).dataType = item.dataType :=
  congrArg Descriptor.dataType (item.descriptor_run ops)

theorem WellFormed.run {item : Item τ} (h : item.WellFormed) (ops : List (Op τ)) :
    (item.run ops).WellFormed := by
  induction ops generalizing item with
  | nil => exact h
  | cons op ops ih => exact ih (h.apply op)

/-! ### Acceptance -/

theorem accepted_storeText_iff {item : Item τ} (h : item.WellFormed) (s : String) (now : τ) :
    (item.storeText s now).accepted ↔ item.dataType.hasTextBuffer := by
  rw [← h]
  cases hb : item.buffer with
  | none => rw [storeText_of_none hb]; rfl
  | some text => rw [storeText_of_some hb]; rfl

theorem accepted_writeNumber_iff (item : Item τ) (n : Int64) (now : τ) :
    (item.writeNumber n now).accepted ↔ item.descriptor.accepts n := by
  rw [writeNumber, storeNumber_eq_put]
  split <;> simp [*]

theorem isSome_momentOf?_iff {v : Value} :
    (momentOf? v).isSome ↔
      (∃ moment, v = .dateTime moment) ∨ ∃ s, v = .string s ∧ (Moment.ofText? s).isSome := by
  cases v <;> simp [momentOf?]

theorem accepted_writeValue_iff {item : Item τ} (h : item.WellFormed) (v : Value) (now : τ) :
    (item.writeValue v now).accepted ↔
      v = .null ∨ item.dataType.isTextual ∨ item.dataType = .bool ∨
      (item.dataType = .time ∧ (momentOf? v).isSome) ∨
      (item.dataType.isInteger ∧
        ∃ n, v.coerceInt32? = some n ∧ item.descriptor.accepts n.toInt64) := by
  by_cases hv : v = .null
  · subst hv
    exact iff_of_true rfl (Or.inl rfl)
  rcases item.dataType.kinds with ht | ht | ht | ht
  · rw [writeValue_of_isTextual ht hv, accepted_storeText_iff h]
    exact iff_of_true (DataType.hasTextBuffer_of_isTextual ht) (Or.inr (Or.inl ht))
  · rw [writeValue_of_bool ht hv, storeNumber_eq_put]
    exact iff_of_true rfl (Or.inr (Or.inr (Or.inl ht)))
  · rw [writeValue_of_time ht hv, ht]
    cases momentOf? v with
    | none => simp [hv, DataType.isTextual, DataType.isInteger]
    | some moment => simp [storeNumber_eq_put]
  · obtain ⟨hText, hBool, hTime⟩ := DataType.isInteger_iff.mp ht
    rw [writeValue_of_isInteger ht hv]
    cases v.coerceInt32? with
    | none => simp [hv, hText, hBool, hTime]
    | some n => simp [hv, hText, hBool, hTime, ht, accepted_writeNumber_iff]

/-! ### Writes in a run -/

/-- **The descriptor and what is written decide whether a write is accepted**, after every sequence
of operations on a new item, and a write that is not accepted leaves the item as it was. -/
theorem accepted_write_run (descriptor : Descriptor) (ops : List (Op τ)) (now : τ) :
    let item : Item τ := (new descriptor).run ops
    (∀ s, (item.write (.text s) now).accepted ↔
      descriptor.dataType = .string ∨ descriptor.dataType = .timePattern ∨
        descriptor.dataType = .time) ∧
    (∀ n, (item.write (.number n) now).accepted ↔
      (descriptor.least = 0 ∧ descriptor.greatest = 0) ∨
        (descriptor.least ≤ n ∧ n ≤ descriptor.greatest)) ∧
    (∀ v, (item.write (.value v) now).accepted ↔
      v = .null ∨
      (descriptor.dataType = .string ∨ descriptor.dataType = .timePattern ∨
        descriptor.dataType = .bool) ∨
      (descriptor.dataType = .time ∧
        ((∃ moment, v = .dateTime moment) ∨
          ∃ s, v = .string s ∧ (Moment.ofText? s).isSome)) ∨
      (descriptor.dataType.isInteger ∧
        ∃ n, v.coerceInt32? = some n ∧ descriptor.accepts n.toInt64)) ∧
    (∀ w, (item.write w now).accepted = false → (item.write w now).item = item) := by
  intro item
  have formed : item.WellFormed := (wellFormed_new descriptor).run ops
  have same : item.descriptor = descriptor := descriptor_run (new descriptor) ops
  have type : item.dataType = descriptor.dataType := congrArg Descriptor.dataType same
  refine ⟨fun s => ?_, fun n => ?_, fun v => ?_, fun w => item_write_of_not_accepted⟩
  · rw [write, accepted_storeText_iff formed, type, DataType.hasTextBuffer_iff]
  · rw [write, accepted_writeNumber_iff, same, Descriptor.accepts_iff]
  · rw [write, accepted_writeValue_iff formed, type, same, isSome_momentOf?_iff,
      DataType.isTextual_iff]
    simp only [or_assoc]

end Item

end DeviceModel
