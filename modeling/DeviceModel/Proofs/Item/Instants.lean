import DeviceModel.Proofs.Item.History
import Mathlib.Data.List.DropRight
import Mathlib.Data.List.Pairwise
import Mathlib.Order.Defs.PartialOrder

/-!
# When an item was set and changed

An item keeps two instants. Both can be read off the history of the item: `latest?` is the last
instant that a history gives, counting only what comes after the last step that takes the value
away. `Step.setAt?` gives the instants of accepted writes and of restorings, and `Step.changedAt?`
of these only the writes that differ from what was stored, and the restorings.

The main statement is `instants_run`: the two instants of an item are the latest ones of its
history. Since every change is a setting, an item that was changed was set, and if the instants of a
run do not run backwards, it was set no earlier. Nor is a change ever missed: the instant of a write
that turns one value of the item into another is the instant of its last change.
-/

namespace DeviceModel.Item

variable {τ : Type}

/-! ### The latest instant of a history -/

/-- The last instant of a history after everything in it that clears. -/
def latest? {α : Type} (clears : α → Bool) (instant? : α → Option τ) (history : List α) :
    Option τ :=
  ((history.rtakeWhile fun a => !clears a).filterMap instant?).getLast?

theorem latest?_concat {α : Type} (clears : α → Bool) (instant? : α → Option τ)
    (history : List α) (a : α) :
    latest? clears instant? (history ++ [a]) =
      if clears a then none else (instant? a).or (latest? clears instant? history) := by
  rw [latest?, List.rtakeWhile_concat]
  cases h : clears a with
  | true => rfl
  | false =>
    simp only [Bool.not_false, if_true, Bool.false_eq_true, if_false]
    rw [filterMap_concat, List.getLast?_append, latest?]
    cases instant? a <;> rfl

/-- A latest instant is the instant of something in the history. -/
theorem mem_of_latest? {α : Type} {clears : α → Bool} {instant? : α → Option τ}
    {history : List α} {t : τ} (h : latest? clears instant? history = some t) :
    ∃ a ∈ history.rtakeWhile fun a => !clears a, instant? a = some t :=
  List.mem_filterMap.mp (List.mem_of_getLast? h)

/-- If the instants of a history do not run backwards, then the latest of some of them is not after
the latest of all. -/
theorem latest?_le_latest? [Preorder τ] {α : Type} {clears : α → Bool} {some? all? : α → Option τ}
    (among : ∀ a t, some? a = some t → all? a = some t) {history : List α}
    (ordered : (history.filterMap all?).Pairwise (· ≤ ·)) {t : τ}
    (h : latest? clears some? history = some t) :
    ∃ u, latest? clears all? history = some u ∧ t ≤ u := by
  obtain ⟨a, ha, hat⟩ := mem_of_latest? h
  have mem : t ∈ (history.rtakeWhile fun a => !clears a).filterMap all? :=
    List.mem_filterMap.mpr ⟨a, ha, among a t hat⟩
  -- what counts is the end of the history, so its instants are in order as well
  have kept : ((history.rtakeWhile fun a => !clears a).filterMap all?).Pairwise (· ≤ ·) :=
    ordered.sublist ((List.rtakeWhile_suffix _ _).sublist.filterMap all?)
  exact ⟨_, List.getLast?_eq_some_getLast (List.ne_nil_of_mem mem), kept.rel_getLast mem⟩

/-! ### The instants of a step -/

/-- Whether a step writes something that differs from what was stored: a text that differs from the
text, or a number that differs from the number. -/
def Step.changes (step : Step τ) : Bool :=
  match step.content? with
  | some (.text s) => step.item.buffer != some s
  | some (.number n) => step.item.number != n
  | _ => false

/-- The instant at which a step sets the item: it gives it a value, or restores. -/
def Step.setAt? (step : Step τ) : Option τ :=
  match step.op with
  | .write _ now => if step.writes then some now else none
  | .restore instant => some instant
  | _ => none

/-- The instant at which a step changes the item: it writes something else, or restores. -/
def Step.changedAt? (step : Step τ) : Option τ :=
  match step.op with
  | .write _ now => if step.changes then some now else none
  | .restore instant => some instant
  | _ => none

/-- The instant of an operation. -/
def Op.instant? : Op τ → Option τ
  | .write _ now => some now
  | .restore instant => some instant
  | _ => none

/-- Every change is a setting. -/
theorem Step.setAt?_of_changedAt? (step : Step τ) (t : τ) (h : step.changedAt? = some t) :
    step.setAt? = some t := by
  obtain ⟨item, op⟩ := step
  cases op with
  | write w now =>
    rw [changedAt?] at h
    rw [setAt?]
    rw [writes_eq, clears_eq]
    cases hc : Step.content? ⟨item, .write w now⟩ with
    | none =>
      rw [changes, hc] at h
      contradiction
    | some content =>
      cases content with
      | nothing =>
        rw [changes, hc] at h
        contradiction
      | text s =>
        dsimp only at h
        split at h
        · exact h
        · contradiction
      | number n =>
        dsimp only at h
        split at h
        · exact h
        · contradiction
  | restore instant => exact h
  | setPublic isPublic => contradiction
  | addRule rule => contradiction

theorem Step.instant?_of_setAt? (step : Step τ) (t : τ) (h : step.setAt? = some t) :
    step.op.instant? = some t := by
  obtain ⟨item, op⟩ := step
  cases op with
  | write w now =>
    simp only [setAt?] at h
    split at h
    · exact h
    · contradiction
  | restore instant => exact h
  | setPublic isPublic => contradiction
  | addRule rule => contradiction

/-! ### The instants of an item -/

theorem lastSet_apply (item : Item τ) (op : Op τ) :
    (item.apply op).lastSet =
      if Step.clears ⟨item, op⟩ then none else (Step.setAt? ⟨item, op⟩).or item.lastSet := by
  cases op with
  | write w now =>
    rcases item.write_step_cases w now with ⟨hc, he⟩ | ⟨content, hc, _, he⟩
    · rw [he, Step.setAt?, Step.writes_eq, Step.clears_eq, hc]
      rfl
    · rw [he, Step.setAt?, Step.writes_eq, Step.clears_eq, hc]
      cases content <;> rfl
  | restore instant => rfl
  | setPublic isPublic => rfl
  | addRule rule => rw [apply, addRule_eq]; rfl

theorem lastChanged_apply (item : Item τ) (op : Op τ) :
    (item.apply op).lastChanged =
      if Step.clears ⟨item, op⟩ then none
      else (Step.changedAt? ⟨item, op⟩).or item.lastChanged := by
  cases op with
  | write w now =>
    rcases item.write_step_cases w now with ⟨hc, he⟩ | ⟨content, hc, _, he⟩
    · rw [he, Step.clears_eq, Step.changedAt?, Step.changes, hc]
      rfl
    · rw [he, Step.clears_eq, Step.changedAt?, Step.changes, hc]
      cases content with
      | text s => by_cases h : item.buffer = some s <;> simp [put, h]
      | number n => by_cases h : item.number = n <;> simp [put, h]
      | nothing => rfl
  | restore instant => rfl
  | setPublic isPublic => rfl
  | addRule rule => rw [apply, addRule_eq]; rfl

theorem lastSet_run (descriptor : Descriptor) (ops : List (Op τ)) :
    ((new descriptor : Item τ).run ops).lastSet =
      latest? Step.clears Step.setAt? (history (new descriptor) ops) := by
  induction ops using List.reverseRecOn with
  | nil => rfl
  | append_singleton ops op ih => rw [run_concat, lastSet_apply, history_concat, latest?_concat, ih]

theorem lastChanged_run (descriptor : Descriptor) (ops : List (Op τ)) :
    ((new descriptor : Item τ).run ops).lastChanged =
      latest? Step.clears Step.changedAt? (history (new descriptor) ops) := by
  induction ops using List.reverseRecOn with
  | nil => rfl
  | append_singleton ops op ih =>
    rw [run_concat, lastChanged_apply, history_concat, latest?_concat, ih]

/-! ### The order of the instants -/

theorem filterMap_sublist_filterMap {α β : Type} {f g : α → Option β}
    (among : ∀ a b, f a = some b → g a = some b) (list : List α) :
    (list.filterMap f).Sublist (list.filterMap g) := by
  induction list with
  | nil => exact List.Sublist.refl _
  | cons a list ih =>
    cases hf : f a with
    | some b =>
      rw [List.filterMap_cons_some hf, List.filterMap_cons_some (among a b hf)]
      exact ih.cons_cons b
    | none =>
      rw [List.filterMap_cons_none hf]
      cases hg : g a with
      | some b => rw [List.filterMap_cons_some hg]; exact ih.cons b
      | none => rw [List.filterMap_cons_none hg]; exact ih

/-- The instants at which a run sets the item stand among those of its operations. -/
theorem filterMap_setAt?_sublist (item : Item τ) (ops : List (Op τ)) :
    ((history item ops).filterMap Step.setAt?).Sublist (ops.filterMap Op.instant?) := by
  have all : ops.filterMap Op.instant? = (history item ops).filterMap (Op.instant? ∘ Step.op) := by
    rw [← List.filterMap_map, map_op_history]
  rw [all]
  exact filterMap_sublist_filterMap Step.instant?_of_setAt? (history item ops)

/-! ### No change is missed -/

/-- Items that are alike in what their value is read from have the same value. -/
theorem toValue_congr {a b : Item τ} (descriptor : a.descriptor = b.descriptor)
    (number : a.number = b.number) (buffer : a.buffer = b.buffer)
    (valued : a.hasValue = b.hasValue) : a.toValue = b.toValue := by
  simp only [toValue, toText, toBool, dataType, valued, descriptor, number, buffer]

theorem hasValue_of_toValue {item : Item τ} (h : item.toValue ≠ .null) : item.hasValue = true := by
  cases hv : item.hasValue with
  | true => rfl
  | false => exact absurd (by rw [toValue, hv]; rfl) h

/-- A write that turns one value into another is the last change of the item. -/
theorem lastChanged_write_of_ne {item : Item τ} {w : Write} {now : τ}
    (before : item.toValue ≠ .null) (after : (item.write w now).item.toValue ≠ .null)
    (differs : (item.write w now).item.toValue ≠ item.toValue) :
    (item.write w now).item.lastChanged = some now := by
  have valued : (item.write w now).item.hasValue = item.hasValue :=
    (hasValue_of_toValue after).trans (hasValue_of_toValue before).symm
  rcases item.write_cases w now with he | ⟨content, _, _, he⟩
  · rw [he] at differs
    exact absurd rfl differs
  · rw [he] at after differs valued ⊢
    -- if what is written were there already, the value would be the same as before
    cases content with
    | text s =>
      refine if_neg fun hs => differs ?_
      exact toValue_congr rfl rfl hs.symm valued
    | number n =>
      refine if_neg fun hn => differs ?_
      exact toValue_congr rfl hn.symm rfl valued
    | nothing => exact absurd rfl after

/-- **The instants of an item are the latest ones of its history.** Whatever was changed was set. If
the instants of the run do not run backwards, the last change is not after the last setting. A write
that turns one value of the item into another is its last change. -/
theorem instants_run [Preorder τ] (descriptor : Descriptor) (ops : List (Op τ)) :
    let start : Item τ := new descriptor
    let item := start.run ops
    item.lastSet = latest? Step.clears Step.setAt? (history start ops) ∧
    item.lastChanged = latest? Step.clears Step.changedAt? (history start ops) ∧
    (item.lastChanged.isSome → item.lastSet.isSome) ∧
    ((ops.filterMap Op.instant?).Pairwise (· ≤ ·) →
      ∀ changed, item.lastChanged = some changed →
        ∃ set, item.lastSet = some set ∧ changed ≤ set) ∧
    (∀ w now, (item.write w now).accepted → item.toValue ≠ .null →
      (item.write w now).item.toValue ≠ .null →
      (item.write w now).item.toValue ≠ item.toValue →
      (item.write w now).item.lastChanged = some now) := by
  intro start item
  have set : item.lastSet = latest? Step.clears Step.setAt? (history start ops) :=
    lastSet_run descriptor ops
  have changed : item.lastChanged = latest? Step.clears Step.changedAt? (history start ops) :=
    lastChanged_run descriptor ops
  refine ⟨set, changed, ?_, ?_, fun w now _ => lastChanged_write_of_ne⟩
  · intro h
    obtain ⟨t, ht⟩ := Option.isSome_iff_exists.mp h
    obtain ⟨step, mem, hstep⟩ := mem_of_latest? (changed.symm.trans ht)
    rw [set, latest?, List.getLast?_isSome]
    exact List.ne_nil_of_mem
      (List.mem_filterMap.mpr ⟨step, mem, step.setAt?_of_changedAt? t hstep⟩)
  · intro ordered t ht
    rw [set]
    exact latest?_le_latest? Step.setAt?_of_changedAt?
      (ordered.sublist (filterMap_setAt?_sublist start ops)) (changed.symm.trans ht)

end DeviceModel.Item
