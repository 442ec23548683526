import DeviceModel.Proofs.Item.History
import Mathlib.Data.List.Nodup

/-!
# Visibility and rules

Besides its value an item keeps whether it is shown and which rules refer to it. The operations on
these two (`Op.marks`) and all others do not meet: a write notices neither (`unnoticed_marked`), so
a run is a run of the one kind beside a run of the other. Leaving the marks out of a run does not
change what its writes answer, nor what the item is apart from its marks (`marked_run`,
`answersOf_marked`).

The main statement is `bookkeeping_run`. It also says what the marks of an item are: it is shown as
it was last told to be, and its rules are those that were recorded, each where it came first.
-/

namespace DeviceModel.Item

variable {τ : Type}

/-! ### Two kinds of operations -/

/-- The visibility that an operation gives. -/
def Op.public? : Op τ → Option Bool
  | .setPublic isPublic => some isPublic
  | _ => none

/-- The rule that an operation records. -/
def Op.rule? : Op τ → Option Int32
  | .addRule rule => some rule
  | _ => none

/-- Whether an operation is about the visibility or the rules. -/
def Op.marks : Op τ → Bool
  | .setPublic _ | .addRule _ => true
  | _ => false

/-- The item with another visibility and other rules. -/
def marked (item : Item τ) (isPublic : Bool) (rules : List Int32) : Item τ :=
  { item with isPublic, rules }

/-- What a step answers, if it is a write: whether it is accepted. -/
def Step.answer? (step : Step τ) : Option Bool :=
  match step.op with
  | .write w now => some (step.item.write w now).accepted
  | _ => none

/-- What the writes of a run answer, in order. -/
def answersOf (item : Item τ) (ops : List (Op τ)) : List Bool :=
  (history item ops).filterMap Step.answer?

/-! ### A run without its marks -/

theorem unnoticed_marked (isPublic : Bool) (rules : List Int32) :
    Unnoticed id (fun item : Item τ => item.marked isPublic rules) where
  descriptor _ := rfl
  buffer _ := rfl
  put _ _ content := by cases content <;> rfl

section

variable (item : Item τ) (isPublic : Bool) (rules : List Int32)

theorem marked_write (w : Write) (now : τ) :
    (item.marked isPublic rules).write w now =
      ⟨(item.write w now).accepted, (item.write w now).item.marked isPublic rules⟩ :=
  (unnoticed_marked isPublic rules).write item w now

/-- A step either sets marks or does the same whatever the marks are. -/
theorem marked_apply (op : Op τ) :
    (item.apply op).marked isPublic rules =
      if op.marks then item.marked isPublic rules else (item.marked isPublic rules).apply op := by
  cases op with
  | write w now => exact congrArg Outcome.item (item.marked_write isPublic rules w now).symm
  | restore instant => rfl
  | setPublic shown => rfl
  | addRule rule =>
    rw [apply, addRule_eq]
    rfl

theorem answer?_marked (op : Op τ) :
    Step.answer? ⟨item.marked isPublic rules, op⟩ = Step.answer? ⟨item, op⟩ := by
  cases op with
  | write w now => simp only [Step.answer?, marked_write]
  | _ => rfl

/-- **Apart from its marks, an item is what the other operations make of it.** -/
theorem marked_run (ops : List (Op τ)) :
    (item.run ops).marked isPublic rules =
      (item.marked isPublic rules).run (ops.filter fun op => !op.marks) := by
  induction ops generalizing item with
  | nil => rfl
  | cons op ops ih =>
    rw [run_cons, ih, marked_apply]
    by_cases h : op.marks
    · rw [if_pos h, List.filter_cons_of_neg (by simp [h])]
    · rw [if_neg h, List.filter_cons_of_pos (by simp [h]), run_cons]

/-- The writes of a run answer the same without the marks in between. -/
theorem answersOf_marked (ops : List (Op τ)) :
    answersOf (item.marked isPublic rules) (ops.filter fun op => !op.marks) =
      answersOf item ops := by
  induction ops generalizing item with
  | nil => rfl
  | cons op ops ih =>
    have next := ih (item.apply op)
    rw [marked_apply] at next
    by_cases h : op.marks
    · have silent : Step.answer? ⟨item, op⟩ = none := by
        cases op <;> first | contradiction | rfl
      rw [if_pos h] at next
      rw [List.filter_cons_of_neg (by simp [h]), next, answersOf, answersOf, history,
        List.filterMap_cons_none silent]
    · rw [if_neg h] at next
      rw [List.filter_cons_of_pos (by simp [h]), answersOf, answersOf, history, history,
        List.filterMap_cons, List.filterMap_cons, answer?_marked]
      rw [answersOf, answersOf] at next
      rw [next]

end

/-! ### The marks -/

/-- A list without repetitions grows by what was not there before. -/
theorem eraseDups_concat {α : Type} [DecidableEq α] (list : List α) (a : α) :
    (list ++ [a]).eraseDups = if a ∈ list then list.eraseDups else list.eraseDups ++ [a] := by
  rw [List.eraseDups_append]
  by_cases h : a ∈ list <;> simp [List.removeAll, List.eraseDups_cons, h]

theorem nodup_eraseDups {α : Type} [DecidableEq α] (list : List α) : list.eraseDups.Nodup := by
  induction list using List.reverseRecOn with
  | nil => exact List.nodup_nil
  | append_singleton list a ih =>
    rw [eraseDups_concat]
    split
    next => exact ih
    next new =>
      rw [← List.mem_eraseDups] at new
      exact List.nodup_append.mpr ⟨ih, List.nodup_singleton a, by grind⟩

theorem marks_write (item : Item τ) (w : Write) (now : τ) :
    (item.write w now).item.isPublic = item.isPublic ∧
      (item.write w now).item.rules = item.rules := by
  rcases item.write_cases w now with he | ⟨content, _, _, he⟩
  · rw [he]
    exact ⟨rfl, rfl⟩
  · rw [he]
    cases content <;> exact ⟨rfl, rfl⟩

theorem isPublic_apply (item : Item τ) (op : Op τ) :
    (item.apply op).isPublic = op.public?.getD item.isPublic := by
  cases op with
  | write w now => exact (item.marks_write w now).1
  | restore instant => rfl
  | setPublic isPublic => rfl
  | addRule rule =>
    rw [apply, addRule_eq]
    rfl

theorem rules_apply (item : Item τ) (op : Op τ) :
    (item.apply op).rules =
      match op.rule? with
      | none => item.rules
      | some rule => if rule ∈ item.rules then item.rules else item.rules ++ [rule] := by
  cases op with
  | write w now => exact (item.marks_write w now).2
  | restore instant => rfl
  | setPublic isPublic => rfl
  | addRule rule =>
    rw [apply, addRule_eq]
    rfl

/-- An item is shown as it was last told to be. -/
theorem isPublic_run (descriptor : Descriptor) (ops : List (Op τ)) :
    ((new descriptor : Item τ).run ops).isPublic = (ops.filterMap Op.public?).getLastD true := by
  induction ops using List.reverseRecOn with
  | nil => rfl
  | append_singleton ops op ih =>
    rw [run_concat, isPublic_apply, filterMap_concat, ih]
    cases op.public? with
    | none => rw [Option.getD_none, Option.toList_none, List.append_nil]
    | some isPublic => rw [Option.getD_some, Option.toList_some, List.getLastD_concat]

/-- The rules of an item are those that were recorded, each where it came first. -/
theorem rules_run (descriptor : Descriptor) (ops : List (Op τ)) :
    ((new descriptor : Item τ).run ops).rules = (ops.filterMap Op.rule?).eraseDups := by
  induction ops using List.reverseRecOn with
  | nil => rfl
  | append_singleton ops op ih =>
    rw [run_concat, rules_apply, filterMap_concat, ih]
    cases op.rule? with
    | none => rw [Option.toList_none, List.append_nil]
    | some rule => simp only [Option.toList_some, eraseDups_concat, List.mem_eraseDups]

/-- What the marks of a run are does not depend on the other operations. -/
theorem filterMap_filter_marks {α : Type} (f : Op τ → Option α)
    (among : ∀ op, op.marks = false → f op = none) (ops : List (Op τ)) :
    (ops.filter Op.marks).filterMap f = ops.filterMap f := by
  rw [List.filterMap_filter]
  refine List.filterMap_congr fun op _ => ?_
  split
  next => rfl
  next h => exact (among op (eq_false_of_ne_true h)).symm

/-- **Marks and values do not interfere.** After every run, the rules of an item are those that were
recorded, in the order in which they came first and none twice, and it is shown as it was last told
to be, if ever. Both are the same after every run with the same marks, of whatever item. And after
every run that is the same but for its marks, the item is the same but for its marks, and every
write of it gave the same answer and still would. -/
theorem bookkeeping_run (descriptor : Descriptor) (ops : List (Op τ)) :
    let start : Item τ := new descriptor
    let item := start.run ops
    item.rules = (ops.filterMap Op.rule?).eraseDups ∧ item.rules.Nodup ∧
    item.isPublic = (ops.filterMap Op.public?).getLastD true ∧
    (∀ (other : Descriptor) (ops' : List (Op τ)),
      ops'.filter Op.marks = ops.filter Op.marks →
      ((new other).run ops').rules = item.rules ∧
        ((new other).run ops').isPublic = item.isPublic) ∧
    (∀ ops' : List (Op τ),
      (ops'.filter fun op => !op.marks) = (ops.filter fun op => !op.marks) →
      let item' := start.run ops'
      item' = { item with isPublic := item'.isPublic, rules := item'.rules } ∧
        answersOf start ops' = answersOf start ops ∧
        ∀ w now, (item'.write w now).accepted = (item.write w now).accepted) := by
  intro start item
  have rules : item.rules = (ops.filterMap Op.rule?).eraseDups := rules_run descriptor ops
  have shown : item.isPublic = (ops.filterMap Op.public?).getLastD true :=
    isPublic_run descriptor ops
  refine ⟨rules, rules ▸ nodup_eraseDups _, shown, fun other ops' same => ?_, fun ops' same => ?_⟩
  · have ruleMarks (op : Op τ) (h : op.marks = false) : op.rule? = none := by
      cases op <;> first | contradiction | rfl
    have publicMarks (op : Op τ) (h : op.marks = false) : op.public? = none := by
      cases op <;> first | contradiction | rfl
    rw [rules, shown, rules_run, isPublic_run, ← filterMap_filter_marks _ ruleMarks ops', same,
      ← filterMap_filter_marks _ publicMarks ops', same, filterMap_filter_marks _ ruleMarks,
      filterMap_filter_marks _ publicMarks]
    exact ⟨rfl, rfl⟩
  · intro item'
    have equal (isPublic : Bool) (rules : List Int32) :
        item'.marked isPublic rules = item.marked isPublic rules := by
      rw [marked_run, marked_run, same]
    refine ⟨equal item'.isPublic item'.rules, ?_, fun w now => ?_⟩
    · rw [← answersOf_marked start true [] ops', same, answersOf_marked]
    · have answer := congrArg (fun item : Item τ => (item.write w now).accepted) (equal true [])
      simpa only [marked_write] using answer

end DeviceModel.Item
