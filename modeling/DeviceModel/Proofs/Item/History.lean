import DeviceModel.Proofs.Item.Writing
import Mathlib.Data.List.Induction

/-!
# What an item remembers of its writes

A run of an item is a list of operations; `history` pairs each of them with the item that it meets,
and so tells which writes were accepted.  `Step.content?` is what an accepted write leaves behind,
a number or a text, and `numbersOf` and `textsOf` are the two logs of a run.

The main statement is `contents_run`: the number of an item is the last entry of the log of numbers,
its previous number the last but one, and its text the last entry of the log of texts.  Neither log
says anything about the other, and nothing else of a run can be seen in the three.
-/

namespace DeviceModel.Item

variable {τ : Type}

/-! ### Steps -/

/-- An operation and the item that it meets. -/
structure Step (τ : Type) where
  item : Item τ
  op : Op τ

/-- The steps of a run. -/
def history (item : Item τ) : List (Op τ) → List (Step τ)
  | [] => []
  | op :: ops => ⟨item, op⟩ :: history (item.apply op) ops

theorem history_concat (item : Item τ) (ops : List (Op τ)) (op : Op τ) :
    history item (ops ++ [op]) = history item ops ++ [⟨item.run ops, op⟩] := by
  induction ops generalizing item with
  | nil => rfl
  | cons first ops ih => rw [List.cons_append, history, ih, run_cons]; rfl

theorem map_op_history (item : Item τ) (ops : List (Op τ)) :
    (history item ops).map Step.op = ops := by
  induction ops generalizing item with
  | nil => rfl
  | cons op ops ih => rw [history, List.map_cons, ih]

/-- Whether a step takes the value away: it writes null. -/
def Step.clears (step : Step τ) : Bool :=
  match step.op with
  | .write w _ => w == .value .null
  | _ => false

/-- Whether a step gives the item a value: its write is accepted and is not null. -/
def Step.writes (step : Step τ) : Bool :=
  match step.op with
  | .write w now => (step.item.write w now).accepted && w != .value .null
  | _ => false

/-- What a step leaves behind: what its write carries, if the write is accepted. -/
def Step.content? (step : Step τ) : Option Content :=
  match step.op with
  | .write w now =>
    if (step.item.write w now).accepted then w.content? step.item.dataType else none
  | _ => none

/-- A write in a run leaves nothing behind and changes nothing, or it puts into the item what it
leaves behind. -/
theorem write_step_cases (item : Item τ) (w : Write) (now : τ) :
    (Step.content? ⟨item, .write w now⟩ = none ∧ item.apply (.write w now) = item) ∨
      ∃ content, Step.content? ⟨item, .write w now⟩ = some content ∧ item.CanHold content ∧
        item.apply (.write w now) = item.put now content := by
  rcases item.write_cases w now with he | ⟨content, carried, held, he⟩
  · left
    refine ⟨?_, by rw [apply, he]⟩
    simp only [Step.content?, he]
    rfl
  · right
    refine ⟨content, ?_, held, ?_⟩
    · simp only [Step.content?, he, carried]
      rfl
    · rw [apply, he]

theorem isSome_content?_write (item : Item τ) (w : Write) (now : τ) :
    (Step.content? ⟨item, .write w now⟩).isSome = (item.write w now).accepted := by
  rcases item.write_cases w now with he | ⟨content, carried, _, he⟩
  · simp only [Step.content?, he]
    rfl
  · simp only [Step.content?, he, carried]
    rfl

theorem Step.clears_eq (step : Step τ) : step.clears = (step.content? == some .nothing) := by
  obtain ⟨item, op⟩ := step
  cases op with
  | write w now =>
    by_cases h : w = .value .null
    · subst h
      rfl
    · -- a refused write leaves nothing behind at all, and any other carries something
      have something : Step.content? ⟨item, .write w now⟩ ≠ some .nothing := by
        simp only [content?]
        split
        · exact fun hn => h (content?_eq_nothing_iff.mp hn)
        · nofun
      rw [beq_false_of_ne something]
      exact beq_false_of_ne h
  | restore instant => rfl
  | setPublic isPublic => rfl
  | addRule rule => rfl

theorem Step.writes_eq (step : Step τ) :
    step.writes = (step.content?.isSome && !step.clears) := by
  obtain ⟨item, op⟩ := step
  cases op with
  | write w now => rw [isSome_content?_write]; rfl
  | restore instant => rfl
  | setPublic isPublic => rfl
  | addRule rule => rfl

/-! ### The logs of a run -/

/-- The number that a step leaves behind. -/
def Step.number? (step : Step τ) : Option Int64 :=
  match step.content? with
  | some (.number n) => some n
  | _ => none

/-- The text that a step leaves behind. -/
def Step.text? (step : Step τ) : Option String :=
  match step.content? with
  | some (.text s) => some s
  | _ => none

/-- The numbers that were written in a run, in order. -/
def numbersOf (item : Item τ) (ops : List (Op τ)) : List Int64 :=
  (history item ops).filterMap Step.number?

/-- The texts that were written in a run, in order. -/
def textsOf (item : Item τ) (ops : List (Op τ)) : List String :=
  (history item ops).filterMap Step.text?

theorem filterMap_concat {α β : Type} (f : α → Option β) (list : List α) (a : α) :
    (list ++ [a]).filterMap f = list.filterMap f ++ (f a).toList := by
  rw [List.filterMap_append, List.filterMap_cons, List.filterMap_nil]
  cases f a <;> rfl

theorem numbersOf_concat (item : Item τ) (ops : List (Op τ)) (op : Op τ) :
    numbersOf item (ops ++ [op]) =
      numbersOf item ops ++ (Step.number? ⟨item.run ops, op⟩).toList := by
  rw [numbersOf, history_concat, filterMap_concat, numbersOf]

theorem textsOf_concat (item : Item τ) (ops : List (Op τ)) (op : Op τ) :
    textsOf item (ops ++ [op]) = textsOf item ops ++ (Step.text? ⟨item.run ops, op⟩).toList := by
  rw [textsOf, history_concat, filterMap_concat, textsOf]

/-! ### What a step does to the contents -/

/-- Two items with the same numbers and the same text. -/
structure SameContents (a b : Item τ) : Prop where
  number : a.number = b.number
  previous : a.previous = b.previous
  buffer : a.buffer = b.buffer

/-- A step that leaves nothing behind keeps the contents, and any other puts what it leaves behind
into the item. -/
theorem apply_cases (item : Item τ) (op : Op τ) :
    (Step.content? ⟨item, op⟩ = none ∧ SameContents (item.apply op) item) ∨
      ∃ content now, Step.content? ⟨item, op⟩ = some content ∧ item.CanHold content ∧
        item.apply op = item.put now content := by
  cases op with
  | write w now =>
    rcases item.write_step_cases w now with ⟨hc, he⟩ | ⟨content, hc, held, he⟩
    · left
      rw [he]
      exact ⟨hc, rfl, rfl, rfl⟩
    · exact Or.inr ⟨content, now, hc, held, he⟩
  | restore instant => exact Or.inl ⟨rfl, rfl, rfl, rfl⟩
  | setPublic isPublic => exact Or.inl ⟨rfl, rfl, rfl, rfl⟩
  | addRule rule =>
    refine Or.inl ⟨rfl, ?_⟩
    rw [apply, addRule_eq]
    exact ⟨rfl, rfl, rfl⟩

/-- A step that gives no value keeps the contents: a refused write, a write of null, and everything
that is not a write. -/
theorem sameContents_apply {item : Item τ} {op : Op τ} (h : Step.writes ⟨item, op⟩ = false) :
    SameContents (item.apply op) item := by
  rcases item.apply_cases op with ⟨_, same⟩ | ⟨content, now, hc, _, he⟩
  · exact same
  · rw [Step.writes_eq, Step.clears_eq, hc] at h
    rw [he]
    cases content with
    | text s => contradiction
    | number n => contradiction
    | nothing => exact ⟨rfl, rfl, rfl⟩

/-- A step that writes no number leaves both numbers alone. -/
theorem numbers_apply_of_none {item : Item τ} {op : Op τ} (h : Step.number? ⟨item, op⟩ = none) :
    (item.apply op).number = item.number ∧ (item.apply op).previous = item.previous := by
  rcases item.apply_cases op with ⟨_, same⟩ | ⟨content, now, hc, _, he⟩
  · exact ⟨same.number, same.previous⟩
  · rw [Step.number?, hc] at h
    rw [he]
    cases content with
    | text s => exact ⟨rfl, rfl⟩
    | number n => contradiction
    | nothing => exact ⟨rfl, rfl⟩

/-- A step that writes a number makes it the number of the item, and the number that was there the
previous one. -/
theorem numbers_apply_of_some {item : Item τ} {op : Op τ} {n : Int64}
    (h : Step.number? ⟨item, op⟩ = some n) :
    (item.apply op).number = n ∧ (item.apply op).previous = item.number := by
  rcases item.apply_cases op with ⟨hc, _⟩ | ⟨content, now, hc, _, he⟩
  · rw [Step.number?, hc] at h
    contradiction
  · rw [Step.number?, hc] at h
    rw [he]
    cases content with
    | text s => contradiction
    | number m => exact ⟨Option.some.inj h, rfl⟩
    | nothing => contradiction

/-- A step that writes no text leaves the buffer alone. -/
theorem buffer_apply_of_none {item : Item τ} {op : Op τ} (h : Step.text? ⟨item, op⟩ = none) :
    (item.apply op).buffer = item.buffer := by
  rcases item.apply_cases op with ⟨_, same⟩ | ⟨content, now, hc, _, he⟩
  · exact same.buffer
  · rw [Step.text?, hc] at h
    rw [he]
    cases content with
    | text s => contradiction
    | number n => rfl
    | nothing => rfl

/-- A step that writes a text needs a buffer, and puts the text into it. -/
theorem buffer_apply_of_some {item : Item τ} {op : Op τ} {s : String}
    (h : Step.text? ⟨item, op⟩ = some s) :
    item.buffer.isSome ∧ (item.apply op).buffer = some s := by
  rcases item.apply_cases op with ⟨hc, _⟩ | ⟨content, now, hc, held, he⟩
  · rw [Step.text?, hc] at h
    contradiction
  · rw [Step.text?, hc] at h
    rw [he]
    cases content with
    | text t => exact ⟨held, congrArg some (Option.some.inj h)⟩
    | number n => contradiction
    | nothing => contradiction

/-! ### What a run leaves in an item -/

/-- The numbers of an item are the last two entries of the log, zero where there is none. -/
theorem numbers_run (descriptor : Descriptor) (ops : List (Op τ)) :
    ((new descriptor : Item τ).run ops).number =
        (numbersOf (new descriptor : Item τ) ops).getLastD 0 ∧
      ((new descriptor : Item τ).run ops).previous =
        (numbersOf (new descriptor : Item τ) ops).dropLast.getLastD 0 := by
  induction ops using List.reverseRecOn with
  | nil => exact ⟨rfl, rfl⟩
  | append_singleton ops op ih =>
    obtain ⟨number, previous⟩ := ih
    rw [run_concat, numbersOf_concat]
    cases h : Step.number? ⟨(new descriptor : Item τ).run ops, op⟩ with
    | none =>
      obtain ⟨hn, hp⟩ := numbers_apply_of_none h
      rw [hn, hp, Option.toList_none, List.append_nil]
      exact ⟨number, previous⟩
    | some n =>
      obtain ⟨hn, hp⟩ := numbers_apply_of_some h
      -- what was the end of the log is now the last but one
      rw [hn, hp, Option.toList_some, List.getLastD_concat, List.dropLast_concat]
      exact ⟨rfl, number⟩

theorem buffer_run (descriptor : Descriptor) (ops : List (Op τ)) :
    ((new descriptor : Item τ).run ops).buffer =
      if descriptor.dataType.hasTextBuffer then
        some ((textsOf (new descriptor : Item τ) ops).getLastD "")
      else none := by
  induction ops using List.reverseRecOn with
  | nil => rfl
  | append_singleton ops op ih =>
    rw [run_concat, textsOf_concat]
    cases h : Step.text? ⟨(new descriptor : Item τ).run ops, op⟩ with
    | none => rw [buffer_apply_of_none h, ih, Option.toList_none, List.append_nil]
    | some s =>
      obtain ⟨present, hb⟩ := buffer_apply_of_some h
      rw [hb, Option.toList_some, List.getLastD_concat]
      by_cases buffered : descriptor.dataType.hasTextBuffer
      · rw [if_pos buffered]
      -- nothing is accepted into a buffer that is not there
      · rw [ih, if_neg buffered] at present
        contradiction

/-- Without a buffer no text is ever accepted. -/
theorem textsOf_eq_nil {descriptor : Descriptor} (h : descriptor.dataType.hasTextBuffer = false)
    (ops : List (Op τ)) : textsOf (new descriptor : Item τ) ops = [] := by
  induction ops using List.reverseRecOn with
  | nil => rfl
  | append_singleton ops op ih =>
    rw [textsOf_concat, ih]
    cases ht : Step.text? ⟨(new descriptor : Item τ).run ops, op⟩ with
    | none => rfl
    | some s =>
      have present := (buffer_apply_of_some ht).1
      rw [buffer_run, h] at present
      contradiction

/-- **The contents of an item are the ends of its logs.** The number is the last that was written,
the previous number the last but one and the text the last text; where a log is too short it is zero
or empty. What is no accepted write of something other than null changes none of the three. A step
that writes no number leaves both numbers alone, and one that writes no text the text, so numbers
and texts do not disturb each other. -/
theorem contents_run (descriptor : Descriptor) (ops : List (Op τ)) :
    let start : Item τ := new descriptor
    let item := start.run ops
    item.number = (numbersOf start ops).getLastD 0 ∧
    item.previous = (numbersOf start ops).dropLast.getLastD 0 ∧
    (∀ earlier n, numbersOf start ops = earlier ++ [n, n] → item.previous = item.number) ∧
    item.buffer =
      (if descriptor.dataType.hasTextBuffer then some ((textsOf start ops).getLastD "") else none) ∧
    (descriptor.dataType.hasTextBuffer = false → textsOf start ops = []) ∧
    (∀ op, Step.writes ⟨item, op⟩ = false → SameContents (item.apply op) item) ∧
    (∀ op, Step.number? ⟨item, op⟩ = none →
      (item.apply op).number = item.number ∧ (item.apply op).previous = item.previous) ∧
    (∀ op, Step.text? ⟨item, op⟩ = none → (item.apply op).buffer = item.buffer) := by
  intro start item
  obtain ⟨number, previous⟩ := numbers_run (τ := τ) descriptor ops
  refine ⟨number, previous, ?_, buffer_run descriptor ops, fun h => textsOf_eq_nil h ops,
    fun op => sameContents_apply, fun op => numbers_apply_of_none, fun op => buffer_apply_of_none⟩
  intro earlier n repeated
  rw [number, previous, repeated, show earlier ++ [n, n] = (earlier ++ [n]) ++ [n] by simp,
    List.dropLast_concat, List.getLastD_concat, List.getLastD_concat]

end DeviceModel.Item
