import Mathlib.Data.List.Forall2

/-!
# Traversals that stop at the first error

`Traverses` describes what comes of going through a list where every element leads to a result or to
an error, whatever it is that says to which. If it is a function, this is what `List.mapM` computes
(`traverses_iff_mapM`).
-/

namespace DeviceModel

variable {α β ε : Type}

@[simp] theorem ok_bind (a : α) (next : α → Except ε β) : (Except.ok a >>= next) = next a := rfl

@[simp] theorem error_bind (e : ε) (next : α → Except ε β) :
    (Except.error e >>= next) = .error e := rfl

/-- What comes of going through a list: the results in order, or the first error. -/
inductive Traverses (R : α → Except ε β → Prop) (list : List α) : Except ε (List β) → Prop
  | all {results : List β} : List.Forall₂ (fun a b => R a (.ok b)) list results →
      Traverses R list (.ok results)
  | stopped {before after : List α} {a : α} {e : ε} : list = before ++ a :: after →
      (∀ b ∈ before, ∃ c, R b (.ok c)) → R a (.error e) → Traverses R list (.error e)

theorem exists_mem_of_forall₂ {R : α → β → Prop} {as : List α} {bs : List β}
    (h : List.Forall₂ R as bs) : ∀ a ∈ as, ∃ b ∈ bs, R a b := by
  induction h with
  | nil => nofun
  | cons head _ ih =>
    rw [List.forall_mem_cons]
    refine ⟨⟨_, List.mem_cons_self, head⟩, fun a mem => ?_⟩
    obtain ⟨b, memB, related⟩ := ih a mem
    exact ⟨b, List.mem_cons_of_mem _ memB, related⟩

/-- The first error is that of an element. -/
theorem exists_mem_of_traverses_error {R : α → Except ε β → Prop} {list : List α} {e : ε}
    (h : Traverses R list (.error e)) : ∃ a ∈ list, R a (.error e) := by
  cases h with
  | @stopped before after a _ split _ failed =>
    exact ⟨a, split ▸ List.mem_append_right before List.mem_cons_self, failed⟩

variable {f : α → Except ε β}

theorem mapM_of_forall₂ {list : List α} {results : List β}
    (h : List.Forall₂ (fun a b => f a = .ok b) list results) : list.mapM f = .ok results := by
  induction h with
  | nil => rfl
  | cons head _ ih =>
    rw [List.mapM_cons, head, ih]
    rfl

theorem mapM_of_stopped {before after : List α} {a : α} {e : ε}
    (passed : ∀ b ∈ before, ∃ c, f b = .ok c) (failed : f a = .error e) :
    (before ++ a :: after).mapM f = .error e := by
  induction before with
  | nil =>
    rw [List.nil_append, List.mapM_cons, failed]
    rfl
  | cons b before ih =>
    rw [List.forall_mem_cons] at passed
    obtain ⟨⟨c, first⟩, rest⟩ := passed
    rw [List.cons_append, List.mapM_cons, first, ih rest]
    rfl

theorem traverses_mapM (f : α → Except ε β) (list : List α) :
    Traverses (fun a result => f a = result) list (list.mapM f) := by
  induction list with
  | nil => exact .all .nil
  | cons a rest ih =>
    rw [List.mapM_cons]
    cases head : f a with
    | error e => exact .stopped (List.nil_append _).symm nofun head
    | ok b =>
      generalize rest.mapM f = results at ih
      cases ih with
      | all others => exact .all (.cons head others)
      | stopped split passed failed =>
        rw [split, ← List.cons_append]
        exact .stopped rfl (List.forall_mem_cons.mpr ⟨⟨b, head⟩, passed⟩) failed

theorem traverses_iff_mapM {R : α → Except ε β → Prop} (h : ∀ a result, R a result ↔ f a = result)
    {list : List α} {result : Except ε (List β)} :
    Traverses R list result ↔ list.mapM f = result := by
  obtain rfl : R = fun a result => f a = result := by
    funext a result
    exact propext (h a result)
  constructor
  · intro traverses
    cases traverses with
    | all each => exact mapM_of_forall₂ each
    | stopped split passed failed =>
      rw [split]
      exact mapM_of_stopped passed failed
  · rintro rfl
    exact traverses_mapM f list

/-- There are results for the whole list if there is one for every element. -/
theorem exists_mapM_eq_ok_iff {list : List α} :
    (∃ results, list.mapM f = .ok results) ↔ ∀ a ∈ list, ∃ b, f a = .ok b := by
  constructor
  · rintro ⟨results, all⟩
    have traverses := traverses_mapM f list
    rw [all] at traverses
    cases traverses with
    | all each =>
      intro a mem
      obtain ⟨b, _, result⟩ := exists_mem_of_forall₂ each a mem
      exact ⟨b, result⟩
  · intro each
    have traverses := traverses_mapM f list
    cases all : list.mapM f with
    | ok results => exact ⟨results, rfl⟩
    | error e =>
      rw [all] at traverses
      obtain ⟨a, mem, failed⟩ := exists_mem_of_traverses_error traverses
      obtain ⟨b, result⟩ := each a mem
      rw [failed] at result
      contradiction

/-- The error for a list is that of its first element with one. -/
theorem mapM_eq_error_iff {list : List α} {e : ε} :
    list.mapM f = .error e ↔ ∃ before a after, list = before ++ a :: after ∧
      (∀ b ∈ before, ∃ c, f b = .ok c) ∧ f a = .error e := by
  constructor
  · intro failed
    have traverses := traverses_mapM f list
    rw [failed] at traverses
    cases traverses with
    | stopped split passed failed => exact ⟨_, _, _, split, passed, failed⟩
  · rintro ⟨before, a, after, rfl, passed, failed⟩
    exact mapM_of_stopped passed failed

/-- Each result stands where its element stands. -/
theorem mapM_getElem? {list : List α} {results : List β} (h : list.mapM f = .ok results) :
    results.length = list.length ∧
      ∀ (i : Nat) (a : α) (b : β), list[i]? = some a → results[i]? = some b → f a = .ok b := by
  have traverses := traverses_mapM f list
  rw [h] at traverses
  cases traverses with
  | all each =>
    refine ⟨each.length_eq.symm, fun i a b atA atB => ?_⟩
    obtain ⟨inA, rfl⟩ := List.getElem?_eq_some_iff.mp atA
    obtain ⟨inB, rfl⟩ := List.getElem?_eq_some_iff.mp atB
    exact each.get inA inB

/-! ### Two functions on one list -/

theorem mapM_congr {g : α → Except ε β} {list : List α} (same : ∀ a ∈ list, f a = g a) :
    list.mapM f = list.mapM g := by
  induction list with
  | nil => rfl
  | cons a rest ih =>
    rw [List.forall_mem_cons] at same
    rw [List.mapM_cons, List.mapM_cons, same.1, ih same.2]

/-- What is done to every result can be done to all of them afterwards. -/
theorem mapM_map {γ : Type} (h : β → γ) (list : List α) :
    list.mapM (fun a => (f a).map h) = (list.mapM f).map (List.map h) := by
  induction list with
  | nil => rfl
  | cons a rest ih =>
    rw [List.mapM_cons, List.mapM_cons, ih]
    cases f a with
    | error e => rfl
    | ok b => cases rest.mapM f <;> rfl

/-- Where every result of one function is a result of another one, so are the results for a list. -/
theorem mapM_of_mapM_eq_ok {g : α → Except ε β} (keeps : ∀ a b, f a = .ok b → g a = .ok b)
    {list : List α} {results : List β} (h : list.mapM f = .ok results) :
    list.mapM g = .ok results := by
  have traverses := traverses_mapM f list
  rw [h] at traverses
  cases traverses with
  | all each => exact mapM_of_forall₂ (each.imp keeps)

end DeviceModel
