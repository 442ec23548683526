import Mathlib.Data.List.Nodup
import Mathlib.Data.List.Perm.Basic

/-!
# Lists with distinct keys

Attributes and items are kept in lists and found by their suffix, from the front. While the suffixes
are distinct the order does not matter: what is found is the element with the suffix
(`find?_eq_some_iff`), in every arrangement of the list (`find?_perm`).
-/

namespace DeviceModel.Keyed

variable {α κ : Type} [BEq κ] [LawfulBEq κ] {key : α → κ} {list : List α}

/-- The first element with a property and a key is the element with this key, if it has the
property. -/
theorem find?_and_eq_some_iff (distinct : (list.map key).Nodup) (p : α → Bool) {k : κ} {a : α} :
    (list.find? fun a => p a && key a == k) = some a ↔ a ∈ list ∧ p a ∧ key a = k := by
  constructor
  · intro h
    have found := List.find?_some h
    rw [Bool.and_eq_true, beq_iff_eq] at found
    exact ⟨List.mem_of_find?_eq_some h, found⟩
  · rintro ⟨mem, hp, hk⟩
    cases hb : list.find? fun a => p a && key a == k with
    | none =>
      have absent := List.find?_eq_none.mp hb a mem
      rw [hp, hk, beq_self_eq_true] at absent
      exact absurd rfl absent
    | some b =>
      have found := List.find?_some hb
      rw [Bool.and_eq_true, beq_iff_eq] at found
      rw [List.inj_on_of_nodup_map distinct (List.mem_of_find?_eq_some hb) mem
        (found.2.trans hk.symm)]

theorem find?_eq_some_iff (distinct : (list.map key).Nodup) {k : κ} {a : α} :
    (list.find? fun a => key a == k) = some a ↔ a ∈ list ∧ key a = k := by
  have h := find?_and_eq_some_iff distinct (fun _ => true) (k := k) (a := a)
  simpa using h

/-- What is found by its key does not depend on the order. -/
theorem find?_perm {list' : List α} (distinct : (list.map key).Nodup) (perm : list.Perm list')
    (k : κ) : (list.find? fun a => key a == k) = list'.find? fun a => key a == k := by
  have distinct' : (list'.map key).Nodup := (perm.map key).nodup_iff.mp distinct
  ext a
  rw [find?_eq_some_iff distinct, find?_eq_some_iff distinct', perm.mem_iff]

/-- A change of one element that keeps its key keeps all keys in their places. -/
theorem map_modify {α κ : Type} {key : α → κ} {change : α → α}
    (kept : ∀ a, key (change a) = key a) (list : List α) (index : Nat) :
    (list.modify index change).map key = list.map key := by
  induction list generalizing index with
  | nil => rw [List.modify_nil]
  | cons a list ih =>
    cases index with
    | zero => rw [List.modify_zero_cons, List.map_cons, kept, List.map_cons]
    | succ index => rw [List.modify_succ_cons, List.map_cons, ih, List.map_cons]

end DeviceModel.Keyed
