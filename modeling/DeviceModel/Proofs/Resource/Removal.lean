import DeviceModel.Proofs.Resource.Items

/-!
# Removing items

To remove an item disturbs a single place: the last item moves into it, and all others stay where
they are (`getElem?_swapRemove`). As the suffixes are distinct, the place is the one where the item
stands (`indexOf?_eq_some_iff`), so a removal can be followed place by place.

Several removals move the items around in a way that depends on their order. What is left does not:
these are the items of all other suffixes (`items_run_remove`).
-/

namespace DeviceModel.Resource

variable {τ : Type}

/-! ### Places -/

theorem length_swapRemove {α : Type} (list : List α) (index : Nat) :
    (swapRemove list index).length = list.length - 1 := by
  obtain rfl | ⟨init, last, rfl⟩ := list.eq_nil_or_concat'
  · rfl
  · rw [swapRemove_concat, List.length_append, List.length_singleton, Nat.add_sub_cancel]
    split
    · exact List.length_set
    · rfl

theorem getElem?_swapRemove {α : Type} {list : List α} {i j : Nat} (bound : i < list.length)
    (inside : j < list.length - 1) :
    (swapRemove list i)[j]? = if j = i then list.getLast? else list[j]? := by
  obtain rfl | ⟨init, last, rfl⟩ := list.eq_nil_or_concat'
  · exact absurd bound (Nat.not_lt_zero i)
  rw [List.length_append, List.length_singleton] at bound
  rw [List.length_append, List.length_singleton, Nat.add_sub_cancel] at inside
  rw [swapRemove_concat, List.getLast?_concat, List.getElem?_append_left inside]
  by_cases here : j = i
  · subst here
    rw [if_pos rfl, if_pos inside, List.getElem?_set_self inside]
  · rw [if_neg here]
    split
    · exact List.getElem?_set_ne (Ne.symm here)
    · rfl

/-- The item of a suffix is found in the place where it stands. -/
theorem indexOf?_eq_some_iff {resource : Resource τ} (h : resource.Distinct) {suffix : String}
    {index : Nat} :
    resource.indexOf? suffix = some index ↔
      ∃ item, resource.items[index]? = some item ∧ item.suffix = suffix := by
  constructor
  · intro found
    obtain ⟨bound, same, _⟩ := getElem_of_indexOf? found
    exact ⟨_, List.getElem?_eq_getElem bound, same⟩
  · rintro ⟨item, here, rfl⟩
    obtain ⟨bound, rfl⟩ := List.getElem?_eq_some_iff.mp here
    cases found : resource.indexOf? resource.items[index].suffix with
    | none =>
      have absent := item?_eq_none_iff.mp (indexOf?_eq_none_iff.mp found)
      exact absurd (List.mem_map_of_mem (List.getElem_mem bound)) absent
    | some first =>
      obtain ⟨firstBound, same, _⟩ := getElem_of_indexOf? found
      have first' : first < (resource.items.map Item.suffix).length := by rwa [List.length_map]
      have bound' : index < (resource.items.map Item.suffix).length := by rwa [List.length_map]
      have texts : (resource.items.map Item.suffix)[first] =
          (resource.items.map Item.suffix)[index] := by
        rw [List.getElem_map, List.getElem_map, same]
      rw [(List.Nodup.getElem_inj_iff h).mp texts]

/-- Removing an item answers with it and fills its place. -/
theorem remove?_of_getElem? {resource : Resource τ} (h : resource.Distinct) {index : Nat}
    {item : Item τ} (here : resource.items[index]? = some item) :
    resource.remove? item.suffix =
      some (item, { resource with items := swapRemove resource.items index }) := by
  have place : resource.indexOf? item.suffix = some index :=
    (indexOf?_eq_some_iff h).mpr ⟨item, here, rfl⟩
  simp only [remove?, place, here, bind, Option.bind_some]
  rfl

/-! ### What is left -/

theorem items_apply_remove {resource : Resource τ} (h : resource.Distinct) (suffix : String) :
    (resource.apply (.remove suffix)).items.Perm
      (resource.items.filter fun item => item.suffix ≠ suffix) := by
  rcases resource.remove?_cases suffix with ⟨absent, he⟩ | ⟨item, items, found, he, perm⟩
  · rw [apply, he, Option.map_none, Option.getD_none, List.filter_eq_self.mpr]
    intro item mem
    rw [decide_eq_true_eq]
    rintro rfl
    exact item?_eq_none_iff.mp absent (List.mem_map_of_mem mem)
  · obtain rfl : item.suffix = suffix := suffix_of_item? found
    -- the others have other suffixes
    have others : ∀ other ∈ items, other.suffix ≠ item.suffix := by
      intro other mem same
      have distinct := List.nodup_cons.mp ((distinct_iff_of_perm perm).mp h)
      exact distinct.1 (same ▸ List.mem_map_of_mem mem)
    have left : (item :: items).filter (fun other => other.suffix ≠ item.suffix) = items := by
      rw [List.filter_cons_of_neg (by simp), List.filter_eq_self]
      simpa using others
    rw [apply, he, Option.map_some, Option.getD_some]
    exact (left ▸ perm.filter _).symm

/-- Removing the items of several suffixes, one after the other, leaves those of all others. -/
theorem items_run_remove {resource : Resource τ} (h : resource.Distinct) (suffixes : List String) :
    (resource.run (suffixes.map .remove)).items.Perm
      (resource.items.filter fun item => item.suffix ∉ suffixes) := by
  induction suffixes generalizing resource with
  | nil =>
    rw [List.filter_eq_self.mpr (by simp)]
    exact List.Perm.refl _
  | cons suffix rest ih =>
    rw [List.map_cons, run_cons]
    refine (ih (h.apply (.remove suffix))).trans ?_
    have both := (items_apply_remove h suffix).filter fun item => item.suffix ∉ rest
    rw [List.filter_filter] at both
    refine both.trans (List.Perm.of_eq (List.filter_congr fun item _ => ?_))
    simp [Bool.and_comm]

/-- **Removing an item disturbs no other.** After every run, the item in a place is removed by its
suffix and is the answer. One item less is left, with the last one in the place that became free,
every other one where it was, and all of them as they were; the suffix is not found any more, and
every other one as before. A suffix without an item changes nothing. After several removals the
items of all other suffixes are left, so it depends neither on the order nor on repetitions which
they are. -/
theorem removal_run (path : String) (ops : List (Op τ)) :
    let resource : Resource τ := (new path).run ops
    let removeAll (suffixes : List String) := resource.run (suffixes.map .remove)
    (∀ index item, resource.items[index]? = some item →
      ∃ rest, resource.remove? item.suffix = some (item, rest) ∧
        resource.apply (.remove item.suffix) = rest ∧ rest.path = resource.path ∧
        rest.items.length = resource.items.length - 1 ∧
        (index < resource.items.length - 1 → rest.items[index]? = resource.items.getLast?) ∧
        (∀ other < resource.items.length - 1, other ≠ index →
          rest.items[other]? = resource.items[other]?) ∧
        resource.items.Perm (item :: rest.items) ∧ (rest.items.map Item.suffix).Nodup ∧
        rest.item? item.suffix = none ∧
        ∀ suffix, suffix ≠ item.suffix → rest.item? suffix = resource.item? suffix) ∧
    (∀ suffix, suffix ∉ resource.items.map Item.suffix →
      resource.remove? suffix = none ∧ resource.apply (.remove suffix) = resource) ∧
    (∀ suffixes, (removeAll suffixes).items.Perm
      (resource.items.filter fun item => item.suffix ∉ suffixes)) ∧
    (∀ suffixes suffixes', (∀ suffix, suffix ∈ suffixes ↔ suffix ∈ suffixes') →
      (removeAll suffixes).items.Perm (removeAll suffixes').items) := by
  intro resource removeAll
  have distinct : resource.Distinct := (distinct_new path).run ops
  refine ⟨fun index item here => ?_, fun suffix absent => ?_, items_run_remove distinct, ?_⟩
  · have removed := remove?_of_getElem? distinct here
    obtain ⟨bound, rfl⟩ := List.getElem?_eq_some_iff.mp here
    have perm := swapRemove_perm bound
    have left : resource.apply (.remove resource.items[index].suffix) =
        { resource with items := swapRemove resource.items index } := by
      rw [apply, removed]
      rfl
    refine ⟨_, removed, left, rfl, length_swapRemove _ _, fun inside => ?_,
      fun other inside different => ?_, perm, ?_, item?_of_perm_self distinct perm,
      fun suffix different => ?_⟩
    · rw [getElem?_swapRemove bound inside, if_pos rfl]
    · rw [getElem?_swapRemove bound inside, if_neg different]
    · rw [← left]
      exact distinct.apply _
    · rw [item?_of_perm distinct perm, if_neg (Ne.symm different), item?]
  · have none := remove?_of_absent (item?_eq_none_iff.mpr absent)
    exact ⟨none, by rw [apply, none]; rfl⟩
  · intro suffixes suffixes' same
    refine (items_run_remove distinct suffixes).trans ?_
    simp only [same]
    exact (items_run_remove distinct suffixes').symm

end DeviceModel.Resource
