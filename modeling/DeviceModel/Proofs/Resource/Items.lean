import DeviceModel.Proofs.Catalog.Lookup
import DeviceModel.Proofs.Item.Writing
import DeviceModel.Resource.Run

/-!
# The items of a resource

`Distinct` says that no two items of a resource have the same suffix. Every operation keeps it
(`Distinct.apply`), so it holds after every run, and then an item can be found from the front or in
any other way: `item?` only depends on what items there are. An operation either leaves the items,
adds one at the end, takes one out or changes one in its place; up to the order of the items, the
last two replace the head of a list (`swapRemove_perm`, `modify_perm`), and that is how their effect
on `item?` is computed.
-/

namespace DeviceModel.Resource

variable {τ : Type}

/-! ### Finding -/

/-- No two items have the same suffix. -/
def Distinct (resource : Resource τ) : Prop :=
  (resource.items.map Item.suffix).Nodup

theorem item?_eq_some_iff {resource : Resource τ} (h : resource.Distinct) {suffix : String}
    {item : Item τ} :
    resource.item? suffix = some item ↔ item ∈ resource.items ∧ item.suffix = suffix :=
  Keyed.find?_eq_some_iff h

theorem item?_eq_none_iff {resource : Resource τ} {suffix : String} :
    resource.item? suffix = none ↔ suffix ∉ resource.items.map Item.suffix := by
  simp [item?]

theorem suffix_of_item? {resource : Resource τ} {suffix : String} {item : Item τ}
    (h : resource.item? suffix = some item) : item.suffix = suffix := by
  simpa using List.find?_some h

theorem item?_eq_bind_indexOf? (resource : Resource τ) (suffix : String) :
    resource.item? suffix = (resource.indexOf? suffix).bind (resource.items[·]?) :=
  List.find?_eq_bind_findIdx?_getElem?

/-- The place of an item is a place in the list, and the item is there. -/
theorem getElem_of_indexOf? {resource : Resource τ} {suffix : String} {index : Nat}
    (h : resource.indexOf? suffix = some index) :
    ∃ bound : index < resource.items.length, resource.items[index].suffix = suffix ∧
      resource.item? suffix = some resource.items[index] := by
  obtain ⟨bound, found, _⟩ := List.findIdx?_eq_some_iff_getElem.mp h
  refine ⟨bound, by simpa using found, ?_⟩
  rw [item?_eq_bind_indexOf?, h, Option.bind_some, List.getElem?_eq_getElem bound]

theorem indexOf?_eq_none_iff {resource : Resource τ} {suffix : String} :
    resource.indexOf? suffix = none ↔ resource.item? suffix = none := by
  rw [indexOf?, List.findIdx?_eq_none_iff, item?, List.find?_eq_none]
  simp

/-- What is found among items in another order, with one of them first. -/
theorem item?_of_perm {resource : Resource τ} (h : resource.Distinct) {item : Item τ}
    {rest : List (Item τ)} (perm : resource.items.Perm (item :: rest)) (suffix : String) :
    resource.item? suffix =
      if item.suffix = suffix then some item
      else rest.find? fun item => item.suffix == suffix := by
  rw [item?, Keyed.find?_perm h perm, List.find?_cons]
  by_cases he : item.suffix = suffix
  · rw [if_pos he, he, beq_self_eq_true]
  · rw [if_neg he, beq_false_of_ne he]

theorem distinct_iff_of_perm {resource : Resource τ} {items : List (Item τ)}
    (perm : resource.items.Perm items) :
    resource.Distinct ↔ (items.map Item.suffix).Nodup :=
  (perm.map Item.suffix).nodup_iff

/-- An item that is taken out cannot be found among the others. -/
theorem item?_of_perm_self {resource : Resource τ} (h : resource.Distinct) {item : Item τ}
    {rest : List (Item τ)} (perm : resource.items.Perm (item :: rest)) :
    item? { resource with items := rest } item.suffix = none :=
  item?_eq_none_iff.mpr (List.nodup_cons.mp ((distinct_iff_of_perm perm).mp h)).1

/-! ### Adding -/

theorem distinct_new (path : String) : (new path : Resource τ).Distinct :=
  List.nodup_nil

/-- There is an item already: nothing changes, and its slot is the answer. -/
theorem ensure_of_present {resource : Resource τ} {suffix : String} {item : Item τ}
    (h : resource.item? suffix = some item) (catalog : Catalog) (dataType : DataType) :
    ∃ slot : Slot τ, resource.ensure catalog dataType suffix = .ok slot ∧
      slot.resource = resource ∧ slot.item = item := by
  cases hi : resource.items.findFinIdx? fun item => item.suffix == suffix with
  | none =>
    rw [List.findFinIdx?_eq_none_iff] at hi
    exact absurd (List.find?_some h) (hi item (List.mem_of_find?_eq_some h))
  | some index =>
    refine ⟨⟨resource, index⟩, by simp only [ensure, hi], rfl, ?_⟩
    have at? : resource.indexOf? suffix = some index.val := by
      rw [indexOf?, List.findIdx?_eq_map_findFinIdx?_val, hi, Option.map_some]
    obtain ⟨_, _, found⟩ := getElem_of_indexOf? at?
    exact Option.some.inj (found.symm.trans h)

theorem findFinIdx?_of_absent {resource : Resource τ} {suffix : String}
    (h : resource.item? suffix = none) :
    (resource.items.findFinIdx? fun item => item.suffix == suffix) = none := by
  rw [List.findFinIdx?_eq_none_iff]
  exact List.find?_eq_none.mp h

/-- There is no item yet, and the catalog has the attribute: a new item comes last. -/
theorem ensure_of_registered {resource : Resource τ} {catalog : Catalog} {dataType : DataType}
    {suffix : String} {descriptor : Descriptor} (h : resource.item? suffix = none)
    (registered : catalog.find? dataType suffix = some descriptor) :
    ∃ slot : Slot τ, resource.ensure catalog dataType suffix = .ok slot ∧
      slot.resource = { resource with items := resource.items ++ [Item.new descriptor] } ∧
      slot.item = Item.new descriptor := by
  refine ⟨_, by simp only [ensure, findFinIdx?_of_absent h, registered]; rfl, rfl, ?_⟩
  simp only [Slot.item, Fin.getElem_fin, List.getElem_concat_length]

/-- What is put into the slot of a new item comes last. -/
theorem put_of_ensure {resource : Resource τ} {catalog : Catalog} {dataType : DataType}
    {suffix : String} {slot : Slot τ} (h : resource.item? suffix = none)
    (he : resource.ensure catalog dataType suffix = .ok slot) (item : Item τ) :
    slot.put item = { resource with items := resource.items ++ [item] } := by
  simp only [ensure, findFinIdx?_of_absent h] at he
  split at he
  next descriptor _ =>
    obtain rfl := Except.ok.inj he
    simp only [Slot.put, Resource.mk.injEq, true_and]
    rw [List.set_append_right _ _ (Nat.le_refl _), Nat.sub_self, List.set_cons_zero]
  next => contradiction

theorem ensure_of_unregistered {resource : Resource τ} {catalog : Catalog} {dataType : DataType}
    {suffix : String} (h : resource.item? suffix = none)
    (unregistered : catalog.find? dataType suffix = none) :
    resource.ensure catalog dataType suffix = .error (.unregistered dataType suffix) := by
  simp only [ensure, findFinIdx?_of_absent h, unregistered]

theorem distinct_append {resource : Resource τ} (h : resource.Distinct) {item : Item τ}
    (absent : resource.item? item.suffix = none) :
    Distinct { resource with items := resource.items ++ [item] } := by
  rw [Distinct, List.map_append, List.map_singleton]
  exact List.nodup_append.mpr ⟨h, List.nodup_singleton _, fun s hs t ht => by
    rw [List.mem_singleton.mp ht]
    exact fun he => item?_eq_none_iff.mp absent (he ▸ hs)⟩

theorem item?_append (resource : Resource τ) (item : Item τ) (suffix : String) :
    item? { resource with items := resource.items ++ [item] } suffix =
      (resource.item? suffix).or (if item.suffix = suffix then some item else none) := by
  rw [item?, List.find?_append, item?, List.find?_singleton]
  simp only [beq_iff_eq]

/-! ### Removing -/

/-- Taking out a place fills it with the last element, or drops the last element itself. -/
theorem swapRemove_concat {α : Type} (list : List α) (last : α) (index : Nat) :
    swapRemove (list ++ [last]) index =
      if index < list.length then list.set index last else list := by
  simp only [swapRemove, List.getLast?_concat]
  by_cases h : index < list.length
  · rw [if_pos h, List.set_append_left _ _ h]
    exact List.dropLast_concat
  · rw [if_neg h, List.set_append_right _ _ (Nat.le_of_not_lt h)]
    cases index - list.length with
    | zero => exact List.dropLast_concat
    | succ n => exact List.dropLast_concat

theorem swapRemove_perm {α : Type} {list : List α} {index : Nat} (h : index < list.length) :
    list.Perm (list[index] :: swapRemove list index) := by
  -- taking out a place is erasing it, up to the order
  refine (List.getElem_cons_eraseIdx_perm h).symm.trans (List.Perm.cons _ ?_)
  obtain rfl | ⟨init, last, rfl⟩ := list.eq_nil_or_concat'
  · exact absurd h (Nat.not_lt_zero _)
  rw [swapRemove_concat]
  by_cases hi : index < init.length
  · rw [if_pos hi, List.eraseIdx_append_of_lt_length hi]
    exact (List.perm_append_singleton _ _).trans (List.set_perm_cons_eraseIdx hi last).symm
  · rw [List.length_append, List.length_singleton] at h
    have he : index = init.length := by omega
    rw [if_neg hi, he, List.eraseIdx_append_of_length_le (Nat.le_refl _), Nat.sub_self]
    exact List.Perm.of_eq (List.append_nil init)

/-- Nothing is removed if there is no item with the suffix. Otherwise that item is the answer, and
the others remain. -/
theorem remove?_cases (resource : Resource τ) (suffix : String) :
    (resource.item? suffix = none ∧ resource.remove? suffix = none) ∨
      ∃ item items, resource.item? suffix = some item ∧
        resource.remove? suffix = some (item, { resource with items }) ∧
        resource.items.Perm (item :: items) := by
  cases h : resource.indexOf? suffix with
  | none =>
    refine Or.inl ⟨indexOf?_eq_none_iff.mp h, ?_⟩
    rw [remove?, h]
    rfl
  | some index =>
    obtain ⟨bound, _, found⟩ := getElem_of_indexOf? h
    refine Or.inr ⟨resource.items[index], swapRemove resource.items index, found, ?_,
      swapRemove_perm bound⟩
    simp only [remove?, h, bind, Option.bind_some, List.getElem?_eq_getElem bound]
    rfl

theorem remove?_of_absent {resource : Resource τ} {suffix : String}
    (h : resource.item? suffix = none) : resource.remove? suffix = none := by
  rcases resource.remove?_cases suffix with ⟨_, he⟩ | ⟨item, _, found, _⟩
  · exact he
  · rw [h] at found
    contradiction

/-- Removing answers with the item and leaves none with its suffix. -/
theorem remove?_of_present {resource : Resource τ} (h : resource.Distinct) {suffix : String}
    {item : Item τ} (present : resource.item? suffix = some item) :
    ∃ rest, resource.remove? suffix = some (item, rest) ∧ rest.item? suffix = none := by
  rcases resource.remove?_cases suffix with ⟨absent, _⟩ | ⟨removed, items, found, he, perm⟩
  · rw [absent] at present
    contradiction
  · obtain rfl : removed = item := Option.some.inj (found.symm.trans present)
    refine ⟨_, he, ?_⟩
    rw [← suffix_of_item? found]
    exact item?_of_perm_self h perm

/-! ### Changing -/

theorem modify_perm {α : Type} {list : List α} {index : Nat} (h : index < list.length)
    (change : α → α) :
    (list.modify index change).Perm (change list[index] :: list.eraseIdx index) := by
  rw [List.modify_eq_set_get change h]
  exact List.set_perm_cons_eraseIdx h _

theorem suffix_apply (item : Item τ) (op : Item.Op τ) : (item.apply op).suffix = item.suffix :=
  congrArg Descriptor.suffix (item.descriptor_apply op)

theorem distinct_modifyAt {resource : Resource τ} (h : resource.Distinct) (index : Nat)
    (op : Item.Op τ) : (resource.modifyAt index (·.apply op)).Distinct := by
  rw [Distinct, modifyAt, Keyed.map_modify fun item => suffix_apply item op]
  exact h

/-- The item in a place is changed, and every other item stays. -/
theorem item?_modifyAt {resource : Resource τ} (h : resource.Distinct) {index : Nat}
    (bound : index < resource.items.length) (op : Item.Op τ) (suffix : String) :
    (resource.modifyAt index (·.apply op)).item? suffix =
      if resource.items[index].suffix = suffix then some (resource.items[index].apply op)
      else resource.item? suffix := by
  -- the changed item and the one before it stand in front of the same others
  rw [item?_of_perm (distinct_modifyAt h index op) (modify_perm bound (·.apply op)), suffix_apply,
    item?_of_perm h (List.getElem_cons_eraseIdx_perm bound).symm]
  split <;> rfl

/-! ### Operations -/

/-- Adding changes nothing if there is an item with the suffix or if the catalog does not have it
with this type. Otherwise a new item comes last. -/
theorem apply_add_cases (resource : Resource τ) (catalog : Catalog) (dataType : DataType)
    (suffix : String) :
    ((∃ item, resource.item? suffix = some item) ∧
        resource.apply (.add catalog dataType suffix) = resource) ∨
      (resource.item? suffix = none ∧ catalog.find? dataType suffix = none ∧
        resource.apply (.add catalog dataType suffix) = resource) ∨
      ∃ descriptor, resource.item? suffix = none ∧
        catalog.find? dataType suffix = some descriptor ∧
        resource.apply (.add catalog dataType suffix) =
          { resource with items := resource.items ++ [Item.new descriptor] } := by
  cases h : resource.item? suffix with
  | some item =>
    obtain ⟨slot, he, hr, _⟩ := ensure_of_present h catalog dataType
    exact Or.inl ⟨⟨item, rfl⟩, by simp only [apply, add, he, Except.map, hr]⟩
  | none =>
    cases hf : catalog.find? dataType suffix with
    | none =>
      have he := ensure_of_unregistered h hf
      exact Or.inr (Or.inl ⟨rfl, rfl, by simp only [apply, add, he, Except.map]⟩)
    | some descriptor =>
      obtain ⟨slot, he, hr, _⟩ := ensure_of_registered h hf
      exact Or.inr (Or.inr ⟨descriptor, rfl, rfl, by simp only [apply, add, he, Except.map, hr]⟩)

/-- An operation on the item with a suffix is one on the item in its place. -/
theorem apply_item (resource : Resource τ) (suffix : String) (op : Item.Op τ) :
    (resource.item? suffix = none ∧ resource.apply (.item suffix op) = resource) ∨
      ∃ (index : Nat) (bound : index < resource.items.length),
        resource.items[index].suffix = suffix ∧
        resource.item? suffix = some resource.items[index] ∧
        resource.apply (.item suffix op) = resource.apply (.itemAt index op) := by
  cases h : resource.indexOf? suffix with
  | none => exact Or.inl ⟨indexOf?_eq_none_iff.mp h, by simp only [apply, modify, h]⟩
  | some index =>
    obtain ⟨bound, hs, found⟩ := getElem_of_indexOf? h
    exact Or.inr ⟨index, bound, hs, found, by simp only [apply, modify, h]⟩

/-- No operation gives two items the same suffix. -/
theorem Distinct.apply {resource : Resource τ} (h : resource.Distinct) (op : Op τ) :
    (resource.apply op).Distinct := by
  cases op with
  | add catalog dataType suffix =>
    rcases resource.apply_add_cases catalog dataType suffix with
      ⟨_, he⟩ | ⟨_, _, he⟩ | ⟨descriptor, absent, found, he⟩
    · rw [he]
      exact h
    · rw [he]
      exact h
    · rw [he]
      apply distinct_append h
      rw [← (Catalog.find?_eq_some_iff.mp found).2.2] at absent
      exact absent
  | remove suffix =>
    rcases resource.remove?_cases suffix with ⟨_, he⟩ | ⟨item, items, _, he, perm⟩
    · rw [Resource.apply, he]
      exact h
    · rw [Resource.apply, he]
      exact (List.nodup_cons.mp ((distinct_iff_of_perm perm).mp h)).2
  | item suffix op =>
    rcases resource.apply_item suffix op with ⟨_, he⟩ | ⟨index, _, _, _, he⟩
    · rw [he]
      exact h
    · rw [he]
      exact distinct_modifyAt h index op
  | itemAt index op => exact distinct_modifyAt h index op

theorem Distinct.run {resource : Resource τ} (h : resource.Distinct) (ops : List (Op τ)) :
    (resource.run ops).Distinct := by
  induction ops generalizing resource with
  | nil => exact h
  | cons op ops ih => exact ih (h.apply op)

theorem path_apply (resource : Resource τ) (op : Op τ) :
    (resource.apply op).path = resource.path := by
  cases op with
  | add catalog dataType suffix =>
    rcases resource.apply_add_cases catalog dataType suffix with
      ⟨_, he⟩ | ⟨_, _, he⟩ | ⟨_, _, _, he⟩ <;> rw [he]
  | remove suffix =>
    rcases resource.remove?_cases suffix with ⟨_, he⟩ | ⟨_, _, _, he, _⟩ <;>
      rw [Resource.apply, he] <;> rfl
  | item suffix op =>
    rcases resource.apply_item suffix op with ⟨_, he⟩ | ⟨_, _, _, _, he⟩ <;> rw [he]
    rfl
  | itemAt index op => rfl

theorem path_run (resource : Resource τ) (ops : List (Op τ)) :
    (resource.run ops).path = resource.path := by
  induction ops generalizing resource with
  | nil => rfl
  | cons op ops ih => rw [run_cons, ih, path_apply]

/-! ### What all items have in common -/

section

variable {P : Item τ → Prop} (fresh : ∀ descriptor, P (Item.new descriptor))
  (kept : ∀ item op, P item → P (item.apply op))
include fresh kept

theorem forall_items_apply {resource : Resource τ} (h : ∀ item ∈ resource.items, P item)
    (op : Op τ) : ∀ item ∈ (resource.apply op).items, P item := by
  have changed (index : Nat) (op : Item.Op τ) :
      ∀ item ∈ (resource.apply (.itemAt index op)).items, P item := by
    intro item mem
    by_cases bound : index < resource.items.length
    · rcases List.mem_cons.mp ((modify_perm bound (·.apply op)).subset mem) with rfl | mem
      · exact kept _ op (h _ (List.getElem_mem bound))
      · exact h item (List.mem_of_mem_eraseIdx mem)
    · rw [Resource.apply, modifyAt, List.modify_eq_self (Nat.le_of_not_lt bound)] at mem
      exact h item mem
  cases op with
  | add catalog dataType suffix =>
    rcases resource.apply_add_cases catalog dataType suffix with
      ⟨_, he⟩ | ⟨_, _, he⟩ | ⟨descriptor, _, _, he⟩
    · rwa [he]
    · rwa [he]
    · intro item mem
      rw [he] at mem
      rcases List.mem_append.mp mem with mem | last
      · exact h item mem
      · rw [List.mem_singleton.mp last]
        exact fresh descriptor
  | remove suffix =>
    rcases resource.remove?_cases suffix with ⟨_, he⟩ | ⟨removed, items, _, he, perm⟩
    · rw [Resource.apply, he]
      exact h
    · rw [Resource.apply, he]
      exact fun item mem => h item (perm.symm.subset (List.mem_cons_of_mem _ mem))
  | item suffix op =>
    rcases resource.apply_item suffix op with ⟨_, he⟩ | ⟨index, _, _, _, he⟩
    · rwa [he]
    · rw [he]
      exact changed index op
  | itemAt index op => exact changed index op

/-- What is true of new items and kept by every operation is true of all items after a run. -/
theorem forall_items_run (path : String) (ops : List (Op τ)) :
    ∀ item ∈ ((new path).run ops).items, P item := by
  suffices ∀ resource : Resource τ, (∀ item ∈ resource.items, P item) →
      ∀ item ∈ (resource.run ops).items, P item from this (new path) nofun
  induction ops with
  | nil => exact fun resource h => h
  | cons op ops ih => exact fun resource h => ih _ (forall_items_apply fresh kept h op)

end

/-! ### Where the descriptors come from -/

/-- Whether an operation adds items from this catalog only. -/
def Op.IsOver (catalog : Catalog) : Op τ → Prop
  | .add other _ _ => other = catalog
  | _ => True

/-- Every item is one that the catalog describes. -/
def Registered (catalog : Catalog) (resource : Resource τ) : Prop :=
  resource.items.map Item.descriptor ⊆ catalog.descriptors

theorem registered_new (catalog : Catalog) (path : String) :
    Registered catalog (new path : Resource τ) :=
  List.nil_subset _

theorem Registered.modifyAt {catalog : Catalog} {resource : Resource τ}
    (h : Registered catalog resource) (index : Nat) (op : Item.Op τ) :
    Registered catalog (resource.modifyAt index (·.apply op)) := by
  rw [Registered, Resource.modifyAt, Keyed.map_modify fun item => item.descriptor_apply op]
  exact h

theorem Registered.apply {catalog : Catalog} {resource : Resource τ}
    (h : Registered catalog resource) {op : Op τ} (confined : op.IsOver catalog) :
    Registered catalog (resource.apply op) := by
  cases op with
  | add other dataType suffix =>
    obtain rfl : other = catalog := confined
    rcases resource.apply_add_cases other dataType suffix with
      ⟨_, he⟩ | ⟨_, _, he⟩ | ⟨descriptor, _, found, he⟩
    · rw [he]
      exact h
    · rw [he]
      exact h
    · rw [he, Registered, List.map_append, List.append_subset]
      refine ⟨h, List.cons_subset.mpr ⟨?_, List.nil_subset _⟩⟩
      exact (Catalog.find?_eq_some_iff.mp found).1
  | remove suffix =>
    rcases resource.remove?_cases suffix with ⟨_, he⟩ | ⟨item, items, _, he, perm⟩
    · rw [Resource.apply, he]
      exact h
    · rw [Resource.apply, he]
      refine List.Subset.trans ?_ h
      exact List.Subset.trans (List.subset_cons_self _ _) (perm.map Item.descriptor).symm.subset
  | item suffix op =>
    rcases resource.apply_item suffix op with ⟨_, he⟩ | ⟨index, _, _, _, he⟩
    · rw [he]
      exact h
    · rw [he]
      exact h.modifyAt index op
  | itemAt index op => exact h.modifyAt index op

theorem Registered.run {catalog : Catalog} {resource : Resource τ}
    (h : Registered catalog resource) {ops : List (Op τ)}
    (confined : ∀ op ∈ ops, op.IsOver catalog) :
    Registered catalog (resource.run ops) := by
  induction ops generalizing resource with
  | nil => exact h
  | cons op ops ih =>
    rw [List.forall_mem_cons] at confined
    exact ih (h.apply confined.1) confined.2

end DeviceModel.Resource
