import DeviceModel.Proofs.Resource.Items
import Mathlib.Data.Finmap

/-!
# A resource is a finite map

`entries` is the finite map from suffixes to items that a resource stands for, and `Entries.apply`
says what an operation is on such a map, without lists and places: an operation on the item in a
place is read as one on the suffix of that item (`named`). `Represents` says that every question to
a resource is answered as the map answers it.

The main statement is `represents_run`: after every run from a resource without items, whatever
catalogs the items come from, the resource represents the map that the same run makes of the empty
map. With it comes what the single operations answer: adding, removing, and that an operation on one
suffix leaves the items of all others alone.
-/

namespace DeviceModel.Resource

variable {τ : Type}

/-! ### The map of a resource -/

/-- A finite map from suffixes to items. -/
abbrev Entries (τ : Type) := Finmap fun _ : String => Item τ

/-- The map that a resource stands for. -/
def entries (resource : Resource τ) : Entries τ :=
  (resource.items.map fun item => Sigma.mk (β := fun _ : String => Item τ) item.suffix item).toFinmap

theorem lookup_entries (resource : Resource τ) (suffix : String) :
    resource.entries.lookup suffix = resource.item? suffix := by
  obtain ⟨path, items⟩ := resource
  rw [entries, item?]
  induction items with
  | nil => rfl
  | cons item items ih =>
    rw [List.map_cons, Finmap.toFinmap_cons, List.find?_cons]
    by_cases h : item.suffix = suffix
    · subst h
      rw [Finmap.lookup_insert, beq_self_eq_true]
    · rw [Finmap.lookup_insert_of_ne _ (Ne.symm h), ih, beq_false_of_ne h]

theorem mem_entries {resource : Resource τ} {suffix : String} :
    suffix ∈ resource.entries ↔ suffix ∈ resource.items.map Item.suffix := by
  rw [← Finmap.lookup_isSome, lookup_entries, ← not_iff_not, ← item?_eq_none_iff]
  simp

theorem card_keys_entries {resource : Resource τ} (h : resource.Distinct) :
    resource.entries.keys.card = resource.items.length := by
  have keys : resource.entries.keys = (resource.items.map Item.suffix).toFinset := by
    ext suffix
    rw [Finmap.mem_keys, mem_entries, List.mem_toFinset]
  rw [keys, List.toFinset_card_of_nodup h, List.length_map]

/-! ### Operations on a map -/

/-- A map after an operation. -/
def Entries.apply (entries : Entries τ) : Op τ → Entries τ
  | .add catalog dataType suffix =>
    if suffix ∈ entries then entries
    else
      match catalog.find? dataType suffix with
      | some descriptor => entries.insert suffix (Item.new descriptor)
      | none => entries
  | .remove suffix => entries.erase suffix
  | .item suffix op =>
    match entries.lookup suffix with
    | some item => entries.insert suffix (item.apply op)
    | none => entries
  -- a map has no places: such an operation finds nothing
  | .itemAt _ _ => entries

/-- A map after a sequence of operations. -/
def Entries.run (entries : Entries τ) (ops : List (Op τ)) : Entries τ :=
  ops.foldl Entries.apply entries

/-- An operation on the item in a place as one on the suffix of that item, if there is one. -/
def named (resource : Resource τ) : Op τ → Op τ
  | .itemAt index op =>
    match resource.items[index]? with
    | some item => .item item.suffix op
    | none => .itemAt index op
  | op => op

/-- The operations of a run, each on the suffix that it means there. -/
def namedOps (resource : Resource τ) : List (Op τ) → List (Op τ)
  | [] => []
  | op :: ops => resource.named op :: namedOps (resource.apply op) ops

/-- The suffix of the item that an operation is about. -/
def Op.suffix? : Op τ → Option String
  | .add _ _ suffix => some suffix
  | .remove suffix => some suffix
  | .item suffix _ => some suffix
  | .itemAt _ _ => none

theorem lookup_apply_of_ne (entries : Entries τ) {op : Op τ} {suffix : String}
    (h : op.suffix? ≠ some suffix) : (entries.apply op).lookup suffix = entries.lookup suffix := by
  cases op with
  | add catalog dataType other =>
    have ne : suffix ≠ other := fun he => h (congrArg some he.symm)
    rw [Entries.apply]
    split
    · rfl
    · split
      · exact Finmap.lookup_insert_of_ne _ ne
      · rfl
  | remove other => exact Finmap.lookup_erase_ne fun he => h (congrArg some he.symm)
  | item other op =>
    have ne : suffix ≠ other := fun he => h (congrArg some he.symm)
    rw [Entries.apply]
    split
    · exact Finmap.lookup_insert_of_ne _ ne
    · rfl
  | itemAt index op => rfl

/-- An operation that does not remove an item keeps its descriptor in the map. -/
theorem Entries.descriptor_apply {entries : Entries τ} {op : Op τ} {suffix : String}
    {item : Item τ} (found : entries.lookup suffix = some item) (kept : op ≠ .remove suffix) :
    ∃ item', (entries.apply op).lookup suffix = some item' ∧
      item'.descriptor = item.descriptor := by
  by_cases other : op.suffix? = some suffix
  · cases op with
    | add catalog dataType added =>
      obtain rfl : added = suffix := Option.some.inj other
      have present : added ∈ entries := Finmap.mem_iff.mpr ⟨item, found⟩
      rw [Entries.apply, if_pos present]
      exact ⟨item, found, rfl⟩
    | remove removed => exact absurd (congrArg Op.remove (Option.some.inj other)) kept
    | item changed op =>
      obtain rfl : changed = suffix := Option.some.inj other
      rw [Entries.apply, found]
      exact ⟨item.apply op, Finmap.lookup_insert _, item.descriptor_apply op⟩
    | itemAt index op => contradiction
  · exact ⟨item, (lookup_apply_of_ne entries other).trans found, rfl⟩

/-! ### The map keeps up with the resource -/

theorem entries_append {resource : Resource τ} (item : Item τ)
    (absent : resource.item? item.suffix = none) :
    entries { resource with items := resource.items ++ [item] } =
      resource.entries.insert item.suffix item := by
  apply Finmap.ext_lookup
  intro suffix
  rw [lookup_entries, item?_append]
  by_cases hs : item.suffix = suffix
  · subst hs
    rw [absent, if_pos rfl, Option.none_or, Finmap.lookup_insert]
  · rw [if_neg hs, Option.or_none, Finmap.lookup_insert_of_ne _ (Ne.symm hs), lookup_entries]

theorem entries_apply_add (resource : Resource τ) (catalog : Catalog) (dataType : DataType)
    (suffix : String) :
    (resource.apply (.add catalog dataType suffix)).entries =
      resource.entries.apply (.add catalog dataType suffix) := by
  rw [Entries.apply]
  rcases resource.apply_add_cases catalog dataType suffix with
    ⟨present, he⟩ | ⟨absent, hf, he⟩ | ⟨descriptor, absent, hf, he⟩
  · obtain ⟨item, found⟩ := present
    have mem : suffix ∈ resource.entries :=
      Finmap.mem_iff.mpr ⟨item, (resource.lookup_entries suffix).trans found⟩
    rw [he, if_pos mem]
  · rw [he, if_neg (mt mem_entries.mp (item?_eq_none_iff.mp absent)), hf]
  · rw [he, if_neg (mt mem_entries.mp (item?_eq_none_iff.mp absent)), hf]
    obtain rfl : descriptor.suffix = suffix := (Catalog.find?_eq_some_iff.mp hf).2.2
    exact entries_append (Item.new descriptor) absent

theorem entries_apply_remove {resource : Resource τ} (h : resource.Distinct) (suffix : String) :
    (resource.apply (.remove suffix)).entries = resource.entries.erase suffix := by
  apply Finmap.ext_lookup
  intro other
  rw [lookup_entries, apply]
  rcases resource.remove?_cases suffix with ⟨absent, he⟩ | ⟨item, items, found, he, perm⟩
  · rw [he, Option.map_none, Option.getD_none]
    by_cases ho : other = suffix
    · rw [ho, absent, Finmap.lookup_erase]
    · rw [Finmap.lookup_erase_ne ho, lookup_entries]
  · rw [he, Option.map_some, Option.getD_some]
    have hs : item.suffix = suffix := suffix_of_item? found
    by_cases ho : other = suffix
    · rw [ho, Finmap.lookup_erase, ← hs]
      exact item?_of_perm_self h perm
    · rw [Finmap.lookup_erase_ne ho, lookup_entries, item?_of_perm h perm,
        if_neg fun he => ho (he.symm.trans hs), item?]

theorem entries_apply_itemAt {resource : Resource τ} (h : resource.Distinct) {index : Nat}
    (bound : index < resource.items.length) (op : Item.Op τ) :
    (resource.apply (.itemAt index op)).entries =
      resource.entries.apply (.item resource.items[index].suffix op) := by
  have found : resource.item? resource.items[index].suffix = some resource.items[index] :=
    (item?_eq_some_iff h).mpr ⟨List.getElem_mem bound, rfl⟩
  apply Finmap.ext_lookup
  intro suffix
  rw [Entries.apply, lookup_entries, lookup_entries, found, apply, item?_modifyAt h bound]
  by_cases hs : resource.items[index].suffix = suffix
  · subst hs
    rw [if_pos rfl, Finmap.lookup_insert]
  · rw [if_neg hs, Finmap.lookup_insert_of_ne _ (Ne.symm hs), lookup_entries]

theorem entries_apply_item {resource : Resource τ} (h : resource.Distinct) (suffix : String)
    (op : Item.Op τ) :
    (resource.apply (.item suffix op)).entries = resource.entries.apply (.item suffix op) := by
  rcases resource.apply_item suffix op with ⟨absent, he⟩ | ⟨index, bound, hs, _, he⟩
  · rw [he, Entries.apply, lookup_entries, absent]
  · rw [he, entries_apply_itemAt h bound, hs]

/-- **A step of a resource is a step of its map.** -/
theorem entries_apply {resource : Resource τ} (h : resource.Distinct) (op : Op τ) :
    (resource.apply op).entries = resource.entries.apply (resource.named op) := by
  cases op with
  | add catalog dataType suffix => exact resource.entries_apply_add catalog dataType suffix
  | remove suffix => exact entries_apply_remove h suffix
  | item suffix op => exact entries_apply_item h suffix op
  | itemAt index op =>
    rw [named]
    by_cases bound : index < resource.items.length
    · rw [entries_apply_itemAt h bound, List.getElem?_eq_getElem bound]
    · have outside : resource.items.length ≤ index := Nat.le_of_not_lt bound
      rw [List.getElem?_eq_none outside, Entries.apply, apply, modifyAt,
        List.modify_eq_self outside]

/-- A run of a resource is a run of its map. -/
theorem entries_run {resource : Resource τ} (h : resource.Distinct) (ops : List (Op τ)) :
    (resource.run ops).entries = resource.entries.run (resource.namedOps ops) := by
  induction ops generalizing resource with
  | nil => rfl
  | cons op ops ih =>
    rw [namedOps, run_cons, ih (h.apply op), entries_apply h]
    rfl

/-- An operation on one suffix leaves the items of all others alone. -/
theorem item?_apply_of_ne {resource : Resource τ} (h : resource.Distinct) {op : Op τ}
    {suffix : String} (other : (resource.named op).suffix? ≠ some suffix) :
    (resource.apply op).item? suffix = resource.item? suffix := by
  rw [← lookup_entries, entries_apply h, lookup_apply_of_ne _ other, lookup_entries]

/-- An operation that does not remove an item keeps its descriptor. -/
theorem descriptor_apply {resource : Resource τ} (h : resource.Distinct) {op : Op τ}
    {suffix : String} {item : Item τ} (found : resource.item? suffix = some item)
    (kept : op ≠ .remove suffix) :
    ∃ item', (resource.apply op).item? suffix = some item' ∧
      item'.descriptor = item.descriptor := by
  have notRemoved : resource.named op ≠ .remove suffix := by
    cases op with
    | itemAt index op => rw [named]; split <;> nofun
    | add catalog dataType other => exact kept
    | remove other => exact kept
    | item other op => exact kept
  rw [← lookup_entries, entries_apply h]
  exact Entries.descriptor_apply ((resource.lookup_entries suffix).trans found) notRemoved

/-- As long as an item is not removed, its descriptor stays. -/
theorem descriptor_run {resource : Resource τ} (h : resource.Distinct) {suffix : String}
    {ops : List (Op τ)} {item : Item τ} (found : resource.item? suffix = some item)
    (kept : Op.remove suffix ∉ ops) :
    ∃ item', (resource.run ops).item? suffix = some item' ∧
      item'.descriptor = item.descriptor := by
  induction ops generalizing resource item with
  | nil => exact ⟨item, found, rfl⟩
  | cons op ops ih =>
    rw [List.mem_cons, not_or] at kept
    obtain ⟨next, foundNext, same⟩ := descriptor_apply h found (Ne.symm kept.1)
    obtain ⟨last, foundLast, sameLast⟩ := ih (h.apply op) foundNext kept.2
    exact ⟨last, foundLast, sameLast.trans same⟩

/-! ### The refinement -/

/-- Every question to the resource is answered as the map answers it; what is not there is false,
zero or the empty text. -/
structure Represents (resource : Resource τ) (entries : Entries τ) : Prop where
  distinct : (resource.items.map Item.suffix).Nodup
  item? : ∀ suffix, resource.item? suffix = entries.lookup suffix
  /-- The item is found where it can be changed. -/
  place : ∀ suffix,
    ((resource.indexOf? suffix).bind fun index => resource.items[index]?) = entries.lookup suffix
  toBool : ∀ suffix, resource.toBool suffix = (entries.lookup suffix).elim false Item.toBool
  toNumber : ∀ suffix, resource.toNumber suffix = (entries.lookup suffix).elim 0 Item.number
  toText : ∀ suffix, resource.toText suffix = (entries.lookup suffix).elim "" Item.toText
  count : resource.items.length = entries.keys.card

theorem Distinct.represents {resource : Resource τ} (h : resource.Distinct) :
    Represents resource resource.entries where
  distinct := h
  item? suffix := (resource.lookup_entries suffix).symm
  place suffix := by rw [lookup_entries, item?_eq_bind_indexOf?]
  toBool suffix := by
    rw [lookup_entries, Resource.toBool]
    cases resource.item? suffix <;> rfl
  toNumber suffix := by rw [lookup_entries, Resource.toNumber]
  toText suffix := by rw [lookup_entries, Resource.toText]; rfl
  count := (card_keys_entries h).symm

/-- **A resource is a finite map from suffixes to items.** After every run from a resource without
items it represents the map that the run makes of the empty map. There, adding an item that is
present gives this item, whatever type and catalog are asked for; adding an absent one that the
catalog has with this type gives a new item, at the end; and adding any other fails and changes
nothing. Removing gives the item, and a later item of the same suffix is a new one. An operation on
one suffix leaves the items of all others alone, and an item that is not removed keeps its
descriptor. -/
theorem represents_run (path : String) (ops : List (Op τ)) :
    let start : Resource τ := new path
    let resource := start.run ops
    let entries := Entries.run ∅ (start.namedOps ops)
    Represents resource entries ∧
    (∀ catalog dataType suffix item, entries.lookup suffix = some item →
      ∃ slot, resource.ensure catalog dataType suffix = .ok slot ∧
        slot.resource = resource ∧ slot.item = item) ∧
    (∀ (catalog : Catalog) (descriptor : Descriptor), descriptor ∈ catalog.descriptors →
      entries.lookup descriptor.suffix = none →
      ∃ slot, resource.ensure catalog descriptor.dataType descriptor.suffix = .ok slot ∧
        slot.resource = { resource with items := resource.items ++ [Item.new descriptor] } ∧
        slot.item = Item.new descriptor) ∧
    (∀ (catalog : Catalog) (dataType : DataType) (suffix : String),
      entries.lookup suffix = none →
      (∀ descriptor ∈ catalog.descriptors,
        ¬ (descriptor.dataType = dataType ∧ descriptor.suffix = suffix)) →
      resource.ensure catalog dataType suffix = .error (.unregistered dataType suffix) ∧
        resource.apply (.add catalog dataType suffix) = resource) ∧
    (∀ suffix item, entries.lookup suffix = some item →
      ∃ rest, resource.remove? suffix = some (item, rest) ∧ rest.item? suffix = none ∧
        ∀ (catalog : Catalog) (descriptor : Descriptor), descriptor ∈ catalog.descriptors →
          descriptor.suffix = suffix →
          ∃ slot, rest.ensure catalog descriptor.dataType suffix = .ok slot ∧
            slot.item = Item.new descriptor) ∧
    (∀ suffix, entries.lookup suffix = none → resource.remove? suffix = none) ∧
    (∀ op suffix, (resource.named op).suffix? ≠ some suffix →
      (resource.apply op).item? suffix = resource.item? suffix) ∧
    (∀ suffix item later, resource.item? suffix = some item → Op.remove suffix ∉ later →
      ∃ item', (resource.run later).item? suffix = some item' ∧
        item'.descriptor = item.descriptor) := by
  intro start resource entries
  have distinct : resource.Distinct := (distinct_new path).run ops
  have same : entries = resource.entries := (entries_run (distinct_new path) ops).symm
  have lookup (suffix : String) : entries.lookup suffix = resource.item? suffix := by
    rw [same, lookup_entries]
  simp only [lookup]
  refine ⟨same ▸ distinct.represents, fun catalog dataType suffix item found =>
    ensure_of_present found catalog dataType, ?_, ?_, ?_, fun suffix => remove?_of_absent,
    fun op suffix => item?_apply_of_ne distinct,
    fun suffix item later => descriptor_run distinct⟩
  · intro catalog descriptor mem absent
    exact ensure_of_registered absent (Catalog.find?_eq_some_iff.mpr ⟨mem, rfl, rfl⟩)
  · intro catalog dataType suffix absent unregistered
    have none := ensure_of_unregistered absent (Catalog.find?_eq_none_iff.mpr unregistered)
    exact ⟨none, by simp only [apply, add, none, Except.map]⟩
  · intro suffix item found
    obtain ⟨rest, he, gone⟩ := remove?_of_present distinct found
    refine ⟨rest, he, gone, fun catalog descriptor mem hs => ?_⟩
    obtain ⟨slot, hslot, _, fresh⟩ :=
      ensure_of_registered gone (Catalog.find?_eq_some_iff.mpr ⟨mem, rfl, hs⟩)
    exact ⟨slot, hslot, fresh⟩

end DeviceModel.Resource
