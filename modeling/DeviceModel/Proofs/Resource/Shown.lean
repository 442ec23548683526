import DeviceModel.Proofs.Catalog.Order
import DeviceModel.Proofs.Resource.Filling
import DeviceModel.Proofs.Resource.Items

/-!
# What a resource shows

The JSON form of a resource is filled with the values of its shown items, those that are public and
hold a value (`toJson_eq_fill`). No value of an item is an object, so the values are the leaves.

`Exact` says that the JSON form shows these values at their paths and nothing else, in whatever
order the items are. It holds if no path of a shown item begins with the path of another, which is
so for every resource over the built-in attributes (`exact_of_separate`). `Compatible` is weaker and
is all that is needed for no value to be lost: the path of a shown item may also be that of another
if both show the same value (`shows_all_iff_compatible`). Items of `attr/zone` and `zone`, which
both lead to `zone`, are not compatible if their values differ: the one that comes last hides the
other (`zones_hide_each_other`).
-/

namespace DeviceModel.Resource

open Json

variable {τ : Type}

/-! ### The values of the shown items -/

theorem isObject_toJson (value : Value) : value.toJson.isObject = false := by
  cases value with
  | float x => cases x <;> rfl
  | _ => rfl

/-- The items that are shown: those that are public and hold a value. -/
def shown (resource : Resource τ) : List (Item τ) :=
  resource.items.filter fun item => item.isPublic && item.hasValue

theorem mem_shown_iff {resource : Resource τ} {item : Item τ} :
    item ∈ resource.shown ↔ item ∈ resource.items ∧ item.isPublic ∧ item.hasValue := by
  rw [shown, List.mem_filter, Bool.and_eq_true]

/-- The value of an item and the place where it is shown. -/
def placedOf (item : Item τ) : Place × Json :=
  (Place.ofSuffix item.suffix, item.toValue.toJson)

theorem toJson_eq_fill (resource : Resource τ) :
    resource.toJson = fill (resource.shown.map placedOf) := by
  rw [toJson, fill, List.foldl_map]
  rfl

theorem mem_placed_iff {items : List (Item τ)} {place : Place} {value : Json} :
    (place, value) ∈ items.map placedOf ↔
      ∃ item ∈ items, pathOf item.suffix = place.path ∧ item.toValue.toJson = value := by
  simp only [List.mem_map, placedOf, Prod.mk.injEq, pathOf, Place.path_injective.eq_iff]

theorem simple_placed (items : List (Item τ)) :
    ∀ entry ∈ items.map placedOf, entry.2.isObject = false := by
  intro entry mem
  obtain ⟨item, _, rfl⟩ := List.mem_map.mp mem
  exact isObject_toJson _

/-! ### When no value is lost -/

/-- Every item that is public and holds a value is shown at its path. -/
def ShowsAll (resource : Resource τ) : Prop :=
  ∀ item ∈ resource.items, item.isPublic → item.hasValue → ∀ path, HasPath item.suffix path →
    resource.toJson.toJson.valueAt? path = some item.toValue.toJson

/-- The path of a shown item begins with that of another only if the two show the same value at the
same path. -/
def Compatible (resource : Resource τ) : Prop :=
  ∀ a ∈ resource.shown, ∀ b ∈ resource.shown, pathOf a.suffix <+: pathOf b.suffix →
    pathOf a.suffix = pathOf b.suffix ∧ a.toValue.toJson = b.toValue.toJson

theorem compatible_iff_agreeing {resource : Resource τ} :
    resource.Compatible ↔ Agreeing (resource.shown.map placedOf) := by
  have same (a b : Item τ) : placedOf a = placedOf b ↔
      pathOf a.suffix = pathOf b.suffix ∧ a.toValue.toJson = b.toValue.toJson := by
    rw [placedOf, placedOf, Prod.mk.injEq, pathOf, pathOf, Place.path_injective.eq_iff]
  simp only [Agreeing, List.forall_mem_map, same]
  rfl

theorem showsAll_iff_agreeing {resource : Resource τ} :
    resource.ShowsAll ↔ Agreeing (resource.shown.map placedOf) := by
  constructor
  · intro all
    have found : ∀ entry ∈ resource.shown.map placedOf,
        resource.toJson.toJson.valueAt? entry.1.path = some entry.2 := by
      intro entry mem
      obtain ⟨item, itemMem, rfl⟩ := List.mem_map.mp mem
      obtain ⟨mem, isPublic, valued⟩ := mem_shown_iff.mp itemMem
      exact all item mem isPublic valued _ (hasPath_pathOf item.suffix)
    exact agreeing_of_valueAt? (simple_placed _) found
  · intro agree item mem isPublic valued path leads
    obtain rfl := hasPath_iff.mp leads
    have placed : placedOf item ∈ resource.shown.map placedOf :=
      List.mem_map_of_mem (mem_shown_iff.mpr ⟨mem, isPublic, valued⟩)
    rw [toJson_eq_fill]
    exact (holds_fill agree).valueAt? placed

theorem toJson_perm {resource other : Resource τ} (compatible : resource.Compatible)
    (perm : other.items.Perm resource.items) : other.toJson = resource.toJson := by
  rw [toJson_eq_fill, toJson_eq_fill]
  exact fill_perm (compatible_iff_agreeing.mp compatible) ((perm.filter _).map _)

/-! ### Paths that keep apart -/

theorem eq_of_separate {resource : Resource τ} (distinct : resource.Distinct)
    (separate : Separate (resource.shown.map Item.suffix)) {a b : Item τ} (ha : a ∈ resource.shown)
    (hb : b ∈ resource.shown) (starts : pathOf a.suffix <+: pathOf b.suffix) : a = b := by
  have same : a.suffix = b.suffix :=
    separate _ (List.mem_map_of_mem ha) _ (List.mem_map_of_mem hb) starts
  exact List.inj_on_of_nodup_map distinct (List.mem_of_mem_filter ha) (List.mem_of_mem_filter hb)
    same

theorem compatible_of_separate {resource : Resource τ} (distinct : resource.Distinct)
    (separate : Separate (resource.shown.map Item.suffix)) : resource.Compatible := by
  intro a ha b hb starts
  obtain rfl := eq_of_separate distinct separate ha hb starts
  exact ⟨rfl, rfl⟩

theorem nodup_placed {resource : Resource τ} (distinct : resource.Distinct)
    (separate : Separate (resource.shown.map Item.suffix)) :
    (resource.shown.map placedOf).Nodup := by
  refine List.Nodup.map_on (fun a ha b hb he => ?_) ((List.Nodup.of_map _ distinct).filter _)
  refine eq_of_separate distinct separate ha hb ?_
  rw [pathOf, show Place.ofSuffix a.suffix = Place.ofSuffix b.suffix from (Prod.mk.inj he).1]
  exact List.prefix_refl _

/-- A resource over a catalog whose attributes keep apart. -/
theorem separate_run {catalog : Catalog} (separate : Separate (catalog.descriptors.map (·.suffix)))
    (path : String) {ops : List (Op τ)} (confined : ∀ op ∈ ops, op.IsOver catalog) :
    Separate (((new path).run ops).shown.map Item.suffix) := by
  refine separate.mono ?_
  rintro suffix mem
  obtain ⟨item, shown, rfl⟩ := List.mem_map.mp mem
  have registered := (registered_new catalog path).run confined
  exact List.mem_map_of_mem
    (registered (List.mem_map_of_mem (List.mem_of_mem_filter shown)))

/-- The JSON form shows the values of the shown items at their paths and nothing else. -/
structure Exact (resource : Resource τ) : Prop where
  leaves : resource.toJson.toJson.leaves.Perm
    (resource.shown.map fun item => (pathOf item.suffix, item.toValue.toJson))
  /-- Every key at the top belongs to a shown item. -/
  keys : ∀ {key value}, (key, value) ∈ resource.toJson.entries →
    ∃ item ∈ resource.shown, [key] <+: pathOf item.suffix
  /-- A group is not empty, and every key in it belongs to a shown item. -/
  groups : ∀ {group inner}, (group, .object inner) ∈ resource.toJson.entries →
    inner ≠ [] ∧ ∀ entry ∈ inner, ∃ item ∈ resource.shown,
      pathOf item.suffix = [group, entry.1] ∧ item.toValue.toJson = entry.2
  order : ∀ other : Resource τ, other.items.Perm resource.items → other.toJson = resource.toJson

theorem exact_of_compatible {resource : Resource τ} (compatible : resource.Compatible)
    (once : (resource.shown.map placedOf).Nodup) : resource.Exact := by
  have holds : Holds resource.toJson (resource.shown.map placedOf) := by
    rw [toJson_eq_fill]
    exact holds_fill (compatible_iff_agreeing.mp compatible)
  have simple := simple_placed resource.shown
  constructor
  · have leaves := holds.leaves_perm simple once
    rw [List.map_map] at leaves
    exact leaves
  · intro key value mem
    rcases holds.only (Members.mem_entries_iff.mp mem) with top | ⟨inner, _, ne, ascending, entries⟩
    · obtain ⟨item, itemMem, path, _⟩ := mem_placed_iff.mp top
      exact ⟨item, itemMem, path ▸ List.prefix_refl [key]⟩
    -- the group has an entry, and the item of that entry is in the group
    · obtain ⟨⟨k, v⟩, entryMem⟩ := List.exists_mem_of_ne_nil _ ne
      have placed := entries (ascending.mem_iff.mp entryMem)
      obtain ⟨item, itemMem, path, _⟩ := mem_placed_iff.mp placed
      exact ⟨item, itemMem, path ▸ List.prefix_append [key] [k]⟩
  · intro group inner mem
    rcases holds.only (Members.mem_entries_iff.mp mem) with top | ⟨_, he, ne, ascending, entries⟩
    · exact Bool.noConfusion (simple _ top)
    · obtain rfl := Json.object.inj he
      refine ⟨ne, ?_⟩
      rintro ⟨k, v⟩ entryMem
      exact mem_placed_iff.mp (entries (ascending.mem_iff.mp entryMem))
  · exact fun other => toJson_perm compatible

/-- **If no path of a shown item begins with that of another, the JSON form shows the values of the
shown items and nothing else.** So it is for every resource over the built-in attributes. -/
theorem exact_of_separate :
    (∀ resource : Resource τ, resource.Distinct → Separate (resource.shown.map Item.suffix) →
      resource.Exact) ∧
    (∀ (path : String) (ops : List (Op τ)), (∀ op ∈ ops, op.IsOver .builtin) →
      ((new path).run ops).Distinct ∧ Separate (((new path).run ops).shown.map Item.suffix)) ∧
    ∀ suffix path, HasPath suffix path ↔ path = pathOf suffix := by
  refine ⟨fun resource distinct separate => ?_, fun path ops confined => ⟨?_, ?_⟩,
    fun suffix path => hasPath_iff⟩
  · exact exact_of_compatible (compatible_of_separate distinct separate)
      (nodup_placed distinct separate)
  · exact (distinct_new path).run ops
  · exact separate_run separate_builtin path confined

/-- A text of the identity, two values of a group, a text that is hidden and a number that was never
written. -/
def hallOps : List (Op Unit) :=
  [.add .builtin .bool "state/presence", .item "state/presence" (.write (.number 1) ()),
    .add .builtin .string "attr/modelid", .item "attr/modelid" (.write (.text "SML001") ()),
    .item "attr/modelid" (.setPublic false),
    .add .builtin .string "attr/name", .item "attr/name" (.write (.text "hall") ()),
    .add .builtin .uint8 "config/battery",
    .add .builtin .int16 "state/temperature", .item "state/temperature" (.write (.number 2150) ())]

theorem exact_of_separate_hall :
    let resource : Resource Unit := (new "/sensors").run hallOps
    resource.items.map Item.suffix =
      ["state/presence", "attr/modelid", "attr/name", "config/battery", "state/temperature"] ∧
    resource.shown.map Item.suffix = ["state/presence", "attr/name", "state/temperature"] ∧
    resource.Exact ∧
    resource.toJson.toJson.text =
      "\x7b\"name\":\"hall\",\"state\":\x7b\"presence\":true,\"temperature\":2150.0\x7d\x7d" := by
  intro resource
  obtain ⟨distinct, separate⟩ :=
    exact_of_separate.2.1 "/sensors" hallOps (by simp [hallOps, Op.IsOver])
  exact ⟨by decide +kernel, by decide +kernel, exact_of_separate.1 resource distinct separate,
    by decide +kernel⟩

/-! ### Values that are lost -/

/-- **No value is lost exactly if the shown items are compatible**, and then the order of the items
does not matter. This is so over every catalog in which no path begins with that of another
attribute. -/
theorem shows_all_iff_compatible :
    (∀ resource : Resource τ, resource.ShowsAll ↔ resource.Compatible) ∧
    (∀ resource : Resource τ, resource.Compatible →
      ∀ other : Resource τ, other.items.Perm resource.items → other.toJson = resource.toJson) ∧
    ∀ catalog : Catalog, Separate (catalog.descriptors.map (·.suffix)) →
      ∀ (path : String) (ops : List (Op τ)), (∀ op ∈ ops, op.IsOver catalog) →
        ((new path).run ops).Compatible := by
  refine ⟨fun resource => ?_, fun resource compatible other => ?_,
    fun catalog separate path ops confined => ?_⟩
  · exact showsAll_iff_agreeing.trans compatible_iff_agreeing.symm
  · exact toJson_perm compatible
  · exact compatible_of_separate ((distinct_new path).run ops) (separate_run separate path confined)

/-- Two attributes that both lead to `zone`. -/
def zones : Catalog :=
  ⟨[⟨"attr/zone", .string, 0, 0⟩, ⟨"zone", .string, 0, 0⟩], by decide⟩

/-- Adds an item of text and writes its value. -/
def addText (suffix text : String) : List (Op Unit) :=
  [.add zones .string suffix, .item suffix (.write (.text text) ())]

/-- The one item hides the other, and which one it is depends on the order. -/
theorem zones_hide_each_other :
    let ops := addText "attr/zone" "a" ++ addText "zone" "b"
    let swapped := addText "zone" "b" ++ addText "attr/zone" "a"
    let first : Resource Unit := (new "/sensors").run ops
    let second : Resource Unit := (new "/sensors").run swapped
    Catalog.ofDescriptors zones.descriptors = .ok zones ∧
    (∀ op ∈ ops ++ swapped, op.IsOver zones) ∧
    first.items.Perm second.items ∧
    first.toJson.toJson = .object [("zone", .string "b")] ∧
    second.toJson.toJson = .object [("zone", .string "a")] ∧
    ¬ first.ShowsAll := by
  intro ops swapped first second
  have overwritten : first.toJson.toJson = .object [("zone", .string "b")] := by rfl
  refine ⟨Catalog.ofDescriptors_eq_ok_iff.mpr rfl, by simp [ops, swapped, addText, Op.IsOver],
    by decide +kernel, overwritten, by rfl, fun all => ?_⟩
  let item := first.items.get ⟨0, by decide +kernel⟩
  have isPublic : item.isPublic := by decide +kernel
  have valued : item.hasValue := by decide +kernel
  have lost := all item (List.get_mem _ _) isPublic valued ["zone"] (.identity "zone")
  rw [overwritten] at lost
  have same := Json.string.inj (Option.some.inj lost)
  exact absurd same (by decide +kernel)

end DeviceModel.Resource
