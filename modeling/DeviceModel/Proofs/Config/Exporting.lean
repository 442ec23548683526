import DeviceModel.Proofs.Config.Building
import DeviceModel.Proofs.Item.Reloading

/-!
# Exporting and rebuilding

The configuration of a resource lists the items that hold a value, each with its value as JSON
(`Resource.exported`). Building it gives a resource with exactly these items, in ascending order of
their suffixes, each of the same attribute and with the same value (`build_exported_run`). Items
without a value are not listed, and of the others whatever is not part of the value is new: the
instants, the previous number, the visibility and the rules.
-/

namespace DeviceModel

namespace Resource

variable {τ : Type}

/-- The items that hold a value. -/
def valued (resource : Resource τ) : List (Item τ) :=
  resource.items.filter Item.hasValue

/-- The configuration with the values of a resource. -/
def exported (resource : Resource τ) : ResourceConfig where
  path := resource.path
  items := .ofList (resource.valued.map fun item => (item.suffix, item.toValue.toJson))

/-- A resource with the values of another and no other items. -/
structure Rebuilt (resource rebuilt : Resource τ) : Prop where
  path : rebuilt.path = resource.path
  suffixes : (rebuilt.items.map Item.suffix).Perm (resource.valued.map Item.suffix)
  restores : ∀ item ∈ resource.valued, ∃ restored,
    rebuilt.item? item.suffix = some restored ∧ Item.Restores item restored

end Resource

namespace ResourceConfig

open Resource

variable {τ : Type} {catalog : Catalog}

theorem entryItem_of_reload {item : Item τ} {now : τ}
    (registered : item.descriptor ∈ catalog.descriptors) (accepted : (item.reload now).accepted) :
    entryItem catalog now (item.suffix, item.toValue.toJson) = .ok (item.reload now).item :=
  yields_iff.mp (.written registered accepted)

theorem build_exported {resource : Resource τ}
    (known : resource.path ∈ EntityKind.all.map EntityKind.path) (distinct : resource.Distinct)
    (registered : Registered catalog resource) (formed : ∀ item ∈ resource.items, item.WellFormed)
    (loadable : ∀ item ∈ resource.valued, item.Loadable) (now : τ) :
    ∃ rebuilt, resource.exported.build catalog now = .ok rebuilt ∧ Rebuilt resource rebuilt := by
  have restores : ∀ item ∈ resource.valued,
      (item.reload now).accepted ∧ Item.Restores item (item.reload now).item := by
    intro item mem
    obtain ⟨itemMem, valued⟩ := List.mem_filter.mp mem
    exact Item.restores_reload (formed item itemMem) valued (loadable item mem) now
  have suffix : ∀ item ∈ resource.valued, (item.reload now).item.suffix = item.suffix :=
    fun item mem => congrArg Descriptor.suffix (restores item mem).2.descriptor
  have once : (resource.valued.map Item.suffix).Nodup :=
    distinct.sublist (List.filter_sublist.map _)
  have ordered : resource.exported.items.entries.Perm
      (resource.valued.map fun item => (item.suffix, item.toValue.toJson)) := by
    apply Json.Members.entries_ofList_perm
    rwa [List.map_map]
  have each : List.Forall₂ (fun entry item => entryItem catalog now entry = .ok item)
      (resource.valued.map fun item => (item.suffix, item.toValue.toJson))
      (resource.valued.map fun item => (item.reload now).item) := by
    rw [List.forall₂_map_left_iff, List.forall₂_map_right_iff, List.forall₂_same]
    intro item mem
    have described := registered (List.mem_map_of_mem (List.mem_of_mem_filter mem))
    exact entryItem_of_reload described (restores item mem).1
  -- the results come in the order of the entries, which is that of the items only up to sorting
  obtain ⟨items, results, perm⟩ := List.perm_comp_forall₂ ordered each
  have suffixes : (items.map Item.suffix).Perm (resource.valued.map Item.suffix) := by
    refine (perm.map Item.suffix).trans (List.Perm.of_eq ?_)
    rw [List.map_map]
    exact List.map_congr_left suffix
  refine ⟨{ path := resource.path, items }, ?_, rfl, suffixes, fun item mem => ?_⟩
  · rw [build_of_known known, mapM_of_forall₂ results]
    rfl
  · have distinct' : Distinct { path := resource.path, items } := suffixes.nodup_iff.mpr once
    refine ⟨(item.reload now).item, (item?_eq_some_iff distinct').mpr ⟨?_, suffix item mem⟩,
      (restores item mem).2⟩
    exact perm.symm.subset (List.mem_map_of_mem mem)

/-- **What is exported can be built again and then has the same values**, for every resource over
the catalog that a run leads to, if its integers have 32 bits and are in range and its points in
time exist. -/
theorem build_exported_run {path : String} (known : path ∈ EntityKind.all.map EntityKind.path)
    {ops : List (Op τ)} (confined : ∀ op ∈ ops, op.IsOver catalog)
    (loadable : ∀ item ∈ ((new path).run ops).valued, item.Loadable) (now : τ) :
    let resource := (new path).run ops
    ∃ rebuilt, resource.exported.build catalog now = .ok rebuilt ∧ Rebuilt resource rebuilt := by
  intro resource
  have distinct : resource.Distinct := (distinct_new path).run ops
  have registered : Registered catalog resource := (registered_new catalog path).run confined
  have formed : ∀ item ∈ resource.items, item.WellFormed :=
    forall_items_run Item.wellFormed_new (fun _ op formed => formed.apply op) path ops
  refine build_exported ?_ distinct registered formed loadable now
  rw [path_run]
  exact known

/-- A run that leaves a text, a truth value, an integer at the end of its range, a point in time and
an item that holds no value. -/
def sensorOps : List (Op Unit) :=
  [.add .builtin .string "attr/name", .item "attr/name" (.write (.text "hall") ()),
    .add .builtin .bool "state/presence", .item "state/presence" (.write (.number 5) ()),
    .add .builtin .int16 "state/temperature", .itemAt 2 (.write (.number (-27315)) ()),
    .add .builtin .time "state/lastupdated",
    .item "state/lastupdated" (.write (.number 1700000000123) ()),
    .add .builtin .uint8 "config/battery"]

theorem build_exported_sensor :
    let resource := (new "/sensors").run sensorOps
    resource.valued.length = 4 ∧
      ∃ rebuilt, resource.exported.build .builtin () = .ok rebuilt ∧ Rebuilt resource rebuilt := by
  intro resource
  refine ⟨by decide +kernel, build_exported_run (by decide) ?_ (by decide +kernel) ()⟩
  simp [sensorOps, Op.IsOver]

end ResourceConfig

end DeviceModel
