import DeviceModel.Proofs.Catalog.Order
import DeviceModel.Proofs.Config.Building
import DeviceModel.Proofs.Item.Restamping

/-!
# Attributes beside the built-in ones

A catalog that begins like another one and then has more attributes (`Extends`) finds whatever the
other one finds, and something else only where the other one finds nothing. So a resource that can
be built with the attributes of the other one is built in the same way with more of them
(`build_of_extends`), and if a configuration needs no more attributes, errors are the same too
(`build_eq_of_extends`). When a resource is built shows in its instants only (`build_restamp`).

The main statement is `builtinWith_conservative`, for the built-in attributes followed by others.
-/

namespace DeviceModel

namespace Catalog

/-- A catalog has the attributes of another one and then those of a list. -/
def Extends (catalog base : Catalog) (extra : List Descriptor) : Prop :=
  catalog.descriptors = base.descriptors ++ extra

theorem builtinWith_eq_ok_iff {extra : List Descriptor} {catalog : Catalog} :
    builtinWith extra = .ok catalog ↔ catalog.Extends builtin extra :=
  ofDescriptors_eq_ok_iff

theorem extends_of_builtinWith {extra : List Descriptor} {catalog : Catalog}
    (h : builtinWith extra = .ok catalog) : catalog.Extends builtin extra :=
  builtinWith_eq_ok_iff.mp h

variable {catalog base : Catalog} {extra : List Descriptor}

theorem Extends.lookup? (h : catalog.Extends base extra) (key : String) :
    catalog.lookup? key = (base.lookup? key).or (extra.find? (·.matchesKey key)) := by
  rw [Catalog.lookup?, h, List.find?_append, Catalog.lookup?]

theorem Extends.get? (h : catalog.Extends base extra) (suffix : String) :
    catalog.get? suffix =
      (base.get? suffix).or (extra.find? fun descriptor => descriptor.suffix == suffix) := by
  rw [Catalog.get?, h, List.find?_append, Catalog.get?]

theorem Extends.find? (h : catalog.Extends base extra) (dataType : DataType) (suffix : String) :
    catalog.find? dataType suffix =
      (base.find? dataType suffix).or (extra.find? fun descriptor =>
        descriptor.dataType == dataType && descriptor.suffix == suffix) := by
  rw [Catalog.find?, h, List.find?_append, Catalog.find?]

/-- An attribute of the other catalog is the same attribute. -/
theorem Extends.get?_of_mem (h : catalog.Extends base extra) {suffix : String}
    (mem : suffix ∈ base.descriptors.map (·.suffix)) : catalog.get? suffix = base.get? suffix := by
  rw [h.get?]
  cases found : base.get? suffix with
  | none => exact absurd mem (get?_eq_none_iff.mp found)
  | some descriptor => rfl

end Catalog

namespace ResourceConfig

open Catalog

variable {τ σ : Type} {catalog base : Catalog} {extra : List Descriptor}

/-! ### Another time -/

theorem entryItem_restamp (f : τ → σ) (catalog : Catalog) (now : τ) (entry : String × Json) :
    entryItem catalog (f now) entry = (entryItem catalog now entry).map (Item.restamp f) := by
  unfold entryItem
  cases catalog.get? entry.1 with
  | none => rfl
  | some descriptor =>
    have same := Item.restamp_write f (Item.new descriptor) (.value (.ofJson entry.2)) now
    rw [Item.restamp_new] at same
    dsimp only
    rw [same]
    obtain ⟨accepted, item⟩ := (Item.new descriptor).write (.value (.ofJson entry.2)) now
    cases accepted <;> rfl

/-- **When a resource is built shows in its instants only.** -/
theorem build_restamp (f : τ → σ) (catalog : Catalog) (now : τ) (config : ResourceConfig) :
    config.build catalog (f now) = (config.build catalog now).map (Resource.restamp f) := by
  by_cases known : config.path ∈ EntityKind.all.map EntityKind.path
  · rw [build_of_known known, build_of_known known, funext (entryItem_restamp f catalog now),
      mapM_map]
    cases config.items.entries.mapM (entryItem catalog now) <;> rfl
  · rw [build_of_unknown known, build_of_unknown known]
    rfl

/-! ### More attributes -/

theorem entryItem_of_extends (h : catalog.Extends base extra) {now : τ} {entry : String × Json}
    {item : Item τ} (written : entryItem base now entry = .ok item) :
    entryItem catalog now entry = .ok item := by
  have registered : entry.1 ∈ base.descriptors.map (·.suffix) := by
    by_contra unknown
    rw [entryItem, get?_eq_none_iff.mpr unknown] at written
    contradiction
  rw [entryItem, h.get?_of_mem registered]
  exact written

theorem build_of_extends (h : catalog.Extends base extra) {now : τ} {config : ResourceConfig}
    {resource : Resource τ} (built : config.build base now = .ok resource) :
    config.build catalog now = .ok resource := by
  by_cases known : config.path ∈ EntityKind.all.map EntityKind.path
  · rw [build_of_known known] at built ⊢
    cases result : config.items.entries.mapM (entryItem base now) with
    | error e =>
      rw [result] at built
      contradiction
    | ok items =>
      rw [mapM_of_mapM_eq_ok (fun _ _ => entryItem_of_extends h) result, ← result]
      exact built
  · rw [build_of_unknown known] at built
    contradiction

theorem build_eq_of_extends (h : catalog.Extends base extra) {config : ResourceConfig}
    (registered : ∀ entry ∈ config.items.entries, entry.1 ∈ base.descriptors.map (·.suffix))
    (now : τ) : config.build catalog now = config.build base now := by
  by_cases known : config.path ∈ EntityKind.all.map EntityKind.path
  · rw [build_of_known known, build_of_known known]
    congr 1
    apply mapM_congr
    intro entry mem
    rw [entryItem, entryItem, h.get?_of_mem (registered entry mem)]
  · rw [build_of_unknown known, build_of_unknown known]

/-- **Attributes beside the built-in ones take nothing away from them.** A key is classified as
without them, and only if that gives nothing by the first of them whose suffix the key ends with;
what is found by its suffix, with or without a type, is found in the same way. A resource that can
be built from the built-in attributes is the same with the others, and one that needs no others
comes to the same result, errors included. The two may be built at different times, which their
instants show and nothing else. -/
theorem builtinWith_conservative {extra : List Descriptor} {catalog : Catalog}
    (h : builtinWith extra = .ok catalog) :
    (∀ key, catalog.lookup? key = (builtin.lookup? key).or (extra.find? (·.matchesKey key))) ∧
    (∀ suffix, catalog.get? suffix =
      (builtin.get? suffix).or (extra.find? fun descriptor => descriptor.suffix == suffix)) ∧
    (∀ dataType suffix, catalog.find? dataType suffix =
      (builtin.find? dataType suffix).or (extra.find? fun descriptor =>
        descriptor.dataType == dataType && descriptor.suffix == suffix)) ∧
    ∀ (config : ResourceConfig) (now later : τ),
      (∀ resource, config.build builtin now = .ok resource →
        config.build catalog now = .ok resource ∧
        config.build catalog later = .ok (resource.restamp fun _ => later)) ∧
      ((∀ entry ∈ config.items.entries, entry.1 ∈ builtin.descriptors.map (·.suffix)) →
        config.build catalog now = config.build builtin now ∧
        config.build catalog later =
          (config.build builtin now).map (Resource.restamp fun _ => later)) := by
  have extends' := extends_of_builtinWith h
  refine ⟨extends'.lookup?, extends'.get?, extends'.find?, fun config now later => ?_⟩
  have again := build_restamp (fun _ => later) catalog now config
  refine ⟨fun resource built => ?_, fun registered => ?_⟩
  · have same := build_of_extends extends' built
    rw [again, same]
    exact ⟨rfl, rfl⟩
  · have same := build_eq_of_extends extends' registered now
    rw [again, same]
    exact ⟨rfl, rfl⟩

/-- An attribute whose suffix goes on where a built-in one ends, and one whose suffix ends with a
built-in one. -/
def moreAttributes : List Descriptor :=
  [⟨"state/on/since", .time, 0, 0⟩, ⟨"second/state/on", .bool, 0, 0⟩]

/-- A light that is on. -/
def lightConfig : ResourceConfig where
  path := "/lights"
  items := .ofList [("state/on", .bool true)]

theorem builtinWith_conservative_moreAttributes :
    ∃ catalog, builtinWith moreAttributes = .ok catalog ∧
      catalog.lookup? "second/state/on" = builtin.get? "state/on" ∧
      catalog.get? "state/on/since" = some ⟨"state/on/since", .time, 0, 0⟩ ∧
      ∃ resource, lightConfig.build builtin 3 = .ok resource ∧
        lightConfig.build catalog 5 = .ok (resource.restamp fun _ => 5) := by
  have distinct : ((builtinAttributes ++ moreAttributes).map (·.suffix)).Nodup := by
    rw [List.map_append]
    exact List.nodup_append.mpr ⟨nodup_builtinAttributes, by decide, by decide +kernel⟩
  have made : builtinWith moreAttributes = .ok ⟨_, distinct⟩ := ofDescriptors_eq_ok_iff.mpr rfl
  obtain ⟨lookups, gets, _, builds⟩ := builtinWith_conservative made
  refine ⟨_, made, ?_, ?_, ?_⟩
  · rw [lookups]
    decide +kernel
  · rw [gets]
    decide +kernel
  · have accepted : (lightConfig.build builtin 3).isOk := by decide +kernel
    cases built : lightConfig.build builtin 3 with
    | error e =>
      rw [built] at accepted
      exact absurd accepted Bool.false_ne_true
    | ok resource => exact ⟨resource, rfl, ((builds lightConfig 3 5).1 resource built).2⟩

end ResourceConfig

end DeviceModel
