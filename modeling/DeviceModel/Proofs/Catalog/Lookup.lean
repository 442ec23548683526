import DeviceModel.Catalog.Basic
import DeviceModel.Proofs.Keyed

/-!
# Finding attributes in a catalog

The suffixes of a catalog are distinct, so an attribute is found by its suffix, or by its type and
suffix, exactly if it is registered.
-/

namespace DeviceModel.Catalog

theorem get?_eq_some_iff {catalog : Catalog} {suffix : String} {descriptor : Descriptor} :
    catalog.get? suffix = some descriptor ↔
      descriptor ∈ catalog.descriptors ∧ descriptor.suffix = suffix :=
  Keyed.find?_eq_some_iff catalog.nodup

theorem get?_eq_none_iff {catalog : Catalog} {suffix : String} :
    catalog.get? suffix = none ↔ suffix ∉ catalog.descriptors.map (·.suffix) := by
  simp [get?]

theorem find?_eq_some_iff {catalog : Catalog} {dataType : DataType} {suffix : String}
    {descriptor : Descriptor} :
    catalog.find? dataType suffix = some descriptor ↔
      descriptor ∈ catalog.descriptors ∧ descriptor.dataType = dataType ∧
        descriptor.suffix = suffix := by
  rw [find?, Keyed.find?_and_eq_some_iff catalog.nodup, beq_iff_eq]

theorem find?_eq_none_iff {catalog : Catalog} {dataType : DataType} {suffix : String} :
    catalog.find? dataType suffix = none ↔
      ∀ descriptor ∈ catalog.descriptors,
        ¬ (descriptor.dataType = dataType ∧ descriptor.suffix = suffix) := by
  rw [Option.eq_none_iff_forall_ne_some]
  constructor
  · intro h descriptor mem pair
    exact h descriptor (find?_eq_some_iff.mpr ⟨mem, pair⟩)
  · intro h descriptor found
    obtain ⟨mem, pair⟩ := find?_eq_some_iff.mp found
    exact h descriptor mem pair

end DeviceModel.Catalog
