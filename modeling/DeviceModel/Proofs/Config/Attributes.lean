import DeviceModel.Config.Basic
import DeviceModel.Proofs.DataType
import DeviceModel.Proofs.Item.Writing
import DeviceModel.Proofs.Traversal

/-!
# Declared attributes

A declared attribute describes one descriptor, or something is wrong with it: no type has its name,
or, if one has, its range contains no number (`Describes`). The declared attributes are gone through
in order, and the first one with something wrong decides the error (`traverses_describes_iff`).

`descriptors_exact` says the same by the places in the list. With it goes that the range of a
descriptor that is described is never empty: an attribute that is configured has an item that takes
some number.
-/

namespace DeviceModel

namespace Descriptor

variable {descriptor : Descriptor}

/-- A range whose bounds are in order contains the lower one. -/
theorem exists_accepts (order : descriptor.least ≤ descriptor.greatest) :
    ∃ n, descriptor.accepts n :=
  ⟨descriptor.least, accepts_iff.mpr (Or.inr ⟨Int64.le_refl _, order⟩)⟩

theorem accepts_of_unchecked (unchecked : descriptor.least = 0 ∧ descriptor.greatest = 0)
    (n : Int64) : descriptor.accepts n :=
  accepts_iff.mpr (Or.inl unchecked)

theorem accepts_iff_of_checked (checked : ¬ (descriptor.least = 0 ∧ descriptor.greatest = 0))
    (n : Int64) : descriptor.accepts n ↔ descriptor.least ≤ n ∧ n ≤ descriptor.greatest :=
  accepts_iff.trans (or_iff_right checked)

end Descriptor

namespace AttributeConfig

/-- The least number that is declared, zero if there is none. -/
def low (declared : AttributeConfig) : Int64 :=
  declared.least.getD 0

/-- The greatest number that is declared, zero if there is none. -/
def high (declared : AttributeConfig) : Int64 :=
  declared.greatest.getD 0

/-- What a declared attribute comes to. -/
inductive Describes (declared : AttributeConfig) : Except Error Descriptor → Prop
  /-- The range is not looked at if there is no type. -/
  | unknownType : DataType.ofName? declared.typeName = none →
      Describes declared (.error (.unknownDataType declared.typeName))
  | emptyRange {type : DataType} : DataType.ofName? declared.typeName = some type →
      declared.high < declared.low →
      Describes declared (.error (.emptyRange declared.suffix declared.low declared.high))
  | described {type : DataType} : DataType.ofName? declared.typeName = some type →
      declared.low ≤ declared.high →
      Describes declared (.ok ⟨declared.suffix, type, declared.low, declared.high⟩)

theorem toDescriptor_of_unknown {declared : AttributeConfig}
    (unknown : DataType.ofName? declared.typeName = none) :
    declared.toDescriptor = .error (.unknownDataType declared.typeName) := by
  rw [toDescriptor, DataType.parse_of_ofName?_eq_none unknown]
  rfl

theorem toDescriptor_of_named {declared : AttributeConfig} {type : DataType}
    (named : DataType.ofName? declared.typeName = some type) :
    declared.toDescriptor =
      if declared.high < declared.low then
        .error (.emptyRange declared.suffix declared.low declared.high)
      else .ok ⟨declared.suffix, type, declared.low, declared.high⟩ := by
  rw [toDescriptor, DataType.parse_of_ofName?_eq_some named]
  rfl

theorem describes_toDescriptor (declared : AttributeConfig) :
    Describes declared declared.toDescriptor := by
  cases type : DataType.ofName? declared.typeName with
  | none =>
    rw [toDescriptor_of_unknown type]
    exact .unknownType type
  | some dataType =>
    rw [toDescriptor_of_named type]
    split
    next empty => exact .emptyRange type empty
    next order => exact .described type (Int64.not_lt.mp order)

theorem describes_iff {declared : AttributeConfig} {result : Except Error Descriptor} :
    Describes declared result ↔ declared.toDescriptor = result := by
  constructor
  · intro h
    cases h with
    | unknownType type => exact toDescriptor_of_unknown type
    | emptyRange type empty => rw [toDescriptor_of_named type, if_pos empty]
    | described type order => rw [toDescriptor_of_named type, if_neg (Int64.not_lt.mpr order)]
  · rintro rfl
    exact declared.describes_toDescriptor

/-- What is wrong with a declared attribute is its type or its range. -/
theorem Describes.error_cases {declared : AttributeConfig} {e : Error}
    (h : Describes declared (.error e)) :
    e = .unknownDataType declared.typeName ∨
      e = .emptyRange declared.suffix declared.low declared.high := by
  cases h with
  | unknownType _ => exact Or.inl rfl
  | emptyRange _ _ => exact Or.inr rfl

theorem toDescriptor_eq_ok_iff {declared : AttributeConfig} {descriptor : Descriptor} :
    declared.toDescriptor = .ok descriptor ↔
      descriptor.suffix = declared.suffix ∧
      DataType.ofName? declared.typeName = some descriptor.dataType ∧
      descriptor.least = declared.low ∧ descriptor.greatest = declared.high ∧
      declared.low ≤ declared.high := by
  rw [← describes_iff]
  constructor
  · intro h
    cases h with
    | described type order => exact ⟨rfl, type, rfl, rfl, order⟩
  · obtain ⟨suffix, dataType, least, greatest⟩ := descriptor
    rintro ⟨rfl, type, rfl, rfl, order⟩
    exact .described type order

theorem exists_toDescriptor_eq_ok_iff {declared : AttributeConfig} :
    (∃ descriptor, declared.toDescriptor = .ok descriptor) ↔
      (∃ type, DataType.ofName? declared.typeName = some type) ∧ declared.low ≤ declared.high := by
  constructor
  · rintro ⟨descriptor, described⟩
    obtain ⟨_, type, _, _, order⟩ := toDescriptor_eq_ok_iff.mp described
    exact ⟨⟨_, type⟩, order⟩
  · rintro ⟨⟨type, named⟩, order⟩
    exact ⟨_, describes_iff.mp (.described named order)⟩

theorem toDescriptor_eq_error_iff {declared : AttributeConfig} {e : Error} :
    declared.toDescriptor = .error e ↔
      (DataType.ofName? declared.typeName = none ∧ e = .unknownDataType declared.typeName) ∨
      ((∃ type, DataType.ofName? declared.typeName = some type) ∧ declared.high < declared.low ∧
        e = .emptyRange declared.suffix declared.low declared.high) := by
  rw [← describes_iff]
  constructor
  · intro h
    cases h with
    | unknownType type => exact Or.inl ⟨type, rfl⟩
    | emptyRange type empty => exact Or.inr ⟨⟨_, type⟩, empty, rfl⟩
  · rintro (⟨type, rfl⟩ | ⟨⟨type, named⟩, empty, rfl⟩)
    · exact .unknownType type
    · exact .emptyRange named empty

end AttributeConfig

namespace Config

/-- **The declared attributes describe their descriptors in order**, or the first one with something
wrong decides the error. -/
theorem traverses_describes_iff {config : Config} {result : Except Error (List Descriptor)} :
    Traverses AttributeConfig.Describes config.attributes result ↔ config.descriptors = result :=
  traverses_iff_mapM (f := AttributeConfig.toDescriptor) fun _ _ => AttributeConfig.describes_iff

/-- **What comes of the declared attributes of a configuration.** There are descriptors exactly if
every one of them names a type and has its bounds in order, an absent bound being zero. Then each
descriptor has the suffix, the type and the bounds of the attribute in its place, and accepts some
number: all of 64 bits if both bounds are zero, and otherwise those from the one to the other.
Without descriptors the error is that of the first attribute of which this is not true, and it is
about the type if there is none, whatever the bounds are. -/
theorem descriptors_exact (config : Config) :
    ((∃ descriptors, config.descriptors = .ok descriptors) ↔
      ∀ declared ∈ config.attributes,
        (∃ type, DataType.ofName? declared.typeName = some type) ∧
          declared.low ≤ declared.high) ∧
    (∀ descriptors, config.descriptors = .ok descriptors →
      descriptors.length = config.attributes.length ∧
      ∀ (i : Nat) (declared : AttributeConfig) (descriptor : Descriptor),
        config.attributes[i]? = some declared → descriptors[i]? = some descriptor →
        descriptor.suffix = declared.suffix ∧
        DataType.ofName? declared.typeName = some descriptor.dataType ∧
        descriptor.least = declared.low ∧ descriptor.greatest = declared.high ∧
        (∃ n, descriptor.accepts n) ∧
        (declared.low = 0 ∧ declared.high = 0 → ∀ n, descriptor.accepts n) ∧
        (¬ (declared.low = 0 ∧ declared.high = 0) →
          ∀ n, descriptor.accepts n ↔ declared.low ≤ n ∧ n ≤ declared.high)) ∧
    (∀ e, config.descriptors = .error e ↔
      ∃ before declared after, config.attributes = before ++ declared :: after ∧
        (∀ earlier ∈ before,
          (∃ type, DataType.ofName? earlier.typeName = some type) ∧ earlier.low ≤ earlier.high) ∧
        ((DataType.ofName? declared.typeName = none ∧ e = .unknownDataType declared.typeName) ∨
          ((∃ type, DataType.ofName? declared.typeName = some type) ∧
            declared.high < declared.low ∧
            e = .emptyRange declared.suffix declared.low declared.high))) := by
  simp only [← AttributeConfig.exists_toDescriptor_eq_ok_iff,
    ← AttributeConfig.toDescriptor_eq_error_iff]
  refine ⟨exists_mapM_eq_ok_iff, fun descriptors all => ?_, fun e => mapM_eq_error_iff⟩
  obtain ⟨length, each⟩ := mapM_getElem? all
  refine ⟨length, fun i declared descriptor here there => ?_⟩
  obtain ⟨suffix, type, low, high, order⟩ :=
    AttributeConfig.toDescriptor_eq_ok_iff.mp (each i declared descriptor here there)
  rw [← low, ← high] at order ⊢
  exact ⟨suffix, type, rfl, rfl, Descriptor.exists_accepts order, Descriptor.accepts_of_unchecked,
    Descriptor.accepts_iff_of_checked⟩

end Config

end DeviceModel
