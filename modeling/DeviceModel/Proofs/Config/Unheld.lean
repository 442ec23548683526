import DeviceModel.Proofs.Config.Building
import DeviceModel.Proofs.Item.Reading

/-!
# Values that no item holds

An item holds a truth value, a number or a text. As the value of an item, an array or an object
becomes null, and writing null is accepted by every item and leaves it without a value. So an array
or an object is never refused: the resource is the one that is built with null in its place
(`build_scalars`), and the item is there but holds nothing.

Only these values are lost. Every other one is held by its item or refused, as `build_valued` says.
-/

namespace DeviceModel

namespace Json

/-- Whether a value is one that an item may hold. -/
def isScalar : Json → Bool
  | null | array _ | object _ => false
  | bool _ | integer _ | real _ | string _ => true

/-- The value if an item may hold it, and null if not. -/
def scalar (value : Json) : Json :=
  if value.isScalar then value else null

end Json

namespace Value

theorem ofJson_eq_null_iff {json : Json} : ofJson json = .null ↔ json.isScalar = false := by
  cases json with
  | integer n =>
    rw [ofJson]
    cases fitInt64? n <;> simp [Json.isScalar]
  | _ => simp [ofJson, Json.isScalar]

end Value

namespace ResourceConfig

open Resource

variable {τ : Type} {catalog : Catalog} {now : τ}

/-- The configuration with null in place of every array and every object. -/
def scalars (config : ResourceConfig) : ResourceConfig where
  path := config.path
  items := config.items.map Json.scalar

/-! ### One entry -/

/-- What no item may hold leaves a new item of the attribute, which holds nothing. -/
theorem entryItem_of_not_isScalar {suffix : String} {raw : Json} (h : raw.isScalar = false) :
    entryItem catalog now (suffix, raw) =
      match catalog.get? suffix with
      | none => .error (.unknownAttribute suffix)
      | some descriptor => .ok (.new descriptor) := by
  rw [entryItem, Value.ofJson_eq_null_iff.mpr h]
  rfl

theorem entryItem_scalar (suffix : String) (raw : Json) :
    entryItem catalog now (suffix, raw.scalar) = entryItem catalog now (suffix, raw) := by
  cases h : raw.isScalar with
  | true => rw [Json.scalar, if_pos h]
  | false =>
    have null : raw.scalar = .null := by rw [Json.scalar, h, if_neg Bool.false_ne_true]
    rw [null, entryItem_of_not_isScalar h, entryItem_of_not_isScalar rfl]

/-- The item of an entry holds a value exactly if the value of the entry is one that it may hold. -/
theorem hasValue_of_yields {suffix : String} {raw : Json} {item : Item τ}
    (h : Yields catalog now (suffix, raw) (.ok item)) : item.hasValue = raw.isScalar := by
  cases h with
  | written _ accepted =>
    rw [Item.hasValue_write accepted, Bool.eq_iff_iff, bne_iff_ne, ne_eq, Item.Write.value.injEq,
      Value.ofJson_eq_null_iff, Bool.not_eq_false]

/-- What is refused is a value that some item may hold. -/
theorem isScalar_of_invalidValue {entry : String × Json} {suffix : String} {raw : Json}
    (h : entryItem catalog now entry = .error (.invalidValue suffix raw)) : raw.isScalar := by
  obtain ⟨key, value⟩ := entry
  cases scalar : value.isScalar with
  | true =>
    rcases (yields_iff.mpr h).error_cases with he | he
    · contradiction
    · rw [(Error.invalidValue.inj he).2, scalar]
  | false =>
    rw [entryItem_of_not_isScalar scalar] at h
    split at h
    · exact absurd (Except.error.inj h) nofun
    · contradiction

/-! ### A whole resource -/

theorem build_scalars (catalog : Catalog) (now : τ) (config : ResourceConfig) :
    config.scalars.build catalog now = config.build catalog now := by
  by_cases known : config.path ∈ EntityKind.all.map EntityKind.path
  · have known' : config.scalars.path ∈ EntityKind.all.map EntityKind.path := known
    have entries : config.scalars.items.entries =
        config.items.entries.map fun entry => (entry.1, entry.2.scalar) := rfl
    have same : config.scalars.items.entries.mapM (entryItem catalog now) =
        config.items.entries.mapM (entryItem catalog now) := by
      rw [entries, List.mapM_map]
      exact mapM_congr fun entry _ => entryItem_scalar entry.1 entry.2
    rw [build_of_known known', same, build_of_known known]
    rfl
  · have unknown : config.scalars.path ∉ EntityKind.all.map EntityKind.path := known
    rw [build_of_unknown known, build_of_unknown unknown]
    rfl

/-- Every entry of a configuration that can be built has its item. -/
theorem Builds.exists_item {config : ResourceConfig} {resource : Resource τ}
    (h : Builds catalog now config (.ok resource)) {entry : String × Json}
    (mem : entry ∈ config.items.entries) :
    ∃ item, resource.item? entry.1 = some item ∧ Yields catalog now entry (.ok item) := by
  have distinct : resource.Distinct := by
    rw [Distinct, h.map_suffix]
    exact config.items.ascending.nodup_keys
  cases h with
  | built _ traverses =>
    cases traverses with
    | all each =>
      obtain ⟨item, itemMem, yields⟩ := exists_mem_of_forall₂ each entry mem
      exact ⟨item, (item?_eq_some_iff distinct).mpr ⟨itemMem, yields.suffix⟩, yields⟩

theorem Builds.isScalar_of_invalidValue {config : ResourceConfig} {suffix : String} {raw : Json}
    (h : Builds catalog now config
      (.error (.invalidValue suffix raw) : Except Error (Resource τ))) : raw.isScalar := by
  cases h with
  | failed _ traverses =>
    cases traverses with
    | stopped _ _ failed => exact ResourceConfig.isScalar_of_invalidValue (yields_iff.mp failed)

/-- **Which values of a configuration are held.** Arrays and objects count as null: a resource is
built as if null stood in their place. In a resource that is built every entry has its item, which
holds a value exactly if the entry has one that an item may hold, and is as new if not. No other
value is refused. -/
theorem build_valued (catalog : Catalog) (now : τ) (config : ResourceConfig) :
    config.build catalog now = config.scalars.build catalog now ∧
    (∀ resource, config.build catalog now = .ok resource →
      ∀ suffix raw, (suffix, raw) ∈ config.items.entries →
        ∃ item, resource.item? suffix = some item ∧ (item.hasValue ↔ raw.isScalar) ∧
          (raw.isScalar = false → item = .new item.descriptor)) ∧
    ∀ suffix raw, config.build catalog now = .error (.invalidValue suffix raw) → raw.isScalar := by
  refine ⟨(build_scalars catalog now config).symm, fun resource built suffix raw mem => ?_,
    fun suffix raw refused => (builds_iff.mpr refused).isScalar_of_invalidValue⟩
  obtain ⟨item, found, yields⟩ := (builds_iff.mpr built).exists_item mem
  refine ⟨item, found, by rw [hasValue_of_yields yields], fun notScalar => ?_⟩
  have result := yields_iff.mp yields
  rw [entryItem_of_not_isScalar notScalar] at result
  split at result
  · contradiction
  · obtain rfl := Except.ok.inj result
    rfl

/-- A point in time that is written as such and not as a text, which makes it an object. -/
def dateTimeConfig : ResourceConfig where
  path := "/sensors"
  items := .ofList
    [("state/lastupdated", .object [("$__toml_private_datetime", .string "2024-01-01T00:00:00")])]

/-- The resource is built without an error, and the item does not hold the point in time. -/
theorem date_time_not_held :
    ((dateTimeConfig.build .builtin ()).toOption.bind (·.item? "state/lastupdated")).map
      Item.hasValue = some false := by
  decide +kernel

end ResourceConfig

end DeviceModel
