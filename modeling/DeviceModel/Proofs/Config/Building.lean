import DeviceModel.Config.Basic
import DeviceModel.Proofs.Json.Entries
import DeviceModel.Proofs.Resource.Items
import DeviceModel.Proofs.Text.ByteOrder
import DeviceModel.Proofs.Traversal

/-!
# Building resources

A configured resource is built item by item in a resource that grows. Because the suffixes are
distinct, an item does not depend on those before it: every entry by itself leads to the item it
adds or to an error (`Yields`), and building goes through the entries until one fails (`Builds`).

The step is `addItem_eq`, for a resource without the item. A run follows by induction on the
entries (`foldlM_addItem_eq`), and `build_exact` says what building comes to. In particular the
catalog never disagrees with itself: an attribute that is found by its suffix is also found by this
suffix and the type that it has.
-/

namespace DeviceModel.ResourceConfig

open Resource

variable {τ : Type}

/-! ### One entry -/

/-- What an entry leads to: the new item of its attribute after the value is written, or an
error. -/
inductive Yields (catalog : Catalog) (now : τ) : String × Json → Except Error (Item τ) → Prop
  | unknown {suffix : String} {raw : Json} : suffix ∉ catalog.descriptors.map (·.suffix) →
      Yields catalog now (suffix, raw) (.error (.unknownAttribute suffix))
  | refused {descriptor : Descriptor} {raw : Json} : descriptor ∈ catalog.descriptors →
      ((Item.new descriptor).write (.value (.ofJson raw)) now).accepted = false →
      Yields catalog now (descriptor.suffix, raw) (.error (.invalidValue descriptor.suffix raw))
  | written {descriptor : Descriptor} {raw : Json} : descriptor ∈ catalog.descriptors →
      ((Item.new descriptor).write (.value (.ofJson raw)) now).accepted = true →
      Yields catalog now (descriptor.suffix, raw)
        (.ok ((Item.new descriptor).write (.value (.ofJson raw)) now).item)

/-- The item of an entry. -/
def entryItem (catalog : Catalog) (now : τ) (entry : String × Json) : Except Error (Item τ) :=
  match catalog.get? entry.1 with
  | none => .error (.unknownAttribute entry.1)
  | some descriptor =>
    let outcome := (Item.new descriptor).write (.value (.ofJson entry.2)) now
    if outcome.accepted then .ok outcome.item else .error (.invalidValue entry.1 entry.2)

variable {catalog : Catalog} {now : τ}

theorem yields_entryItem (entry : String × Json) :
    Yields catalog now entry (entryItem catalog now entry) := by
  obtain ⟨suffix, raw⟩ := entry
  unfold entryItem
  cases h : catalog.get? suffix with
  | none => exact .unknown (Catalog.get?_eq_none_iff.mp h)
  | some descriptor =>
    obtain ⟨mem, rfl⟩ := Catalog.get?_eq_some_iff.mp h
    dsimp only
    split
    next accepted => exact .written mem accepted
    next refused => exact .refused mem (eq_false_of_ne_true refused)

theorem yields_iff {entry : String × Json} {result : Except Error (Item τ)} :
    Yields catalog now entry result ↔ entryItem catalog now entry = result := by
  constructor
  · intro h
    cases h with
    | unknown absent => simp only [entryItem, Catalog.get?_eq_none_iff.mpr absent]
    | refused mem refused =>
      simp [entryItem, Catalog.get?_eq_some_iff.mpr ⟨mem, rfl⟩, refused]
    | written mem accepted =>
      simp [entryItem, Catalog.get?_eq_some_iff.mpr ⟨mem, rfl⟩, accepted]
  · rintro rfl
    exact yields_entryItem entry

/-- The item has the suffix of its entry. -/
theorem Yields.suffix {entry : String × Json} {item : Item τ}
    (h : Yields catalog now entry (.ok item)) : item.suffix = entry.1 := by
  cases h with
  | written mem _ => rw [Item.suffix, Item.descriptor_write]; rfl

/-! ### One more item -/

/-- In a resource without the item, adding it is a matter of the entry alone. -/
theorem addItem_eq {resource : Resource τ} {suffix : String} (absent : resource.item? suffix = none)
    (raw : Json) :
    addItem catalog now resource suffix raw =
      (entryItem catalog now (suffix, raw)).map fun item =>
        { resource with items := resource.items ++ [item] } := by
  unfold addItem entryItem
  cases h : catalog.get? suffix with
  | none => rfl
  | some descriptor =>
    obtain ⟨mem, hs⟩ := Catalog.get?_eq_some_iff.mp h
    -- what is found by its suffix is also found by its type and suffix
    have registered : catalog.find? descriptor.dataType suffix = some descriptor :=
      Catalog.find?_eq_some_iff.mpr ⟨mem, rfl, hs⟩
    obtain ⟨slot, ensured, _, fresh⟩ := ensure_of_registered absent registered
    simp only [ensured, bind, Except.bind, fresh, put_of_ensure absent ensured]
    split <;> rfl

theorem foldlM_addItem_eq {entries : List (String × Json)} (distinct : (entries.map (·.1)).Nodup)
    {resource : Resource τ} (absent : ∀ key ∈ entries.map (·.1), resource.item? key = none) :
    entries.foldlM (fun resource entry => addItem catalog now resource entry.1 entry.2) resource =
      (entries.mapM (entryItem catalog now)).map fun items =>
        { resource with items := resource.items ++ items } := by
  induction entries generalizing resource with
  | nil => simp [pure, Except.pure, Except.map]
  | cons entry rest ih =>
    obtain ⟨suffix, raw⟩ := entry
    rw [List.map_cons, List.nodup_cons] at distinct
    rw [List.map_cons, List.forall_mem_cons] at absent
    rw [List.foldlM_cons, addItem_eq absent.1, List.mapM_cons]
    cases head : entryItem catalog now (suffix, raw) with
    | error e => rfl
    | ok item =>
      have hs : item.suffix = suffix := (yields_iff.mpr head).suffix
      have others (key : String) (mem : key ∈ rest.map (·.1)) :
          item? { resource with items := resource.items ++ [item] } key = none := by
        have other : item.suffix ≠ key := by
          rintro rfl
          exact distinct.1 (hs ▸ mem)
        rw [item?_append, absent.2 key mem, if_neg other]
        rfl
      have tail := ih distinct.2 others
      simp only [Except.map, bind, Except.bind] at tail ⊢
      rw [tail]
      cases rest.mapM (entryItem catalog now) with
      | error e => rfl
      | ok items => simp [pure, Except.pure]

/-! ### A whole resource -/

/-- What building comes to: the items that the entries lead to, in their order, unless there is no
kind of entity with the path or an entry leads to an error. -/
inductive Builds (catalog : Catalog) (now : τ) (config : ResourceConfig) :
    Except Error (Resource τ) → Prop
  | unknownPath : config.path ∉ EntityKind.all.map EntityKind.path →
      Builds catalog now config (.error (.unknownPath config.path))
  | failed {e : Error} : config.path ∈ EntityKind.all.map EntityKind.path →
      Traverses (Yields catalog now) config.items.entries (.error e) →
      Builds catalog now config (.error e)
  | built {items : List (Item τ)} : config.path ∈ EntityKind.all.map EntityKind.path →
      Traverses (Yields catalog now) config.items.entries (.ok items) →
      Builds catalog now config (.ok { path := config.path, items })

theorem ofPath?_eq_none_iff {path : String} :
    EntityKind.ofPath? path = none ↔ path ∉ EntityKind.all.map EntityKind.path := by
  simp [EntityKind.ofPath?]

theorem traverses_iff {entries : List (String × Json)} {result : Except Error (List (Item τ))} :
    Traverses (Yields catalog now) entries result ↔
      entries.mapM (entryItem catalog now) = result :=
  traverses_iff_mapM (f := entryItem catalog now) fun _ _ => yields_iff

theorem build_of_unknown {config : ResourceConfig}
    (unknown : config.path ∉ EntityKind.all.map EntityKind.path) :
    config.build catalog now = .error (.unknownPath config.path) := by
  simp only [build, ofPath?_eq_none_iff.mpr unknown]

theorem build_of_known {config : ResourceConfig}
    (known : config.path ∈ EntityKind.all.map EntityKind.path) :
    config.build catalog now =
      (config.items.entries.mapM (entryItem catalog now)).map fun items =>
        { path := config.path, items } := by
  cases h : EntityKind.ofPath? config.path with
  | none => exact absurd known (ofPath?_eq_none_iff.mp h)
  | some kind =>
    have path : kind.path = config.path := by simpa using List.find?_some h
    simp only [build, h]
    rw [← path]
    exact foldlM_addItem_eq config.items.ascending.nodup_keys fun _ _ => rfl

theorem builds_build (config : ResourceConfig) :
    Builds catalog now config (config.build catalog now) := by
  by_cases known : config.path ∈ EntityKind.all.map EntityKind.path
  · rw [build_of_known known]
    cases result : config.items.entries.mapM (entryItem catalog now) with
    | error e => exact .failed known (traverses_iff.mpr result)
    | ok items => exact .built known (traverses_iff.mpr result)
  · rw [build_of_unknown known]
    exact .unknownPath known

theorem builds_iff {config : ResourceConfig} {result : Except Error (Resource τ)} :
    Builds catalog now config result ↔ config.build catalog now = result := by
  constructor
  · intro h
    cases h with
    | unknownPath unknown => exact build_of_unknown unknown
    | failed known traverses =>
      rw [build_of_known known, traverses_iff.mp traverses]
      rfl
    | built known traverses =>
      rw [build_of_known known, traverses_iff.mp traverses]
      rfl
  · rintro rfl
    exact builds_build config

theorem traverses_builds_iff {config : Config} {result : Except Error (List (Resource τ))} :
    Traverses (Builds catalog now) config.resources result ↔
      config.buildResources catalog now = result :=
  traverses_iff_mapM (f := ResourceConfig.build catalog now) fun _ _ => builds_iff

/-! ### Errors and suffixes -/

/-- An error of an entry names its attribute. -/
theorem Yields.error_cases {entry : String × Json} {e : Error}
    (h : Yields catalog now entry (.error e)) :
    e = .unknownAttribute entry.1 ∨ e = .invalidValue entry.1 entry.2 := by
  cases h with
  | unknown _ => exact Or.inl rfl
  | refused _ _ => exact Or.inr rfl

/-- Building fails because of the path, or because of an entry. -/
theorem Builds.error_cases {config : ResourceConfig} {e : Error}
    (h : Builds catalog now config (.error e)) :
    e = .unknownPath config.path ∧ config.path ∉ EntityKind.all.map EntityKind.path ∨
      ∃ entry ∈ config.items.entries, e = .unknownAttribute entry.1 ∨
        e = .invalidValue entry.1 entry.2 := by
  cases h with
  | unknownPath unknown => exact Or.inl ⟨rfl, unknown⟩
  | failed _ traverses =>
    cases traverses with
    | stopped split _ failed =>
      exact Or.inr ⟨_, split ▸ List.mem_append_right _ List.mem_cons_self, failed.error_cases⟩

theorem map_suffix_of_yields {entries : List (String × Json)} {items : List (Item τ)}
    (each : List.Forall₂ (fun entry item => Yields catalog now entry (.ok item)) entries items) :
    items.map Item.suffix = entries.map (·.1) := by
  induction each with
  | nil => rfl
  | cons first _ ih => rw [List.map_cons, List.map_cons, first.suffix, ih]

theorem Builds.map_suffix {config : ResourceConfig} {resource : Resource τ}
    (h : Builds catalog now config (.ok resource)) :
    resource.items.map Item.suffix = config.items.entries.map (·.1) := by
  cases h with
  | built _ traverses =>
    cases traverses with
    | all each => exact map_suffix_of_yields each

/-! ### What building comes to -/

/-- **Building has the result that its entries lead to**, in ascending order of the bytes of their
suffixes, and building all resources has the results of the resources in their order. The paths are
those of the four kinds of entities. -/
theorem build_exact (catalog : Catalog) (now : τ) :
    EntityKind.all.map EntityKind.path = ["/sensors", "/lights", "/groups", "/config"] ∧
    (∀ (config : ResourceConfig) (result : Except Error (Resource τ)),
      config.build catalog now = result ↔ Builds catalog now config result) ∧
    (∀ (config : Config) (result : Except Error (List (Resource τ))),
      config.buildResources catalog now = result ↔
        Traverses (Builds catalog now) config.resources result) ∧
    ∀ config : ResourceConfig,
      ((∃ path, config.build catalog now = .error (.unknownPath path)) ↔
        config.path ∉ EntityKind.all.map EntityKind.path) ∧
      (∀ dataType suffix, config.build catalog now ≠ .error (.unregistered dataType suffix)) ∧
      (∀ resource, config.build catalog now = .ok resource →
        resource.items.map Item.suffix = config.items.entries.map (·.1)) ∧
      config.items.entries.Pairwise (fun a b => Text.bytes a.1 < Text.bytes b.1) ∧
      ∀ suffix raw, (Error.invalidValue suffix raw).message =
        "Invalid value for " ++ suffix ++ ": " ++ raw.text := by
  refine ⟨rfl, fun config result => builds_iff.symm, fun config result => ?_,
    fun config => ⟨⟨?_, fun unknown => ⟨_, build_of_unknown unknown⟩⟩, ?_, ?_, ?_, fun _ _ => rfl⟩⟩
  · exact (traverses_iff_mapM (f := ResourceConfig.build catalog now) fun _ _ => builds_iff).symm
  · rintro ⟨path, failed⟩
    rcases (builds_iff.mpr failed).error_cases with ⟨_, unknown⟩ | ⟨_, _, he | he⟩
    · exact unknown
    · contradiction
    · contradiction
  · intro dataType suffix failed
    rcases (builds_iff.mpr failed).error_cases with ⟨he, _⟩ | ⟨_, _, he | he⟩ <;> contradiction
  · exact fun resource built => (builds_iff.mpr built).map_suffix
  · exact config.items.ascending.imp Text.bytes_lt_bytes

/-- A sensor with a text and a number. -/
def hallConfig : ResourceConfig where
  path := "/sensors"
  items := .ofList [("state/temperature", .integer 2150), ("attr/name", .string "hall")]

/-- Both items are built, in the order of their suffixes, and hold what was written. -/
theorem build_exact_hallConfig :
    ∃ resource : Resource Unit, hallConfig.build .builtin () = .ok resource ∧
      resource.path = "/sensors" ∧
      resource.items.map Item.suffix = ["attr/name", "state/temperature"] ∧
      resource.items.map Item.toText = ["hall", ""] ∧
      resource.items.map (fun item => item.number.toInt) = [0, 2150] ∧
      resource.items.map Item.hasValue = [true, true] := by
  have name : (⟨"attr/name", .string, 0, 0⟩ : Descriptor) ∈ Catalog.builtin.descriptors := by
    decide +kernel
  have temperature : (⟨"state/temperature", .int16, -27315, 32767⟩ : Descriptor) ∈
      Catalog.builtin.descriptors := by
    decide +kernel
  have text : Yields Catalog.builtin () ("attr/name", .string "hall") _ :=
    .written name (by decide +kernel)
  have number : Yields Catalog.builtin () ("state/temperature", .integer 2150) _ :=
    .written temperature (by decide +kernel)
  have builds : Builds Catalog.builtin () hallConfig (.ok _) :=
    .built (by decide) (.all (.cons text (.cons number .nil)))
  exact ⟨_, ((build_exact Catalog.builtin ()).2.1 _ _).mpr builds, rfl, by decide +kernel,
    by decide +kernel, by decide +kernel, by decide +kernel⟩

end DeviceModel.ResourceConfig
