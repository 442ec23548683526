import DeviceModel.Device.Summary
import DeviceModel.Proofs.Resource.Shown

/-!
# What a summary reveals

Two resources agree if they have the same path, the same text of `attr/uniqueid` and the same shown
items (`Agree`); what they have beside these is arbitrary. The JSON forms of resources that agree
are the same (`Agree.toJson`), so the summaries of two lists that agree place by place have the same
entries. But the identity of a device is read from the texts of the items, shown or not, and a text
stays where it is when its item is hidden or loses its value: `hidden_texts_show`.

The summaries are the same if the identity texts are, and so they are if none of them stands in an
item that is not shown (`summaries_of_agree`).
-/

namespace DeviceModel

namespace Resource

variable {τ : Type}

/-- Two resources differ at most in items that are not shown. The order of the shown items may
differ if none of them hides another. -/
structure Agree (a b : Resource τ) : Prop where
  path : a.path = b.path
  uniqueId : a.toText "attr/uniqueid" = b.toText "attr/uniqueid"
  shown : a.shown = b.shown ∨ a.Compatible ∧ b.shown.Perm a.shown

theorem Agree.toJson {a b : Resource τ} (h : a.Agree b) : a.toJson = b.toJson := by
  rw [toJson_eq_fill, toJson_eq_fill]
  rcases h.shown with same | ⟨compatible, perm⟩
  · rw [same]
  · exact (fill_perm (compatible_iff_agreeing.mp compatible) (perm.map placedOf)).symm

theorem Agree.mem_shown_iff {a b : Resource τ} (h : a.Agree b) {item : Item τ} :
    item ∈ a.shown ↔ item ∈ b.shown := by
  rcases h.shown with same | ⟨_, perm⟩
  · rw [same]
  · exact perm.mem_iff.symm

/-- The text of an attribute is empty unless its item is shown. -/
def ShowsText (resource : Resource τ) (suffix : String) : Prop :=
  ∀ item, resource.item? suffix = some item → item.toText ≠ "" → item.isPublic ∧ item.hasValue

theorem toText_eq_of_shown {resource : Resource τ} (distinct : resource.Distinct) {item : Item τ}
    (mem : item ∈ resource.shown) : resource.toText item.suffix = item.toText := by
  have found : resource.item? item.suffix = some item :=
    (item?_eq_some_iff distinct).mpr ⟨List.mem_of_mem_filter mem, rfl⟩
  rw [toText, found, Option.elim_some]

theorem exists_shown_of_toText {resource : Resource τ} {suffix : String}
    (shows : resource.ShowsText suffix) (text : resource.toText suffix ≠ "") :
    ∃ item ∈ resource.shown, item.suffix = suffix := by
  cases found : resource.item? suffix with
  | none =>
    rw [toText, found] at text
    exact absurd rfl text
  | some item =>
    rw [toText, found] at text
    exact ⟨item, mem_shown_iff.mpr ⟨List.mem_of_find?_eq_some found, shows item found text⟩,
      suffix_of_item? found⟩

/-- A text that only shown items can have is the same in resources that agree. -/
theorem Agree.toText {a b : Resource τ} (h : a.Agree b) (distinct : a.Distinct)
    (distinct' : b.Distinct) {suffix : String} (shows : a.ShowsText suffix)
    (shows' : b.ShowsText suffix) : a.toText suffix = b.toText suffix := by
  have shared {item : Item τ} (mem : item ∈ a.shown) (mem' : item ∈ b.shown) :
      a.toText item.suffix = b.toText item.suffix := by
    rw [toText_eq_of_shown distinct mem, toText_eq_of_shown distinct' mem']
  by_cases text : a.toText suffix = ""
  · by_cases text' : b.toText suffix = ""
    · rw [text, text']
    · obtain ⟨item, mem, rfl⟩ := exists_shown_of_toText shows' text'
      exact shared (h.mem_shown_iff.mpr mem) mem
  · obtain ⟨item, mem, rfl⟩ := exists_shown_of_toText shows text
    exact shared mem (h.mem_shown_iff.mp mem)

end Resource

namespace DeviceSummary

open Resource

variable {τ : Type}

/-- The attributes that a summary takes from the first resource with a text for them. -/
def identitySuffixes : List String :=
  ["attr/manufacturername", "attr/modelid", "attr/swversion"]

/-- No identity text stands in an item that is not shown. -/
structure ShowsIdentity (resource : Resource τ) : Prop where
  distinct : resource.Distinct
  shows : ∀ suffix ∈ identitySuffixes, resource.ShowsText suffix

theorem map_eq_of_forall₂ {α β : Type} {f : α → β} {as bs : List α}
    (same : List.Forall₂ (fun a b => f a = f b) as bs) : as.map f = bs.map f := by
  induction same with
  | nil => rfl
  | cons head _ ih => rw [List.map_cons, List.map_cons, head, ih]

theorem firstText?_congr {suffix : String} {as bs : List (Resource τ)}
    (same : List.Forall₂ (fun a b => a.toText suffix = b.toText suffix) as bs) :
    firstText? suffix as = firstText? suffix bs := by
  rw [firstText?, firstText?, map_eq_of_forall₂ same]

section

variable {R : Resource τ → Resource τ → Prop} (agree : ∀ a b, R a b → a.Agree b)
  {as bs : List (Resource τ)} (related : List.Forall₂ R as bs)
include agree related

theorem forall₂_own (uniqueId : String) :
    List.Forall₂ R (as.filter (belongs uniqueId)) (bs.filter (belongs uniqueId)) := by
  refine List.rel_filter (fun {a b} h => ?_) related
  simp only [belongs, (agree a b h).uniqueId]

theorem sub_collect (uniqueId : String) : (collect uniqueId as).sub = (collect uniqueId bs).sub :=
  map_eq_of_forall₂ ((forall₂_own agree related uniqueId).imp fun a b h => (agree a b h).toJson)

theorem collect_eq (texts : ∀ a b, R a b → ∀ suffix ∈ identitySuffixes,
    a.toText suffix = b.toText suffix) (uniqueId : String) :
    collect uniqueId as = collect uniqueId bs := by
  have own := forall₂_own agree related uniqueId
  have text (suffix : String) (mem : suffix ∈ identitySuffixes) :
      firstText? suffix (as.filter (belongs uniqueId)) =
        firstText? suffix (bs.filter (belongs uniqueId)) :=
    firstText?_congr (own.imp fun a b h => texts a b h suffix mem)
  have sub : (as.filter (belongs uniqueId)).map Resource.toJson =
      (bs.filter (belongs uniqueId)).map Resource.toJson := sub_collect agree related uniqueId
  simp only [collect, text "attr/manufacturername" (by decide), text "attr/modelid" (by decide),
    text "attr/swversion" (by decide), sub]

end

/-- **The entries of a summary do not depend on items that are not shown.** Its identity depends on
them only through the texts of the identity attributes: the summaries of resources that agree are
the same if these texts are, and they are if every one of them stands in a shown item. -/
theorem summaries_of_agree :
    (∀ (uniqueId : String) (as bs : List (Resource τ)), List.Forall₂ Agree as bs →
      (collect uniqueId as).uniqueId = (collect uniqueId bs).uniqueId ∧
      (collect uniqueId as).sub = (collect uniqueId bs).sub) ∧
    (∀ (uniqueId : String) (as bs : List (Resource τ)),
      List.Forall₂ (fun a b => a.Agree b ∧
        ∀ suffix ∈ identitySuffixes, a.toText suffix = b.toText suffix) as bs →
      collect uniqueId as = collect uniqueId bs) ∧
    ∀ (uniqueId : String) (as bs : List (Resource τ)),
      List.Forall₂ (fun a b => a.Agree b ∧ ShowsIdentity a ∧ ShowsIdentity b) as bs →
      collect uniqueId as = collect uniqueId bs := by
  refine ⟨fun uniqueId as bs related => ⟨rfl, ?_⟩, fun uniqueId as bs related => ?_,
    fun uniqueId as bs related => ?_⟩
  · exact sub_collect (fun a b => id) related uniqueId
  · exact collect_eq (fun a b => And.left) related (fun a b => And.right) uniqueId
  · refine collect_eq (fun a b => And.left) related (fun a b h suffix mem => ?_) uniqueId
    obtain ⟨agree, first, second⟩ := h
    exact agree.toText first.distinct second.distinct (first.shows suffix mem)
      (second.shows suffix mem)

/-! ### Texts that are not shown -/

/-- A resource with nothing but a unique id. -/
def plainOps : List (Resource.Op Unit) :=
  [.add .builtin .string "attr/uniqueid", .item "attr/uniqueid" (.write (.text "aa") ())]

/-- A resource with a hidden model and a version that was taken away again. -/
def secretOps : List (Resource.Op Unit) :=
  plainOps ++
    [.add .builtin .string "attr/modelid", .item "attr/modelid" (.write (.text "SML001") ()),
      .item "attr/modelid" (.setPublic false),
      .add .builtin .string "attr/swversion", .item "attr/swversion" (.write (.text "1.0") ()),
      .item "attr/swversion" (.write (.value .null) ())]

/-- A hidden text and a text without a value show in the identity. -/
theorem hidden_texts_show :
    let secret : Resource Unit := (Resource.new "/sensors").run secretOps
    let plain : Resource Unit := (Resource.new "/sensors").run plainOps
    secret.Agree plain ∧ secret.shown.map Item.suffix = ["attr/uniqueid"] ∧
      (collect "aa" [secret]).modelId = some "SML001" ∧
      (collect "aa" [secret]).swVersion = some "1.0" ∧
      (collect "aa" [plain]).modelId = none ∧ (collect "aa" [plain]).swVersion = none ∧
      collect "aa" [secret] ≠ collect "aa" [plain] := by
  intro secret plain
  have model : (collect "aa" [secret]).modelId = some "SML001" := by decide +kernel
  have noModel : (collect "aa" [plain]).modelId = none := by decide +kernel
  refine ⟨⟨rfl, by decide +kernel, Or.inl (by decide +kernel)⟩, by decide +kernel, model,
    by decide +kernel, noModel, by decide +kernel, fun same => ?_⟩
  rw [same, noModel] at model
  contradiction

end DeviceSummary

end DeviceModel
