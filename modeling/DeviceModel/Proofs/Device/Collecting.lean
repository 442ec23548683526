import DeviceModel.Device.Summary
import DeviceModel.Proofs.Text.Affix
import Mathlib.Data.List.Basic
import Mathlib.Data.List.Induction

/-!
# Collecting a summary

A summary is collected in one pass: each resource of the device is appended, and it fills the
identity fields that are still empty (`absorb`). Collecting one more resource is one more turn of
this (`collect_concat`), so the whole is the fold of `absorb` (`collect_eq_foldl`).

What comes out of the pass is said without it in `collect_laws`: the entries are those of the
resources of the device, in order; each identity field is the first text for it (`FirstText`); two
lists one after the other give the entries one after the other, and the first list goes first for
the identity; and the longer the unique id, the fewer resources.
-/

namespace DeviceModel.DeviceSummary

open Text

variable {τ : Type}

/-! ### One pass -/

/-- An identity field after one more resource. -/
def fill (field : Option String) (resource : Resource τ) (suffix : String) : Option String :=
  match field with
  | some text => some text
  | none => if resource.toText suffix = "" then none else some (resource.toText suffix)

/-- A summary after one more resource. -/
def absorb (summary : DeviceSummary) (resource : Resource τ) : DeviceSummary :=
  if belongs summary.uniqueId resource then
    { summary with
      manufacturerName := fill summary.manufacturerName resource "attr/manufacturername"
      modelId := fill summary.modelId resource "attr/modelid"
      swVersion := fill summary.swVersion resource "attr/swversion"
      sub := summary.sub ++ [resource.toJson] }
  else summary

theorem firstText?_append (suffix : String) (front back : List (Resource τ)) :
    firstText? suffix (front ++ back) =
      (firstText? suffix front).or (firstText? suffix back) := by
  rw [firstText?, List.map_append, List.find?_append]
  rfl

theorem firstText?_concat (suffix : String) (resources : List (Resource τ))
    (resource : Resource τ) :
    firstText? suffix (resources ++ [resource]) =
      fill (firstText? suffix resources) resource suffix := by
  rw [firstText?_append]
  cases firstText? suffix resources with
  | some text => rfl
  | none =>
    by_cases empty : resource.toText suffix = ""
    · simp [firstText?, fill, empty]
    · simp [firstText?, fill, empty]

theorem collect_concat (uniqueId : String) (resources : List (Resource τ))
    (resource : Resource τ) :
    collect uniqueId (resources ++ [resource]) = (collect uniqueId resources).absorb resource := by
  rw [absorb, collect, List.filter_append]
  show _ = if belongs uniqueId resource then _ else _
  by_cases own : belongs uniqueId resource
  · rw [if_pos own, List.filter_cons_of_pos own]
    simp only [List.filter_nil, firstText?_concat, List.map_append, List.map_cons, List.map_nil]
    rfl
  · rw [if_neg own, List.filter_cons_of_neg own, List.filter_nil, List.append_nil]
    rfl

/-- **Collecting is one pass over the resources.** -/
theorem collect_eq_foldl (uniqueId : String) (resources : List (Resource τ)) :
    collect uniqueId resources = resources.foldl absorb { uniqueId } := by
  induction resources using List.reverseRecOn with
  | nil => rfl
  | append_singleton resources resource ih =>
    rw [collect_concat, ih, List.foldl_append]
    rfl

/-! ### Identity -/

/-- What an attribute adds to the identity of a device: the first text for it that is not empty. -/
inductive FirstText (suffix : String) : List (Resource τ) → Option String → Prop
  | none {resources : List (Resource τ)} (empty : ∀ r ∈ resources, r.toText suffix = "") :
      FirstText suffix resources none
  | some {before after : List (Resource τ)} {resource : Resource τ}
      (empty : ∀ r ∈ before, r.toText suffix = "") (text : resource.toText suffix ≠ "") :
      FirstText suffix (before ++ resource :: after) (some (resource.toText suffix))

theorem firstText (suffix : String) (resources : List (Resource τ)) :
    FirstText suffix resources (firstText? suffix resources) := by
  induction resources with
  | nil => exact .none nofun
  | cons resource resources ih =>
    by_cases text : resource.toText suffix = ""
    · have rest : firstText? suffix (resource :: resources) = firstText? suffix resources := by
        simp [firstText?, text]
      rw [rest]
      generalize firstText? suffix resources = field at ih ⊢
      cases ih with
      | none empty => exact .none (List.forall_mem_cons.mpr ⟨text, empty⟩)
      | @some before after first empty found =>
        show FirstText suffix ((resource :: before) ++ first :: after) _
        exact .some (List.forall_mem_cons.mpr ⟨text, empty⟩) found
    · have found : firstText? suffix (resource :: resources) = some (resource.toText suffix) := by
        simp [firstText?, text]
      rw [found]
      show FirstText suffix ([] ++ resource :: resources) _
      exact .some nofun text

theorem firstText?_of_firstText {suffix : String} {resources : List (Resource τ)}
    {field : Option String} (first : FirstText suffix resources field) :
    firstText? suffix resources = field := by
  have skips {front : List (Resource τ)} (empty : ∀ r ∈ front, r.toText suffix = "") :
      firstText? suffix front = none := by
    simpa [firstText?] using empty
  cases first with
  | none empty => exact skips empty
  | some empty text =>
    rw [firstText?_append, skips empty, Option.none_or]
    simp [firstText?, text]

theorem firstText?_eq_iff {suffix : String} {resources : List (Resource τ)}
    {field : Option String} :
    firstText? suffix resources = field ↔ FirstText suffix resources field := by
  constructor
  · rintro rfl
    exact firstText suffix resources
  · exact firstText?_of_firstText

/-- The identity fields of a summary, each with the attribute that it is taken from. -/
inductive IdentityField : String → (DeviceSummary → Option String) → Prop
  | manufacturerName : IdentityField "attr/manufacturername" DeviceSummary.manufacturerName
  | modelId : IdentityField "attr/modelid" DeviceSummary.modelId
  | swVersion : IdentityField "attr/swversion" DeviceSummary.swVersion

theorem IdentityField.collect {suffix : String} {field : DeviceSummary → Option String}
    (identity : IdentityField suffix field) (uniqueId : String) (resources : List (Resource τ)) :
    field (collect uniqueId resources) =
      firstText? suffix (resources.filter (belongs uniqueId)) := by
  cases identity <;> rfl

theorem IdentityField.collect_append {suffix : String} {field : DeviceSummary → Option String}
    (identity : IdentityField suffix field) (uniqueId : String) (front back : List (Resource τ)) :
    field (DeviceSummary.collect uniqueId (front ++ back)) =
      (field (DeviceSummary.collect uniqueId front)).or
        (field (DeviceSummary.collect uniqueId back)) := by
  rw [identity.collect, identity.collect, identity.collect, List.filter_append, firstText?_append]

/-! ### Resources of a device -/

theorem sub_collect_append (uniqueId : String) (front back : List (Resource τ)) :
    (collect uniqueId (front ++ back)).sub =
      (collect uniqueId front).sub ++ (collect uniqueId back).sub := by
  show ((front ++ back).filter (belongs uniqueId)).map Resource.toJson = _
  rw [List.filter_append, List.map_append]
  rfl

theorem belongs_iff {uniqueId : String} {resource : Resource τ} :
    belongs uniqueId resource ↔ uniqueId.toList <+: (resource.toText "attr/uniqueid").toList :=
  startsWith_iff

theorem belongs_of_belongs_append {uniqueId extension : String} {resource : Resource τ}
    (own : belongs (uniqueId ++ extension) resource) : belongs uniqueId resource := by
  rw [belongs_iff, String.toList_append] at own
  exact belongs_iff.mpr ((List.prefix_append _ _).trans own)

theorem belongs_empty (resource : Resource τ) : belongs "" resource :=
  belongs_iff.mpr (List.nil_prefix)

/-- **What a summary holds.** It is collected in one pass; a resource belongs to the device if its
unique id, empty if there is none, begins with the given one; the entries are those of these
resources, and each identity field is the first text among them. Collecting two lists one after the
other appends the entries and takes each field from the first list that has it. A longer unique id
has a part of the resources, in the same order, and the empty one has all. -/
theorem collect_laws (uniqueId : String) (resources : List (Resource τ)) :
    let summary := collect uniqueId resources
    let own := resources.filter (belongs uniqueId)
    summary = resources.foldl absorb { uniqueId } ∧
    (∀ resource : Resource τ, belongs uniqueId resource ↔
      uniqueId.toList <+: ((resource.item? "attr/uniqueid").elim "" Item.toText).toList) ∧
    summary.sub = own.map Resource.toJson ∧
    (∀ suffix field, IdentityField suffix field → ∀ text : Option String,
      field summary = text ↔ FirstText suffix own text) ∧
    (∀ others : List (Resource τ),
      (collect uniqueId (resources ++ others)).sub = summary.sub ++ (collect uniqueId others).sub ∧
      ∀ suffix field, IdentityField suffix field → field (collect uniqueId (resources ++ others)) =
        (field summary).or (field (collect uniqueId others))) ∧
    (∀ extension, (resources.filter (belongs (uniqueId ++ extension))).Sublist own) ∧
    resources.filter (belongs "") = resources := by
  intro summary own
  refine ⟨collect_eq_foldl uniqueId resources, fun resource => belongs_iff, rfl, ?_, ?_, ?_, ?_⟩
  · intro suffix field identity text
    rw [identity.collect, firstText?_eq_iff]
  · intro others
    refine ⟨sub_collect_append uniqueId resources others, ?_⟩
    intro suffix field identity
    exact identity.collect_append uniqueId resources others
  · intro extension
    apply List.monotone_filter_right
    intro resource own
    exact belongs_of_belongs_append own
  · exact List.filter_eq_self.mpr fun resource _ => belongs_empty resource

end DeviceModel.DeviceSummary
