import DeviceModel.Catalog.Builtin
import DeviceModel.Error

/-!
# Attribute catalogs

A catalog is a list of descriptors with distinct suffixes, and `Catalog.ofDescriptors` makes one of
every such list. A key is classified by the first descriptor whose suffix it ends with, so the order
matters where one suffix ends another; `Catalog.ambiguousSuffixes` lists those pairs.
-/

namespace DeviceModel

open Text

/-- The registered attributes, in order. -/
structure Catalog where
  descriptors : List Descriptor
  nodup : (descriptors.map (·.suffix)).Nodup
deriving DecidableEq

namespace Catalog

/-- The catalog without attributes. -/
def empty : Catalog :=
  ⟨[], List.nodup_nil⟩

/-- The catalog of the built-in attributes. -/
def builtin : Catalog :=
  ⟨builtinAttributes, nodup_builtinAttributes⟩

/-- The first text of a list that occurs among `seen` or earlier in the list. -/
def firstRepeated? (seen : List String) : List String → Option String
  | [] => none
  | s :: rest => if s ∈ seen then some s else firstRepeated? (s :: seen) rest

/-- No text is repeated exactly if the texts are distinct and none of them was seen. -/
theorem firstRepeated?_eq_none_iff {seen texts : List String} :
    firstRepeated? seen texts = none ↔ texts.Nodup ∧ ∀ s ∈ texts, s ∉ seen := by
  induction texts generalizing seen with
  | nil => simp [firstRepeated?]
  | cons s rest ih =>
    by_cases hs : s ∈ seen
    · simp [firstRepeated?, hs]
    · simp only [firstRepeated?, hs, if_false, ih, List.nodup_cons, List.mem_cons, not_or]
      constructor
      · rintro ⟨nodup, fresh⟩
        refine ⟨⟨fun mem => (fresh s mem).1 rfl, nodup⟩, ?_⟩
        rintro t (rfl | mem)
        · exact hs
        · exact (fresh t mem).2
      · rintro ⟨⟨notMem, nodup⟩, fresh⟩
        exact ⟨nodup, fun t mem => ⟨fun eq => notMem (eq ▸ mem), fresh t (.inr mem)⟩⟩

/-- The catalog of a list of attributes, whose suffixes must be distinct. -/
def ofDescriptors (descriptors : List Descriptor) : Except Error Catalog :=
  match h : firstRepeated? [] (descriptors.map (·.suffix)) with
  | some suffix => .error (.duplicateSuffix suffix)
  | none => .ok ⟨descriptors, (firstRepeated?_eq_none_iff.1 h).1⟩

/-- The built-in attributes followed by others. -/
def builtinWith (extra : List Descriptor) : Except Error Catalog :=
  ofDescriptors (builtinAttributes ++ extra)

/-- The catalog to be used from now on: the built-in attributes followed by others, unless one is
in use. -/
def install (inUse : Option Catalog) (extra : List Descriptor) : Except Error Catalog := do
  let catalog ← builtinWith extra
  match inUse with
  | some _ => .error .catalogInitialized
  | none => .ok catalog

/-- The first descriptor whose suffix the key ends with. -/
def lookup? (catalog : Catalog) (key : String) : Option Descriptor :=
  catalog.descriptors.find? (·.matchesKey key)

/-- The descriptor with this suffix. -/
def get? (catalog : Catalog) (suffix : String) : Option Descriptor :=
  catalog.descriptors.find? fun descriptor => descriptor.suffix == suffix

/-- The descriptor with this type and suffix. -/
def find? (catalog : Catalog) (dataType : DataType) (suffix : String) : Option Descriptor :=
  catalog.descriptors.find? fun descriptor =>
    descriptor.dataType == dataType && descriptor.suffix == suffix

/-- The number of attributes. -/
def size (catalog : Catalog) : Nat :=
  catalog.descriptors.length

/-- Whether there are no attributes. -/
def isEmpty (catalog : Catalog) : Bool :=
  catalog.descriptors.isEmpty

/-- The pairs of suffixes of which the second is longer and ends with the first. -/
def ambiguousSuffixes (catalog : Catalog) : List (String × String) :=
  let suffixes := catalog.descriptors.map (·.suffix)
  suffixes.flatMap fun shorter =>
    (suffixes.filter fun longer =>
      shorter.toList.length < longer.toList.length && endsWith longer shorter).map (shorter, ·)

/-- The catalog in exchange form. -/
def toJson (catalog : Catalog) : Json :=
  .array (catalog.descriptors.map Descriptor.toJson)

/-- The descriptors that a document lists. -/
def descriptorsOfDocument? (document : Document) : Option (List Descriptor) :=
  document.list?.bind fun items => items.mapM Descriptor.ofDocument?

end Catalog

end DeviceModel
