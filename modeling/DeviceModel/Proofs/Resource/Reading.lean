import DeviceModel.Proofs.Item.Reading
import DeviceModel.Proofs.Resource.Shown

/-!
# What is read from a resource

A value that is put at a place is a leaf of the object then, and every other leaf was there before
(`exists_leaf_of_insertAt`). So whatever is lost on the way, the leaves of the JSON form are values
of shown items (`exists_shown_of_leaf`). A shown item holds a value, hence none of them is null.

The main statement is `reads_run`: what can be read from an item after a run is of its type.
-/

namespace DeviceModel

namespace Json

theorem exists_leaf_of_insertEntry {key : String} {value : Json} {entries : List (String × Json)}
    {path : List String} {leaf : Json}
    (mem : (path, leaf) ∈ (object (insertEntry key value entries)).leaves) :
    (∃ rest, (rest, leaf) ∈ value.leaves) ∨ ∃ other, (other, leaf) ∈ (object entries).leaves := by
  obtain ⟨k, v, rest, entry, inner, _⟩ := mem_leaves_object_iff.mp mem
  rcases mem_insertEntry entry with he | before
  · obtain ⟨_, rfl⟩ := Prod.mk.inj he
    exact Or.inl ⟨rest, inner⟩
  · exact Or.inr ⟨k :: rest, mem_leaves_object_iff.mpr ⟨k, v, rest, before, inner, rfl⟩⟩

end Json

namespace Resource

open Json

variable {τ : Type}

/-- A value of a group is lost, or it is set among the values of the group, if there are any. -/
theorem insertAt_grouped_cases (members : Members) (group key : String) (value : Json) :
    insertAt members (.grouped group key) value = members ∨
      ∃ inner, insertAt members (.grouped group key) value =
          members.insert group (.object (insertEntry key value inner)) ∧
        (inner = [] ∨ members.get? group = some (.object inner)) := by
  cases found : members.get? group with
  | none => exact Or.inr ⟨[], by simp only [insertAt, found, insertEntry], Or.inl rfl⟩
  | some there =>
    cases there with
    | object inner => exact Or.inr ⟨inner, by simp only [insertAt, found], Or.inr rfl⟩
    | _ => exact Or.inl (by simp only [insertAt, found])

/-- A value at a place adds no leaf but itself. -/
theorem exists_leaf_of_insertAt {members : Members} {place : Place} {value : Json}
    (simple : value.isObject = false) {path : List String} {leaf : Json}
    (mem : (path, leaf) ∈ (insertAt members place value).toJson.leaves) :
    leaf = value ∨ ∃ other, (other, leaf) ∈ members.toJson.leaves := by
  have self {rest : List String} (mem : (rest, leaf) ∈ value.leaves) : leaf = value :=
    ((mem_leaves_of_not_object simple).mp mem).2
  cases place with
  | top key =>
    rcases exists_leaf_of_insertEntry mem with ⟨_, new⟩ | before
    · exact Or.inl (self new)
    · exact Or.inr before
  | grouped group key =>
    rcases insertAt_grouped_cases members group key value with he | ⟨inner, he, origin⟩
    · rw [he] at mem
      exact Or.inr ⟨path, mem⟩
    rw [he] at mem
    rcases exists_leaf_of_insertEntry mem with ⟨_, inGroup⟩ | before
    · rcases exists_leaf_of_insertEntry inGroup with ⟨_, new⟩ | ⟨rest, old⟩
      · exact Or.inl (self new)
      -- the leaf stood in the group already
      · rcases origin with rfl | found
        · contradiction
        · exact Or.inr ⟨group :: rest, mem_leaves_object_iff.mpr
            ⟨group, .object inner, rest, mem_of_valueOf? found, old, rfl⟩⟩
    · exact Or.inr before

theorem exists_placed_of_leaf {placed : List (Place × Json)}
    (simple : ∀ entry ∈ placed, entry.2.isObject = false) {path : List String} {leaf : Json}
    (mem : (path, leaf) ∈ (fill placed).toJson.leaves) : ∃ entry ∈ placed, entry.2 = leaf := by
  induction placed using List.reverseRecOn generalizing path with
  | nil => contradiction
  | append_singleton placed last ih =>
    rw [fill_concat] at mem
    rcases exists_leaf_of_insertAt (simple last List.mem_concat_self) mem with rfl | ⟨_, before⟩
    · exact ⟨last, List.mem_concat_self, rfl⟩
    · obtain ⟨entry, entryMem, he⟩ :=
        ih (fun entry mem => simple entry (List.mem_append_left _ mem)) before
      exact ⟨entry, List.mem_append_left _ entryMem, he⟩

/-- Every leaf of the JSON form is the value of a shown item, of the type of that item. -/
theorem exists_shown_of_leaf {resource : Resource τ} {path : List String} {leaf : Json}
    (mem : (path, leaf) ∈ resource.toJson.toJson.leaves) :
    ∃ item ∈ resource.shown, Item.Typed item.dataType item.toValue leaf := by
  rw [toJson_eq_fill] at mem
  obtain ⟨_, placed, rfl⟩ := exists_placed_of_leaf (simple_placed _) mem
  obtain ⟨item, shown, rfl⟩ := List.mem_map.mp placed
  exact ⟨item, shown, Item.typed_toValue (mem_shown_iff.mp shown).2.2⟩

end Resource

namespace Item

variable {τ : Type}

/-- **What is read from an item is of its type**, after every sequence of operations on a new item.
There is a buffer exactly for the types that keep text. The value is null exactly if the item holds
none; otherwise it is of the kind of the type, and so is its JSON form. Truth values and integers
have no text. An accepted write leaves a value behind, unless it writes null, which leaves none. So
every leaf of the JSON form of a resource is the value of one of its items and of its type, never
null. -/
theorem reads_run :
    (∀ (descriptor : Descriptor) (ops : List (Op τ)),
      let item : Item τ := (new descriptor).run ops
      (item.buffer.isSome ↔ descriptor.dataType = .string ∨ descriptor.dataType = .timePattern ∨
        descriptor.dataType = .time) ∧
      (item.toValue = .null ↔ item.hasValue = false) ∧
      (item.hasValue → Typed descriptor.dataType item.toValue item.toValue.toJson) ∧
      (descriptor.dataType = .bool ∨ descriptor.dataType.isInteger → item.toText = "") ∧
      (∀ w now, w ≠ .value .null → (item.write w now).accepted →
        (item.write w now).item.hasValue) ∧
      ∀ now, (item.write (.value .null) now).item.hasValue = false) ∧
    (∀ {type : DataType} {v : Value} {json : Json}, Typed type v json →
      v ≠ .null ∧ json ≠ .null) ∧
    ∀ (path : String) (ops : List (Resource.Op τ)),
      let resource := (Resource.new path).run ops
      ∀ leaf ∈ resource.toJson.toJson.leaves, ∃ item ∈ resource.shown,
        Typed item.dataType item.toValue leaf.2 := by
  refine ⟨fun descriptor ops => ?_, Typed.ne_null, fun path ops leaf =>
    Resource.exists_shown_of_leaf⟩
  intro item
  have formed : item.WellFormed := (wellFormed_new descriptor).run ops
  have type : item.dataType = descriptor.dataType :=
    congrArg Descriptor.dataType (descriptor_run (new descriptor) ops)
  rw [← type]
  refine ⟨?_, toValue_eq_null_iff, typed_toValue, fun kind => ?_, fun w now notNull accepted => ?_,
    fun now => rfl⟩
  · rw [formed, DataType.hasTextBuffer_iff]
  · refine toText_of_hasTextBuffer_eq_false formed ?_
    rcases kind with truth | integer
    · rw [truth]
      rfl
    · exact DataType.hasTextBuffer_of_isInteger integer
  · rw [hasValue_write accepted, bne_iff_ne]
    exact notNull

end Item

end DeviceModel
