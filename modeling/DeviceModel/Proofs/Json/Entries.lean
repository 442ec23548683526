import DeviceModel.Json.Basic
import DeviceModel.Proofs.Keyed
import Mathlib.Data.List.Induction

/-!
# Entries in ascending order

Setting the value of a key changes the value of this key and of no other
(`valueOf?_insertEntry`). In ascending order the entries are exactly what is found by key
(`Ascending.mem_iff`), so two objects in which every key has the same value are the same
(`Ascending.ext`, `Members.ext_get?`).
-/

namespace DeviceModel.Json

theorem valueOf?_cons (key : String) (head : String × Json) (rest : List (String × Json)) :
    valueOf? key (head :: rest) = if head.1 = key then some head.2 else valueOf? key rest := by
  by_cases h : head.1 = key
  · simp [valueOf?, h]
  · simp [valueOf?, h]

theorem valueOf?_insertEntry (key other : String) (value : Json) (entries : List (String × Json)) :
    valueOf? other (insertEntry key value entries) =
      if key = other then some value else valueOf? other entries := by
  induction entries with
  | nil => rw [insertEntry, valueOf?_cons]
  | cons head rest ih =>
    unfold insertEntry
    split
    case isTrue less => rw [valueOf?_cons]
    case isFalse =>
      split
      case isTrue same =>
        rw [valueOf?_cons, valueOf?_cons, ← same]
        split <;> rfl
      case isFalse different =>
        rw [valueOf?_cons, ih, valueOf?_cons]
        by_cases h : head.1 = other
        · rw [if_pos h, if_pos h, if_neg fun he => different (he.trans h.symm)]
        · rw [if_neg h, if_neg h]

theorem mem_of_valueOf? {key : String} {value : Json} {entries : List (String × Json)}
    (h : valueOf? key entries = some value) : (key, value) ∈ entries := by
  obtain ⟨⟨key', value'⟩, found, rfl⟩ := Option.map_eq_some_iff.mp h
  have same : key' = key := by simpa using List.find?_some found
  exact same ▸ List.mem_of_find?_eq_some found

theorem insertEntry_ne_nil (key : String) (value : Json) (entries : List (String × Json)) :
    insertEntry key value entries ≠ [] := by
  intro empty
  have found := valueOf?_insertEntry key key value entries
  rw [empty, if_pos rfl] at found
  contradiction

/-! ### Ascending order -/

theorem Ascending.nodup_keys {entries : List (String × Json)} (h : Ascending entries) :
    (entries.map (·.1)).Nodup := by
  refine List.pairwise_map.mpr (List.Pairwise.imp (fun less same => ?_) h)
  rw [same] at less
  exact String.lt_irrefl _ less

theorem Ascending.mem_iff {entries : List (String × Json)} (h : Ascending entries) {key : String}
    {value : Json} : (key, value) ∈ entries ↔ valueOf? key entries = some value := by
  refine ⟨fun mem => ?_, mem_of_valueOf?⟩
  rw [valueOf?, (Keyed.find?_eq_some_iff h.nodup_keys).mpr ⟨mem, rfl⟩, Option.map_some]

/-- Entries in ascending order are the same if every key has the same value. -/
theorem Ascending.ext {a b : List (String × Json)} (ha : Ascending a) (hb : Ascending b)
    (same : ∀ key, valueOf? key a = valueOf? key b) : a = b := by
  have perm : a.Perm b := by
    refine (List.perm_ext_iff_of_nodup (List.Nodup.of_map _ ha.nodup_keys)
      (List.Nodup.of_map _ hb.nodup_keys)).mpr fun entry => ?_
    rw [ha.mem_iff, hb.mem_iff, same]
  refine perm.eq_of_pairwise (fun x y _ _ less greater => ?_) ha hb
  exact absurd greater (String.lt_asymm less)

namespace Members

theorem mem_entries_iff {members : Members} {key : String} {value : Json} :
    (key, value) ∈ members.entries ↔ members.get? key = some value :=
  members.ascending.mem_iff

theorem get?_insert (members : Members) (key other : String) (value : Json) :
    (members.insert key value).get? other =
      if key = other then some value else members.get? other :=
  valueOf?_insertEntry key other value members.entries

theorem ext_get? {a b : Members} (same : ∀ key, a.get? key = b.get? key) : a = b := by
  obtain ⟨entriesA, ascendingA⟩ := a
  obtain ⟨entriesB, ascendingB⟩ := b
  congr 1
  exact ascendingA.ext ascendingB same

theorem toJson_injective : Function.Injective toJson :=
  fun _ _ same => ext_get? fun key => congrArg (valueOf? key) (object.inj same)

theorem ofList_concat (entries : List (String × Json)) (key : String) (value : Json) :
    ofList (entries ++ [(key, value)]) = (ofList entries).insert key value := by
  rw [ofList, List.foldl_append]
  rfl

/-- The entries with a function of every value. -/
def map (f : Json → Json) (members : Members) : Members where
  entries := members.entries.map fun entry => (entry.1, f entry.2)
  ascending := by
    rw [Ascending, List.pairwise_map]
    exact members.ascending

/-- Entries with distinct keys are only put in order. -/
theorem entries_ofList_perm {entries : List (String × Json)}
    (distinct : (entries.map (·.1)).Nodup) : (ofList entries).entries.Perm entries := by
  have found : ∀ key value, (ofList entries).get? key = some value ↔ (key, value) ∈ entries := by
    induction entries using List.reverseRecOn with
    | nil => exact fun _ _ => ⟨nofun, nofun⟩
    | append_singleton entries last ih =>
      obtain ⟨lastKey, lastValue⟩ := last
      rw [List.map_append, List.map_singleton, List.nodup_append] at distinct
      intro key value
      rw [ofList_concat, get?_insert, List.mem_append, List.mem_singleton]
      by_cases same : lastKey = key
      · subst same
        have absent : (lastKey, value) ∉ entries := fun mem =>
          distinct.2.2 _ (List.mem_map_of_mem mem) _ (List.mem_singleton_self _) rfl
        rw [if_pos rfl]
        simp only [absent, false_or, Option.some.injEq, Prod.mk.injEq, true_and]
        exact eq_comm
      · rw [if_neg same, ih distinct.1]
        simp only [Prod.mk.injEq, Ne.symm same, false_and, or_false]
  refine (List.perm_ext_iff_of_nodup (List.Nodup.of_map _ (ofList entries).ascending.nodup_keys)
    (List.Nodup.of_map _ distinct)).mpr fun entry => ?_
  rw [mem_entries_iff, found]

/-- Entries in ascending order stay as they are. -/
theorem entries_ofList {entries : List (String × Json)} (ascending : Ascending entries) :
    (ofList entries).entries = entries := by
  refine (entries_ofList_perm ascending.nodup_keys).eq_of_pairwise
    (fun x y _ _ less greater => ?_) (ofList entries).ascending ascending
  exact absurd greater (String.lt_asymm less)

theorem ofList_entries (members : Members) : ofList members.entries = members :=
  ext_get? fun key => congrArg (valueOf? key) (entries_ofList members.ascending)

end Members

end DeviceModel.Json
