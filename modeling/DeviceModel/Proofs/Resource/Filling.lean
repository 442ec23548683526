import DeviceModel.Proofs.Json.Entries
import DeviceModel.Proofs.Json.Path
import DeviceModel.Proofs.Resource.Places
import Mathlib.Data.List.Induction

/-!
# Objects that are filled place by place

The JSON form of a resource is made by putting one value after another at its place (`fill`).  A
value put at a place can replace an earlier one, and in a group whose name is taken by something
else it is lost. Neither happens while the values are `Agreeing`: a path never begins with the path
of another value. `Holds` says that an object has the given values at their places and nothing else.

One step keeps `Holds` (`Holds.insertAt`), so a whole filling has it (`holds_fill`). What holds the
same values is the same object (`Holds.unique`), hence the order of the values does not matter
(`fill_perm`).
-/

namespace DeviceModel.Resource

open Json

/-- The object in which every value stands at its place, if nothing is in the way. -/
def fill (placed : List (Place × Json)) : Members :=
  placed.foldl (fun members entry => insertAt members entry.1 entry.2) .empty

theorem fill_concat (placed : List (Place × Json)) (place : Place) (value : Json) :
    fill (placed ++ [(place, value)]) = insertAt (fill placed) place value := by
  rw [fill, List.foldl_append]
  rfl

/-- Where the path of a value begins with the path of another, the two are one value at one
place. -/
def Agreeing (placed : List (Place × Json)) : Prop :=
  ∀ a ∈ placed, ∀ b ∈ placed, a.1.path <+: b.1.path → a = b

theorem Agreeing.mono {placed others : List (Place × Json)} (h : Agreeing placed)
    (subset : others ⊆ placed) : Agreeing others :=
  fun a ha b hb => h a (subset ha) b (subset hb)

/-- Every value stands at its place, no group is empty, and there is nothing else. -/
structure Holds (members : Members) (placed : List (Place × Json)) : Prop where
  top : ∀ {key value}, (.top key, value) ∈ placed → members.get? key = some value
  grouped : ∀ {group key value}, (.grouped group key, value) ∈ placed →
    ∃ inner, members.get? group = some (.object inner) ∧ valueOf? key inner = some value
  only : ∀ {key value}, members.get? key = some value →
    (.top key, value) ∈ placed ∨
      ∃ inner, value = .object inner ∧ inner ≠ [] ∧ Ascending inner ∧
        ∀ {k v}, valueOf? k inner = some v → (.grouped key k, v) ∈ placed

theorem holds_empty : Holds .empty [] where
  top := nofun
  grouped := nofun
  only := nofun

variable {members : Members} {placed : List (Place × Json)}

/-- What a group has are exactly the values that are put there. -/
theorem Holds.group_iff (h : Holds members placed) {group : String}
    {inner : List (String × Json)} (found : members.get? group = some (.object inner))
    (grouped : (.top group, .object inner) ∉ placed) :
    inner ≠ [] ∧ Ascending inner ∧
      ∀ k v, valueOf? k inner = some v ↔ (.grouped group k, v) ∈ placed := by
  rcases h.only found with mem | ⟨_, he, ne, ascending, entries⟩
  · exact absurd mem grouped
  · obtain rfl := Json.object.inj he
    refine ⟨ne, ascending, fun k v => ⟨entries, fun mem => ?_⟩⟩
    obtain ⟨inner', present, entry⟩ := h.grouped mem
    rw [found] at present
    rw [Json.object.inj (Option.some.inj present)]
    exact entry

/-! ### One more value -/

theorem mem_of_mem_concat {α : Type} {list : List α} {a last : α} (mem : a ∈ list ++ [last])
    (other : a ≠ last) : a ∈ list :=
  (List.mem_append.mp mem).resolve_right fun h => other (List.mem_singleton.mp h)

theorem Holds.insert_top (h : Holds members placed) {key : String} {value : Json}
    (agree : Agreeing (placed ++ [(.top key, value)])) :
    Holds (members.insert key value) (placed ++ [(.top key, value)]) := by
  have last : (Place.top key, value) ∈ placed ++ [(.top key, value)] := List.mem_concat_self
  constructor
  · intro key' value' mem
    rw [Members.get?_insert]
    by_cases same : key = key'
    · subst same
      rw [if_pos rfl, (Prod.mk.inj (agree _ last _ mem (List.prefix_refl _))).2]
    · rw [if_neg same]
      refine h.top (mem_of_mem_concat mem fun he => same ?_)
      exact (Place.top.inj (Prod.mk.inj he).1).symm
  · intro group key' value' mem
    have before := mem_of_mem_concat mem nofun
    have other : key ≠ group := by
      rintro rfl
      exact absurd (agree _ last _ mem (List.prefix_append [key] [key'])) nofun
    rw [Members.get?_insert, if_neg other]
    exact h.grouped before
  · intro key' value' found
    rw [Members.get?_insert] at found
    by_cases same : key = key'
    · subst same
      rw [if_pos rfl] at found
      exact Or.inl (Option.some.inj found ▸ last)
    · rw [if_neg same] at found
      rcases h.only found with mem | ⟨inner, he, ne, ascending, entries⟩
      · exact Or.inl (List.mem_append_left _ mem)
      · exact Or.inr ⟨inner, he, ne, ascending, fun found => List.mem_append_left _ (entries found)⟩

/-- Unless something else has the name of a group, a value of the group is set among the values that
the group has. -/
theorem Holds.insertAt_grouped (h : Holds members placed) {group : String}
    (free : ∀ value, (.top group, value) ∉ placed) (key : String) (value : Json) :
    ∃ inner, insertAt members (.grouped group key) value =
        members.insert group (.object (insertEntry key value inner)) ∧
      Ascending inner ∧ ∀ k v, valueOf? k inner = some v ↔ (.grouped group k, v) ∈ placed := by
  cases found : members.get? group with
  | none =>
    refine ⟨[], by simp only [insertAt, found, insertEntry], List.Pairwise.nil, fun k v => ?_⟩
    refine iff_of_false (Option.some_ne_none v).symm fun mem => ?_
    obtain ⟨inner, present, _⟩ := h.grouped mem
    rw [found] at present
    contradiction
  | some there =>
    rcases h.only found with mem | ⟨inner, rfl, _⟩
    · exact absurd mem (free there)
    · obtain ⟨_, ascending, entries⟩ := h.group_iff found (free _)
      exact ⟨inner, by simp only [insertAt, found], ascending, entries⟩

theorem Holds.insert_grouped (h : Holds members placed) {group key : String} {value : Json}
    (agree : Agreeing (placed ++ [(.grouped group key, value)])) :
    Holds (insertAt members (.grouped group key) value)
      (placed ++ [(.grouped group key, value)]) := by
  have last : (Place.grouped group key, value) ∈ placed ++ [(.grouped group key, value)] :=
    List.mem_concat_self
  -- a value at the name of the group would have a path with which the new one begins
  have free (other : String) (v : Json) (mem : (Place.top other, v) ∈ placed) : group ≠ other := by
    rintro rfl
    exact absurd (agree _ (List.mem_append_left _ mem) _ last (List.prefix_append [group] [key]))
      nofun
  obtain ⟨inner, he, ascending, entries⟩ :=
    h.insertAt_grouped (fun v mem => free group v mem rfl) key value
  rw [he]
  constructor
  · intro key' value' mem
    have before := mem_of_mem_concat mem nofun
    rw [Members.get?_insert, if_neg (free key' value' before)]
    exact h.top before
  · intro group' key' value' mem
    rw [Members.get?_insert]
    by_cases same : group = group'
    · subst same
      refine ⟨_, if_pos rfl, ?_⟩
      rw [valueOf?_insertEntry]
      by_cases sameKey : key = key'
      · subst sameKey
        rw [if_pos rfl, (Prod.mk.inj (agree _ last _ mem (List.prefix_refl _))).2]
      · rw [if_neg sameKey, entries]
        refine mem_of_mem_concat mem fun he => sameKey ?_
        exact (Place.grouped.inj (Prod.mk.inj he).1).2.symm
    · rw [if_neg same]
      refine h.grouped (mem_of_mem_concat mem fun he => same ?_)
      exact (Place.grouped.inj (Prod.mk.inj he).1).1.symm
  · intro key' value' found
    rw [Members.get?_insert] at found
    by_cases same : group = key'
    · subst same
      rw [if_pos rfl] at found
      refine Or.inr ⟨_, (Option.some.inj found).symm, insertEntry_ne_nil _ _ _,
        ascending_insertEntry _ _ ascending, fun {k v} entry => ?_⟩
      rw [valueOf?_insertEntry] at entry
      by_cases sameKey : key = k
      · subst sameKey
        rw [if_pos rfl] at entry
        exact Option.some.inj entry ▸ last
      · rw [if_neg sameKey] at entry
        exact List.mem_append_left _ ((entries k v).mp entry)
    · rw [if_neg same] at found
      rcases h.only found with mem | ⟨inner', he', ne, ascending', entries'⟩
      · exact Or.inl (List.mem_append_left _ mem)
      · exact Or.inr
          ⟨inner', he', ne, ascending', fun found => List.mem_append_left _ (entries' found)⟩

theorem Holds.insertAt (h : Holds members placed) {place : Place} {value : Json}
    (agree : Agreeing (placed ++ [(place, value)])) :
    Holds (insertAt members place value) (placed ++ [(place, value)]) := by
  cases place with
  | top key => exact h.insert_top agree
  | grouped group key => exact h.insert_grouped agree

/-! ### All values -/

/-- Values that agree all stand at their places. -/
theorem holds_fill (agree : Agreeing placed) : Holds (fill placed) placed := by
  induction placed using List.reverseRecOn with
  | nil => exact holds_empty
  | append_singleton placed entry ih =>
    rw [fill_concat]
    exact (ih (agree.mono (List.subset_append_left _ _))).insertAt agree

theorem Holds.valueAt? (h : Holds members placed) {place : Place} {value : Json}
    (mem : (place, value) ∈ placed) :
    (Json.object members.entries).valueAt? place.path = some value := by
  cases place with
  | top key =>
    have found := h.top mem
    rw [Members.get?] at found
    simp only [Place.path, Json.valueAt?, found, Option.bind_some]
  | grouped group key =>
    obtain ⟨inner, found, entry⟩ := h.grouped mem
    rw [Members.get?] at found
    simp only [Place.path, Json.valueAt?, found, entry, Option.bind_some]

/-- An object that holds the same values as another has whatever the other has. -/
theorem Holds.get?_of_same {members' : Members} {placed' : List (Place × Json)}
    (h : Holds members placed) (h' : Holds members' placed') (same : ∀ e, e ∈ placed ↔ e ∈ placed')
    {key : String} {value : Json} (found : members.get? key = some value) :
    members'.get? key = some value := by
  by_cases mem : (.top key, value) ∈ placed
  · exact h'.top ((same _).mp mem)
  obtain ⟨inner, rfl, ne, ascending, entries⟩ := (h.only found).resolve_left mem
  -- the group has a value, which is put there in both objects
  obtain ⟨entry, entryMem⟩ := List.exists_mem_of_ne_nil _ ne
  have placedEntry := (same _).mp (entries (ascending.mem_iff.mp entryMem))
  obtain ⟨inner', found', _⟩ := h'.grouped placedEntry
  by_cases mem' : (.top key, .object inner') ∈ placed'
  · rw [h.top ((same _).mpr mem')] at found
    rw [found', ← found]
  have entries := (h.group_iff found mem).2.2
  obtain ⟨_, ascending', entries'⟩ := h'.group_iff found' mem'
  rw [found', ascending'.ext ascending fun k => ?_]
  ext v
  rw [entries', entries, same]

theorem Holds.unique {members' : Members} {placed' : List (Place × Json)}
    (h : Holds members placed) (h' : Holds members' placed')
    (same : ∀ e, e ∈ placed ↔ e ∈ placed') : members = members' := by
  refine Members.ext_get? fun key => ?_
  ext value
  exact ⟨h.get?_of_same h' same, h'.get?_of_same h fun e => (same e).symm⟩

/-- The order in which agreeing values are put at their places does not matter. -/
theorem fill_perm {placed' : List (Place × Json)} (agree : Agreeing placed)
    (perm : placed'.Perm placed) : fill placed' = fill placed :=
  (holds_fill (agree.mono perm.subset)).unique (holds_fill agree) fun _ => perm.mem_iff

/-- Values that all stand at their places in one object agree: two paths cannot end at different
values, and no path goes on where another one ends. -/
theorem agreeing_of_valueAt? {whole : Json} (simple : ∀ entry ∈ placed, entry.2.isObject = false)
    (shown : ∀ entry ∈ placed, whole.valueAt? entry.1.path = some entry.2) : Agreeing placed := by
  rintro ⟨place, value⟩ memA ⟨place', value'⟩ memB ⟨rest, path⟩
  have starts : place.path ++ rest = place'.path := path
  have shownA : whole.valueAt? place.path = some value := shown _ memA
  have shownB : whole.valueAt? place'.path = some value' := shown _ memB
  rw [← starts, valueAt?_append, shownA, Option.bind_some] at shownB
  cases rest with
  | nil =>
    rw [List.append_nil] at starts
    rw [Place.path_injective starts, show value = value' from Option.some.inj shownB]
  | cons key rest =>
    rw [valueAt?_of_not_object (simple _ memA)] at shownB
    contradiction

/-! ### Leaves -/

/-- The leaves of an object are the values that it holds. -/
theorem Holds.mem_leaves_iff (h : Holds members placed)
    (simple : ∀ entry ∈ placed, entry.2.isObject = false) {path : List String} {leaf : Json} :
    (path, leaf) ∈ (Json.object members.entries).leaves ↔
      ∃ place, (place, leaf) ∈ placed ∧ path = place.path := by
  rw [mem_leaves_object_iff]
  constructor
  · rintro ⟨key, value, rest, mem, leafMem, rfl⟩
    rcases h.only (Members.mem_entries_iff.mp mem) with top | ⟨inner, rfl, _, ascending, entries⟩
    · obtain ⟨rfl, rfl⟩ := (mem_leaves_of_not_object (simple _ top)).mp leafMem
      exact ⟨.top key, top, rfl⟩
    · obtain ⟨k, v, _, innerMem, deeper, rfl⟩ := mem_leaves_object_iff.mp leafMem
      have grouped := entries (ascending.mem_iff.mp innerMem)
      obtain ⟨rfl, rfl⟩ := (mem_leaves_of_not_object (simple _ grouped)).mp deeper
      exact ⟨.grouped key k, grouped, rfl⟩
  · rintro ⟨place, mem, rfl⟩
    have leafMem := (mem_leaves_of_not_object (simple _ mem)).mpr ⟨rfl, rfl⟩
    cases place with
    | top key => exact ⟨key, leaf, [], Members.mem_entries_iff.mpr (h.top mem), leafMem, rfl⟩
    | grouped group key =>
      obtain ⟨inner, found, entry⟩ := h.grouped mem
      refine ⟨group, .object inner, [key], Members.mem_entries_iff.mpr found, ?_, rfl⟩
      exact mem_leaves_object_iff.mpr ⟨key, leaf, [], mem_of_valueOf? entry, leafMem, rfl⟩

theorem Holds.nodup_leaves (h : Holds members placed)
    (simple : ∀ entry ∈ placed, entry.2.isObject = false) :
    (Json.object members.entries).leaves.Nodup := by
  refine nodup_leaves_object members.ascending.nodup_keys ?_
  rintro ⟨key, value⟩ mem
  rcases h.only (Members.mem_entries_iff.mp mem) with top | ⟨inner, rfl, _, ascending, entries⟩
  · exact nodup_leaves_of_not_object (simple _ top)
  · refine nodup_leaves_object ascending.nodup_keys ?_
    rintro ⟨k, v⟩ mem
    exact nodup_leaves_of_not_object (simple _ (entries (ascending.mem_iff.mp mem)))

/-- The leaves are the values with their paths, each of them once. -/
theorem Holds.leaves_perm (h : Holds members placed)
    (simple : ∀ entry ∈ placed, entry.2.isObject = false) (once : placed.Nodup) :
    (Json.object members.entries).leaves.Perm
      (placed.map fun entry => (entry.1.path, entry.2)) := by
  have injective : Function.Injective fun entry : Place × Json => (entry.1.path, entry.2) := by
    rintro ⟨place, value⟩ ⟨place', value'⟩ he
    have path : place.path = place'.path := (Prod.mk.inj he).1
    have same : value = value' := (Prod.mk.inj he).2
    rw [Place.path_injective path, same]
  refine (List.perm_ext_iff_of_nodup (h.nodup_leaves simple) (once.map injective)).mpr ?_
  rintro ⟨path, leaf⟩
  rw [h.mem_leaves_iff simple, List.mem_map]
  constructor
  · rintro ⟨place, mem, rfl⟩
    exact ⟨(place, leaf), mem, rfl⟩
  · rintro ⟨⟨place, value⟩, mem, he⟩
    obtain ⟨rfl, rfl⟩ := Prod.mk.inj he
    exact ⟨place, mem, rfl⟩

end DeviceModel.Resource
