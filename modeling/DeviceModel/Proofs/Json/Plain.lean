import DeviceModel.Proofs.Json.Doubles
import DeviceModel.Proofs.Json.Entries
import DeviceModel.Proofs.Json.Path
import DeviceModel.Proofs.Json.Reading

/-!
# Plain values read back

A value is plain if it consists of texts, truth values and doubles in objects with ascending keys.
Such a value is read back as free-form JSON up to its doubles (`toJson?_echo`, `members?_echo`), and
exactly if each of its doubles is (`reread_eq_self_iff`).
-/

namespace DeviceModel.Json

mutual

/-- The value with every double as it is read back. -/
def reread : Json → Json
  | null => null
  | bool b => bool b
  | integer n => integer n
  | real x => real ((reread? x).getD x)
  | string s => string s
  | array items => array items
  | object entries => object (rereadEntries entries)

/-- The entries with every double as it is read back. -/
def rereadEntries : List (String × Json) → List (String × Json)
  | [] => []
  | (key, value) :: rest => (key, value.reread) :: rereadEntries rest

end

mutual

/-- Texts, truth values and doubles that are read back as some double, in objects with ascending
keys. -/
def Plain : Json → Prop
  | null => True
  | bool _ => True
  | integer _ => False
  | real x => ∃ y, reread? x = some y
  | string _ => True
  | array _ => False
  | object entries => Ascending entries ∧ PlainEntries entries

/-- The values of all entries are plain. -/
def PlainEntries : List (String × Json) → Prop
  | [] => True
  | (_, value) :: rest => value.Plain ∧ PlainEntries rest

end

theorem plainEntries_iff {entries : List (String × Json)} :
    PlainEntries entries ↔ ∀ entry ∈ entries, entry.2.Plain := by
  induction entries with
  | nil => exact ⟨nofun, fun _ => trivial⟩
  | cons head rest ih => rw [PlainEntries, ih, List.forall_mem_cons]

theorem rereadEntries_eq_map (entries : List (String × Json)) :
    rereadEntries entries = entries.map fun entry => (entry.1, entry.2.reread) := by
  induction entries with
  | nil => rfl
  | cons head rest ih => rw [rereadEntries, ih, List.map_cons]

theorem ascending_rereadEntries {entries : List (String × Json)} (ascending : Ascending entries) :
    Ascending (rereadEntries entries) := by
  rw [rereadEntries_eq_map]
  exact (Members.map reread ⟨entries, ascending⟩).ascending

/-! ### Reading -/

theorem toDocument_ofDouble {x y : FiniteDouble} (h : reread? x = some y) :
    (NumberText.ofDouble x).toDocument = .real (.finite y) := by
  have read : (NumberText.ofDouble x).toDouble? = some y := h
  rw [NumberText.toDocument_of_not_isWhole (NumberText.isWhole_ofDouble x), read, Option.elim_some]

mutual

/-- A plain value is read back up to its doubles. By induction on the value. -/
theorem toJson?_echo : ∀ {value : Json}, value.Plain → value.echo.toJson? = some value.reread
  | null, _ => rfl
  | bool _, _ => rfl
  | string _, _ => rfl
  | real x, plain => by
    obtain ⟨y, hy⟩ := plain
    rw [echo, toDocument_ofDouble hy, Document.toJson?, reread, hy]
    rfl
  | object entries, plain => by
    obtain ⟨ascending, values⟩ := plain
    rw [echo, Document.toJson?, fieldsToJson?_echo values, reread, Option.map_some, Members.toJson,
      Members.entries_ofList (ascending_rereadEntries ascending)]

theorem fieldsToJson?_echo : ∀ {entries : List (String × Json)}, PlainEntries entries →
    Document.fieldsToJson? (echoEntries entries) = some (rereadEntries entries)
  | [], _ => rfl
  | (key, value) :: rest, plain => by
    rw [echoEntries, Document.fieldsToJson?, toJson?_echo plain.1, fieldsToJson?_echo plain.2]
    rfl

end

/-- The entries of a plain object are read back up to their doubles. -/
theorem members?_echo {members : Members} (plain : PlainEntries members.entries) :
    members.toJson.echo.members? = some (members.map reread) := by
  have entries : rereadEntries members.entries = (members.map reread).entries :=
    rereadEntries_eq_map members.entries
  rw [Members.toJson, echo, Document.members?, fieldsToJson?_echo plain, Option.map_some, entries,
    Members.ofList_entries]

/-! ### What is read back exactly -/

mutual

/-- A plain value is read back exactly if each of its doubles is. By induction on the value. -/
theorem reread_eq_self_iff : ∀ {value : Json}, value.Plain →
    (value.reread = value ↔ ∀ path x, (path, real x) ∈ value.leaves → reread? x = some x)
  | null, _ => by simp [reread, leaves]
  | bool _, _ => by simp [reread, leaves]
  | string _, _ => by simp [reread, leaves]
  | real x, plain => by
    obtain ⟨y, hy⟩ := plain
    simp [reread, leaves, hy]
  | object entries, plain => by
    rw [reread, leaves, ← rereadEntries_eq_self_iff plain.2]
    exact ⟨object.inj, congrArg object⟩

theorem rereadEntries_eq_self_iff : ∀ {entries : List (String × Json)}, PlainEntries entries →
    (rereadEntries entries = entries ↔
      ∀ path x, (path, real x) ∈ leavesOfEntries entries → reread? x = some x)
  | [], _ => by simp [rereadEntries, leavesOfEntries]
  | (key, value) :: rest, plain => by
    rw [rereadEntries, leavesOfEntries, List.cons.injEq, Prod.mk.injEq,
      reread_eq_self_iff plain.1, rereadEntries_eq_self_iff plain.2]
    simp only [List.mem_append, List.mem_map, Prod.mk.injEq, true_and]
    constructor
    · rintro ⟨first, others⟩ path x (⟨⟨rest, leaf⟩, mem, _, rfl⟩ | mem)
      · exact first rest x mem
      · exact others path x mem
    · intro all
      exact ⟨fun path x mem => all (key :: path) x (Or.inl ⟨(path, real x), mem, rfl, rfl⟩),
        fun path x mem => all path x (Or.inr mem)⟩

end

/-- The entries of a plain object are read back exactly if each of its doubles is. -/
theorem map_reread_eq_self_iff {members : Members} (plain : PlainEntries members.entries) :
    members.map reread = members ↔
      ∀ path x, (path, real x) ∈ members.toJson.leaves → reread? x = some x := by
  have whole : members.toJson.Plain := ⟨members.ascending, plain⟩
  have same : members.toJson.reread = (members.map reread).toJson :=
    congrArg object (rereadEntries_eq_map members.entries)
  rw [← reread_eq_self_iff whole, same, Members.toJson_injective.eq_iff]

end DeviceModel.Json
