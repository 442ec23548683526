import DeviceModel.Json.Basic
import Mathlib.Data.List.Nodup

/-!
# Paths into a JSON value

A path is a list of keys. `valueAt?` follows it through nested objects, and `leaves` lists whatever
in a value is not an object, with the path that leads to it. An array counts as a whole.
-/

namespace DeviceModel.Json

/-- The value to which a path leads. -/
def valueAt? (value : Json) : List String → Option Json
  | [] => some value
  | key :: path =>
    match value with
    | .object entries => (valueOf? key entries).bind fun inner => inner.valueAt? path
    | _ => none

/-- Whether a value is an object. -/
def isObject : Json → Bool
  | .object _ => true
  | _ => false

mutual

/-- What is not an object, with the keys that lead to it. -/
def leaves : Json → List (List String × Json)
  | object entries => leavesOfEntries entries
  | null => [([], null)]
  | bool b => [([], bool b)]
  | integer n => [([], integer n)]
  | real x => [([], real x)]
  | string s => [([], string s)]
  | array items => [([], array items)]

/-- The leaves under the entries of an object. -/
def leavesOfEntries : List (String × Json) → List (List String × Json)
  | [] => []
  | (key, value) :: rest =>
    value.leaves.map (fun leaf => (key :: leaf.1, leaf.2)) ++ leavesOfEntries rest

end

/-! ### Following a path -/

theorem valueAt?_append (value : Json) (path rest : List String) :
    value.valueAt? (path ++ rest) =
      (value.valueAt? path).bind fun inner => inner.valueAt? rest := by
  induction path generalizing value with
  | nil => rfl
  | cons key path ih =>
    cases value with
    | object entries =>
      simp only [List.cons_append, valueAt?, Option.bind_assoc]
      congr 1
      funext inner
      exact ih inner
    | _ => rfl

/-- A path ends at a value that is not an object. -/
theorem valueAt?_of_not_object {value : Json} (h : value.isObject = false) (key : String)
    (path : List String) : value.valueAt? (key :: path) = none := by
  cases value with
  | object entries => contradiction
  | _ => rfl

/-! ### Leaves -/

theorem leaves_of_not_object {value : Json} (h : value.isObject = false) :
    value.leaves = [([], value)] := by
  cases value with
  | object entries => contradiction
  | _ => rfl

theorem mem_leaves_of_not_object {value leaf : Json} (h : value.isObject = false)
    {path : List String} : (path, leaf) ∈ value.leaves ↔ path = [] ∧ leaf = value := by
  rw [leaves_of_not_object h, List.mem_singleton, Prod.mk.injEq]

theorem nodup_leaves_of_not_object {value : Json} (h : value.isObject = false) :
    value.leaves.Nodup := by
  rw [leaves_of_not_object h]
  exact List.nodup_singleton _

theorem leaves_object (entries : List (String × Json)) :
    (object entries).leaves =
      entries.flatMap fun entry =>
        entry.2.leaves.map fun leaf => (entry.1 :: leaf.1, leaf.2) := by
  rw [leaves]
  induction entries with
  | nil => rfl
  | cons head rest ih => rw [leavesOfEntries, ih, List.flatMap_cons]

theorem mem_leaves_object_iff {entries : List (String × Json)} {path : List String} {leaf : Json} :
    (path, leaf) ∈ (object entries).leaves ↔
      ∃ key value rest, (key, value) ∈ entries ∧ (rest, leaf) ∈ value.leaves ∧
        path = key :: rest := by
  rw [leaves_object, List.mem_flatMap]
  constructor
  · rintro ⟨⟨key, value⟩, mem, inner⟩
    obtain ⟨⟨rest, leaf'⟩, leafMem, he⟩ := List.mem_map.mp inner
    obtain ⟨rfl, rfl⟩ := Prod.mk.injEq .. ▸ he
    exact ⟨key, value, rest, mem, leafMem, rfl⟩
  · rintro ⟨key, value, rest, mem, leafMem, rfl⟩
    exact ⟨(key, value), mem, List.mem_map.mpr ⟨(rest, leaf), leafMem, rfl⟩⟩

/-- No leaf is listed twice if every key occurs once, at the top and further down. -/
theorem nodup_leaves_object {entries : List (String × Json)}
    (distinct : (entries.map (·.1)).Nodup) (inner : ∀ entry ∈ entries, entry.2.leaves.Nodup) :
    (object entries).leaves.Nodup := by
  rw [leaves_object]
  refine List.nodup_flatMap.mpr ⟨fun entry mem => (inner entry mem).map ?_, ?_⟩
  · rintro ⟨path, leaf⟩ ⟨path', leaf'⟩ he
    simpa using he
  · refine (List.pairwise_map.mp distinct).imp fun {a b} different => ?_
    -- leaves under different keys have different paths
    rintro ⟨path, leaf⟩ memA memB
    obtain ⟨_, _, ha⟩ := List.mem_map.mp memA
    obtain ⟨_, _, hb⟩ := List.mem_map.mp memB
    rw [← ha] at hb
    exact different (by simpa using (congrArg (·.1.head?) hb).symm)

end DeviceModel.Json
