import DeviceModel.Catalog.Basic
import DeviceModel.Proofs.Text.Affix
import DeviceModel.Resource.Basic

/-!
# Where attributes stand in JSON

The JSON form of a resource has the value of an attribute under one key or under two. `HasPath` says
which: `attr/k` leads to `k`, a suffix without a slash to itself, and `g/k` to `k` in the group `g`.
`pathOf` computes the path (`hasPath_iff`). Only places that are the same have the same path
(`Place.path_injective`).

A catalog is `Separate` if no path begins with the path of another attribute. The built-in one is
(`separate_builtin`): none of its identity attributes has the name of a group.
-/

namespace DeviceModel.Resource

open Text

/-! ### Places and paths -/

/-- The keys that lead to a place. -/
def Place.path : Place → List String
  | .top key => [key]
  | .grouped group key => [group, key]

theorem Place.path_injective : Function.Injective Place.path := by
  intro a b h
  cases a <;> cases b <;> simp_all [path]

/-- The keys that lead to the value of an attribute. -/
def pathOf (suffix : String) : List String :=
  (Place.ofSuffix suffix).path

/-- Which keys lead to the value of an attribute, by the parts of its suffix. -/
inductive HasPath : String → List String → Prop
  | identity (key : String) : HasPath ("attr/" ++ key) [key]
  | plain {suffix : String} : '/' ∉ suffix.toList → HasPath suffix [suffix]
  | grouped {group : String} (key : String) : '/' ∉ group.toList → group ≠ "attr" →
      HasPath (group ++ "/" ++ key) [group, key]

theorem toList_joined (group key : String) :
    (group ++ "/" ++ key).toList = group.toList ++ '/' :: key.toList := by
  rw [String.toList_append, String.toList_append, List.append_assoc]
  rfl

theorem splitFirst?_joined {group : String} (h : '/' ∉ group.toList) (key : String) :
    splitFirst? '/' (group ++ "/" ++ key) = some (group, key) :=
  splitFirst?_of_append h (toList_joined group key)

theorem eq_joined_of_splitFirst? {suffix group key : String}
    (h : splitFirst? '/' suffix = some (group, key)) :
    '/' ∉ group.toList ∧ suffix = group ++ "/" ++ key := by
  obtain ⟨notMem, parts⟩ := splitFirst?_eq_some_iff.mp h
  exact ⟨notMem, String.toList_injective (parts.trans (toList_joined group key).symm)⟩

theorem eq_joined_of_ofSuffix {suffix group key : String}
    (h : Place.ofSuffix suffix = .grouped group key) : suffix = group ++ "/" ++ key := by
  rw [Place.ofSuffix] at h
  split at h
  next group' key' split =>
    split at h
    · contradiction
    · obtain ⟨rfl, rfl⟩ := Place.grouped.inj h
      exact (eq_joined_of_splitFirst? split).2
  next => contradiction

theorem ofSuffix_identity (key : String) : Place.ofSuffix ("attr/" ++ key) = .top key := by
  have split : splitFirst? '/' ("attr" ++ "/" ++ key) = some ("attr", key) :=
    splitFirst?_joined (by decide) key
  have joined : "attr/" ++ key = "attr" ++ "/" ++ key := rfl
  rw [Place.ofSuffix, joined, split]
  rfl

theorem ofSuffix_grouped {group : String} (h : '/' ∉ group.toList) (other : group ≠ "attr")
    (key : String) : Place.ofSuffix (group ++ "/" ++ key) = .grouped group key := by
  rw [Place.ofSuffix, splitFirst?_joined h]
  exact if_neg other

theorem ofSuffix_plain {suffix : String} (h : '/' ∉ suffix.toList) :
    Place.ofSuffix suffix = .top suffix := by
  rw [Place.ofSuffix, splitFirst?_of_not_mem h]

theorem hasPath_pathOf (suffix : String) : HasPath suffix (pathOf suffix) := by
  cases h : splitFirst? '/' suffix with
  | none =>
    have plain := splitFirst?_eq_none_iff.mp h
    rw [pathOf, ofSuffix_plain plain]
    exact .plain plain
  | some parts =>
    obtain ⟨group, key⟩ := parts
    obtain ⟨notMem, rfl⟩ := eq_joined_of_splitFirst? h
    by_cases attr : group = "attr"
    · subst attr
      rw [pathOf, show "attr" ++ "/" ++ key = "attr/" ++ key from rfl, ofSuffix_identity]
      exact .identity key
    · rw [pathOf, ofSuffix_grouped notMem attr]
      exact .grouped key notMem attr

/-- A suffix leads nowhere but to its path. -/
theorem hasPath_iff {suffix : String} {path : List String} :
    HasPath suffix path ↔ path = pathOf suffix := by
  constructor
  · intro h
    cases h with
    | identity key => rw [pathOf, ofSuffix_identity]; rfl
    | plain notMem => rw [pathOf, ofSuffix_plain notMem]; rfl
    | grouped key notMem other => rw [pathOf, ofSuffix_grouped notMem other]; rfl
  · rintro rfl
    exact hasPath_pathOf suffix

/-! ### Paths that keep apart -/

/-- No path is the beginning of the path of another suffix, nor the same. -/
def Separate (suffixes : List String) : Prop :=
  ∀ a ∈ suffixes, ∀ b ∈ suffixes, pathOf a <+: pathOf b → a = b

theorem Separate.mono {suffixes others : List String} (h : Separate suffixes)
    (subset : others ⊆ suffixes) : Separate others :=
  fun a ha b hb => h a (subset ha) b (subset hb)

/-- The groups of the built-in attributes. -/
def builtinGroups : List String :=
  ["state", "config", "action"]

/-- Whether a suffix is in a built-in group or is that of an identity attribute without the name of
such a group. -/
def isRegular (suffix : String) : Bool :=
  match Place.ofSuffix suffix with
  | .top key => suffix == "attr/" ++ key && !builtinGroups.contains key
  | .grouped group _ => builtinGroups.contains group

theorem isRegular_builtin :
    (Catalog.builtinAttributes.all fun descriptor => isRegular descriptor.suffix) = true := by
  decide +kernel

theorem isRegular_cases {suffix : String} (h : isRegular suffix) :
    (∃ key, suffix = "attr/" ++ key ∧ key ∉ builtinGroups ∧ pathOf suffix = [key]) ∨
      ∃ group key, suffix = group ++ "/" ++ key ∧ group ∈ builtinGroups ∧
        pathOf suffix = [group, key] := by
  rw [isRegular] at h
  split at h
  next key place =>
    rw [Bool.and_eq_true, beq_iff_eq, Bool.not_eq_true', List.contains_eq_mem,
      decide_eq_false_iff_not] at h
    exact Or.inl ⟨key, h.1, h.2, by rw [pathOf, place]; rfl⟩
  next group key place =>
    rw [List.contains_eq_mem, decide_eq_true_eq] at h
    exact Or.inr ⟨group, key, eq_joined_of_ofSuffix place, h, by rw [pathOf, place]; rfl⟩

theorem separate_of_isRegular {suffixes : List String} (h : ∀ s ∈ suffixes, isRegular s) :
    Separate suffixes := by
  intro a ha b hb starts
  rcases isRegular_cases (h a ha) with ⟨key, rfl, notGroup, pathA⟩ | ⟨group, key, rfl, _, pathA⟩
  · rcases isRegular_cases (h b hb) with ⟨key', rfl, _, pathB⟩ | ⟨group', key', rfl, mem, pathB⟩
    · rw [pathA, pathB, List.cons_prefix_cons] at starts
      rw [starts.1]
    -- an identity attribute with the name of a group
    · rw [pathA, pathB, List.cons_prefix_cons] at starts
      exact absurd (starts.1 ▸ mem) notGroup
  · rcases isRegular_cases (h b hb) with ⟨key', rfl, _, pathB⟩ | ⟨group', key', rfl, _, pathB⟩
    · rw [pathA, pathB, List.cons_prefix_cons, List.prefix_nil] at starts
      exact absurd starts.2 (List.cons_ne_nil _ _)
    · rw [pathA, pathB, List.cons_prefix_cons, List.cons_prefix_cons] at starts
      rw [starts.1, starts.2.1]

theorem separate_builtin : Separate (Catalog.builtinAttributes.map (·.suffix)) := by
  refine separate_of_isRegular fun s mem => ?_
  obtain ⟨descriptor, builtin, rfl⟩ := List.mem_map.mp mem
  exact List.all_eq_true.mp isRegular_builtin descriptor builtin

end DeviceModel.Resource
