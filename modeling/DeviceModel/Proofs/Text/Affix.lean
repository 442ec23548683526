import DeviceModel.Text.Affix
import Mathlib.Data.List.TakeDrop
import Mathlib.Data.List.TakeWhile

/-!
# Beginnings, endings and first separators of texts

`startsWith` and `endsWith` are the prefix and the suffix relation of lists of characters
(`startsWith_iff`, `endsWith_iff`). `splitFirst?` takes a
text apart exactly if it is put together from a beginning without the separator, the separator and
an end (`splitFirst?_eq_some_iff`), and there is only one way to do so.
-/

namespace DeviceModel.Text

theorem startsWith_iff {s start : String} : startsWith s start ↔ start.toList <+: s.toList :=
  List.isPrefixOf_iff_prefix

theorem endsWith_iff {s ending : String} : endsWith s ending ↔ ending.toList <:+ s.toList :=
  List.isSuffixOf_iff_suffix

theorem afterWord?_append (word : String) (rest : List Char) :
    afterWord? word (word.toList ++ rest) = some rest := by
  rw [afterWord?, if_pos (List.isPrefixOf_iff_prefix.mpr (List.prefix_append _ _)), List.drop_left]

theorem endsWith_append (start ending : String) : endsWith (start ++ ending) ending := by
  rw [endsWith_iff, String.toList_append]
  exact List.suffix_append _ _

/-! ### The first separator -/

variable {separator : Char} {s before after : String}

theorem splitFirst?_of_not_mem (h : separator ∉ s.toList) : splitFirst? separator s = none := by
  have other : ∀ c ∈ s.toList, (c != separator) = true := fun c mem =>
    bne_iff_ne.mpr fun he => h (he ▸ mem)
  rw [splitFirst?, List.span_eq_takeWhile_dropWhile, List.dropWhile_eq_nil_iff.mpr other]

theorem splitFirst?_of_append (h : separator ∉ before.toList)
    (hs : s.toList = before.toList ++ separator :: after.toList) :
    splitFirst? separator s = some (before, after) := by
  have other : ∀ c ∈ before.toList, (c != separator) = true := fun c mem =>
    bne_iff_ne.mpr fun he => h (he ▸ mem)
  rw [splitFirst?, hs, List.span_eq_takeWhile_dropWhile, List.takeWhile_append_of_pos other,
    List.dropWhile_append_of_pos other, List.takeWhile_cons_of_neg (by simp),
    List.dropWhile_cons_of_neg (by simp), List.append_nil]
  simp only [String.ofList_toList]

/-- A text has a separator, and is split at the first one, or it has none, and is not split. -/
theorem splitFirst?_cases (separator : Char) (s : String) :
    (separator ∉ s.toList ∧ splitFirst? separator s = none) ∨
      ∃ before after, separator ∉ before.toList ∧
        s.toList = before.toList ++ separator :: after.toList ∧
        splitFirst? separator s = some (before, after) := by
  by_cases h : separator ∈ s.toList
  · right
    obtain ⟨before, after, hs, first⟩ := List.eq_append_cons_of_mem h
    have notMem : separator ∉ (String.ofList before).toList := by rwa [String.toList_ofList]
    have parts : s.toList =
        (String.ofList before).toList ++ separator :: (String.ofList after).toList := by
      rw [String.toList_ofList, String.toList_ofList, hs]
    exact ⟨_, _, notMem, parts, splitFirst?_of_append notMem parts⟩
  · exact Or.inl ⟨h, splitFirst?_of_not_mem h⟩

theorem splitFirst?_eq_none_iff : splitFirst? separator s = none ↔ separator ∉ s.toList := by
  rcases splitFirst?_cases separator s with ⟨notMem, he⟩ | ⟨before, after, _, hs, he⟩
  · exact iff_of_true he notMem
  · rw [he, hs]
    simp

theorem splitFirst?_eq_some_iff :
    splitFirst? separator s = some (before, after) ↔
      separator ∉ before.toList ∧ s.toList = before.toList ++ separator :: after.toList := by
  constructor
  · intro h
    rcases splitFirst?_cases separator s with ⟨_, he⟩ | ⟨before', after', notMem, hs, he⟩
    · rw [he] at h
      contradiction
    · rw [he, Option.some.injEq, Prod.mk.injEq] at h
      rw [← h.1, ← h.2]
      exact ⟨notMem, hs⟩
  · rintro ⟨notMem, hs⟩
    exact splitFirst?_of_append notMem hs

end DeviceModel.Text
