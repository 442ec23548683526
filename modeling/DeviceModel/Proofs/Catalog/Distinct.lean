import DeviceModel.Proofs.Catalog.Order
import Mathlib.Data.List.Nodup

/-!
# Which lists are catalogs

A list of descriptors is a catalog unless a suffix repeats an earlier one, and the first suffix that
does is the error (`ofDescriptors_eq_error_iff`). `FirstRepeated` says which one that is: everything
before it is distinct, and it stands there already. Counted by indices it stands at the least one of
those at which a text repeats an earlier one (`firstRepeated_iff_repeatsAt`).

What comes of every list, also of one behind the built-in attributes, and what is found in the
catalog is said together in `ofDescriptors_exact`.
-/

namespace DeviceModel.Catalog

/-- A text stands among the texts before it, and these are distinct. -/
def FirstRepeated (texts : List String) (s : String) : Prop :=
  ∃ before after, texts = before ++ s :: after ∧ before.Nodup ∧ s ∈ before

theorem firstRepeated?_eq_some_iff {seen texts : List String} {s : String} :
    firstRepeated? seen texts = some s ↔ ∃ before after, texts = before ++ s :: after ∧
      before.Nodup ∧ (∀ t ∈ before, t ∉ seen) ∧ (s ∈ before ∨ s ∈ seen) := by
  induction texts generalizing seen with
  | nil => simp [firstRepeated?]
  | cons t rest ih =>
    rw [firstRepeated?]
    split
    next mem =>
      constructor
      · rintro ⟨⟩
        exact ⟨[], rest, rfl, List.nodup_nil, List.forall_mem_nil _, Or.inr mem⟩
      · rintro ⟨before, after, split, _, fresh, _⟩
        cases before with
        | nil => rw [(List.cons.inj split).1]
        | cons b before =>
          obtain ⟨rfl, _⟩ := List.cons.inj split
          exact absurd mem (fresh t List.mem_cons_self)
    next new =>
      rw [ih]
      constructor
      · rintro ⟨before, after, rfl, nodup, fresh, mem⟩
        refine ⟨t :: before, after, rfl, List.nodup_cons.mpr ⟨?_, nodup⟩, ?_, ?_⟩
        · exact fun inside => fresh t inside List.mem_cons_self
        · rw [List.forall_mem_cons]
          exact ⟨new, fun u inside seen => fresh u inside (List.mem_cons_of_mem t seen)⟩
        · simpa [or_assoc, or_left_comm] using mem
      · rintro ⟨before, after, split, nodup, fresh, mem⟩
        cases before with
        | nil =>
          obtain ⟨rfl, _⟩ := List.cons.inj split
          exact absurd (mem.resolve_left List.not_mem_nil) new
        | cons b before =>
          obtain ⟨rfl, rfl⟩ := List.cons.inj split
          obtain ⟨other, nodup⟩ := List.nodup_cons.mp nodup
          rw [List.forall_mem_cons] at fresh
          refine ⟨before, after, rfl, nodup, fun u inside => ?_, ?_⟩
          · rw [List.mem_cons, not_or]
            exact ⟨fun he => other (he ▸ inside), fresh.2 u inside⟩
          · simpa [or_assoc, or_left_comm] using mem

theorem firstRepeated_iff {texts : List String} {s : String} :
    FirstRepeated texts s ↔ firstRepeated? [] texts = some s := by
  simp [FirstRepeated, firstRepeated?_eq_some_iff]

/-! ### Indices -/

/-- The text at an index stands at an earlier one too. -/
def RepeatsAt (texts : List String) (i : Nat) : Prop :=
  i < texts.length ∧ ∃ j < i, texts[j]? = texts[i]?

theorem nodup_iff_not_repeatsAt {texts : List String} :
    texts.Nodup ↔ ∀ i, ¬ RepeatsAt texts i := by
  rw [List.nodup_iff_getElem?_ne_getElem?]
  constructor
  · rintro distinct i ⟨inside, j, earlier, same⟩
    exact distinct j i earlier inside same
  · intro none j i earlier inside same
    exact none i ⟨inside, j, earlier, same⟩

theorem repeatsAt_take_iff {texts : List String} {i k : Nat} :
    RepeatsAt (texts.take i) k ↔ k < i ∧ RepeatsAt texts k := by
  unfold RepeatsAt
  rw [List.length_take, Nat.lt_min, and_assoc]
  refine and_congr_right fun early => and_congr_right fun _ => exists_congr fun j => ?_
  refine and_congr_right fun earlier => ?_
  rw [List.getElem?_take_of_lt early, List.getElem?_take_of_lt (earlier.trans early)]

/-- The first repetition is at the least index at which a text stands that stands earlier too. -/
theorem firstRepeated_iff_repeatsAt {texts : List String} {s : String} :
    FirstRepeated texts s ↔
      ∃ i, RepeatsAt texts i ∧ (∀ k < i, ¬ RepeatsAt texts k) ∧ texts[i]? = some s := by
  constructor
  · rintro ⟨before, after, rfl, nodup, mem⟩
    have here : (before ++ s :: after)[before.length]? = some s := by simp
    obtain ⟨j, earlier, there⟩ := List.getElem_of_mem mem
    refine ⟨before.length, ⟨by simp, j, earlier, ?_⟩, fun k early repeats => ?_, here⟩
    · rw [here, List.getElem?_append_left earlier, List.getElem?_eq_getElem earlier, there]
    · have front : RepeatsAt ((before ++ s :: after).take before.length) k :=
        repeatsAt_take_iff.mpr ⟨early, repeats⟩
      rw [List.take_left] at front
      exact nodup_iff_not_repeatsAt.mp nodup k front
  · rintro ⟨i, ⟨inside, j, earlier, same⟩, first, here⟩
    have there : texts[i] = s := by
      rw [List.getElem?_eq_getElem inside] at here
      exact Option.some.inj here
    refine ⟨texts.take i, texts.drop (i + 1), ?_, ?_, ?_⟩
    · rw [← there, List.getElem_cons_drop, List.take_append_drop]
    · rw [nodup_iff_not_repeatsAt]
      intro k repeats
      obtain ⟨early, repeats⟩ := repeatsAt_take_iff.mp repeats
      exact first k early repeats
    · refine List.mem_of_getElem? (i := j) ?_
      rw [List.getElem?_take_of_lt earlier, same, here]

/-! ### Catalogs -/

/-- **A list that is no catalog is refused for the first suffix that repeats.** -/
theorem ofDescriptors_eq_error_iff {descriptors : List Descriptor} {e : Error} :
    ofDescriptors descriptors = .error e ↔
      ∃ suffix, FirstRepeated (descriptors.map (·.suffix)) suffix ∧
        e = .duplicateSuffix suffix := by
  simp only [firstRepeated_iff]
  unfold ofDescriptors
  split
  next suffix repeated =>
    simp only [repeated, Except.error.injEq, Option.some.injEq, exists_eq_left']
    exact eq_comm
  next distinct =>
    refine iff_of_false nofun ?_
    rintro ⟨suffix, repeated, _⟩
    rw [distinct] at repeated
    contradiction

theorem builtinWith_eq_error_iff {extra : List Descriptor} {e : Error} :
    builtinWith extra = .error e ↔
      ∃ suffix, FirstRepeated ((builtinAttributes ++ extra).map (·.suffix)) suffix ∧
        e = .duplicateSuffix suffix :=
  ofDescriptors_eq_error_iff

theorem isOk_ofDescriptors_iff {descriptors : List Descriptor} :
    (∃ catalog, ofDescriptors descriptors = .ok catalog) ↔ (descriptors.map (·.suffix)).Nodup := by
  constructor
  · rintro ⟨catalog, made⟩
    rw [← ofDescriptors_eq_ok_iff.mp made]
    exact catalog.nodup
  · intro nodup
    exact ⟨⟨descriptors, nodup⟩, ofDescriptors_eq_ok_iff.mpr rfl⟩

/-- Extra attributes are refused if one of them is built in, or two of them have one suffix. -/
theorem isError_builtinWith_iff {extra : List Descriptor} :
    (∃ e, builtinWith extra = .error e) ↔
      (∃ descriptor ∈ extra, descriptor.suffix ∈ builtinAttributes.map (·.suffix)) ∨
        ¬ (extra.map (·.suffix)).Nodup := by
  have refused : (∃ e, builtinWith extra = .error e) ↔
      ¬ ((builtinAttributes ++ extra).map (·.suffix)).Nodup := by
    rw [← isOk_ofDescriptors_iff, builtinWith]
    cases ofDescriptors (builtinAttributes ++ extra) <;> simp
  rw [refused, List.map_append, List.nodup_append', and_iff_right nodup_builtinAttributes,
    not_and_or, or_comm, List.disjoint_right]
  simp only [List.forall_mem_map, not_forall, not_not, exists_prop]

/-- **What comes of a list of attributes.** It is a catalog exactly if its suffixes are distinct,
then with these attributes in this order, and in it an attribute is found by its suffix exactly if
it is registered, and by its type too if it has this type. Otherwise the error names the suffix at
the least index that repeats an earlier one. Behind the built-in attributes the same comes of both
together, so that a list is refused there if it repeats a built-in suffix or one of its own. -/
theorem ofDescriptors_exact (descriptors : List Descriptor) :
    let suffixes := descriptors.map (·.suffix)
    ((∃ catalog, ofDescriptors descriptors = .ok catalog) ↔ suffixes.Nodup) ∧
    (∀ catalog, ofDescriptors descriptors = .ok catalog → catalog.descriptors = descriptors ∧
      ∀ suffix descriptor,
        (catalog.get? suffix = some descriptor ↔
          descriptor ∈ descriptors ∧ descriptor.suffix = suffix) ∧
        ∀ dataType, catalog.find? dataType suffix = some descriptor ↔
          catalog.get? suffix = some descriptor ∧ descriptor.dataType = dataType) ∧
    (∀ e, ofDescriptors descriptors = .error e ↔
      ∃ i suffix, RepeatsAt suffixes i ∧ (∀ k < i, ¬ RepeatsAt suffixes k) ∧
        suffixes[i]? = some suffix ∧ e = .duplicateSuffix suffix) ∧
    builtinWith descriptors = ofDescriptors (builtinAttributes ++ descriptors) ∧
    ((∃ e, builtinWith descriptors = .error e) ↔
      (∃ descriptor ∈ descriptors, descriptor.suffix ∈ builtinAttributes.map (·.suffix)) ∨
        ¬ suffixes.Nodup) := by
  intro suffixes
  refine ⟨isOk_ofDescriptors_iff, ?_, ?_, rfl, isError_builtinWith_iff⟩
  · intro catalog made
    have same : catalog.descriptors = descriptors := ofDescriptors_eq_ok_iff.mp made
    refine ⟨same, fun suffix descriptor => ⟨?_, fun dataType => ?_⟩⟩
    · rw [get?_eq_some_iff, same]
    · rw [find?_eq_some_iff, get?_eq_some_iff, and_assoc]
      exact and_congr_right fun _ => and_comm
  · intro e
    rw [ofDescriptors_eq_error_iff]
    constructor
    · rintro ⟨suffix, repeated, rfl⟩
      obtain ⟨i, here, first, text⟩ := firstRepeated_iff_repeatsAt.mp repeated
      exact ⟨i, suffix, here, first, text, rfl⟩
    · rintro ⟨i, suffix, here, first, text, rfl⟩
      exact ⟨suffix, firstRepeated_iff_repeatsAt.mpr ⟨i, here, first, text⟩, rfl⟩

end DeviceModel.Catalog
