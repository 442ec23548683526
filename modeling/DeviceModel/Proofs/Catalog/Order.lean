import DeviceModel.Proofs.Catalog.Lookup
import DeviceModel.Proofs.Text.Affix

/-!
# Whether the order of a catalog matters

A key is classified by the first descriptor whose suffix it ends with, so where two suffixes end
one key, the order of registration decides. Of two suffixes that end one key, one ends the other. So
this can only happen if one registered suffix ends another (`eq_of_suffix_of_suffix`), and exactly
then `ambiguousSuffixes` is not empty (`ambiguousSuffixes_eq_nil_iff`).

The main statement is `ambiguousSuffixes_eq_nil_iff_forall_perm`: a catalog without ambiguous
suffixes classifies every key as each rearrangement of it does, and no other catalog does.
-/

namespace DeviceModel.Catalog

open Text

/-- A catalog is made of every list of descriptors with distinct suffixes, and of no other list. -/
theorem ofDescriptors_eq_ok_iff {descriptors : List Descriptor} {catalog : Catalog} :
    ofDescriptors descriptors = .ok catalog ↔ catalog.descriptors = descriptors := by
  unfold ofDescriptors
  split
  next suffix repeated =>
    refine iff_of_false nofun fun he => ?_
    have none := firstRepeated?_eq_none_iff.mpr ⟨catalog.nodup, fun s _ => List.not_mem_nil⟩
    rw [he, repeated] at none
    contradiction
  next distinct =>
    rw [Except.ok.injEq, Catalog.mk.injEq]
    exact eq_comm

theorem eq_of_suffix_eq {catalog : Catalog} {a b : Descriptor} (ha : a ∈ catalog.descriptors)
    (hb : b ∈ catalog.descriptors) (h : a.suffix = b.suffix) : a = b :=
  List.inj_on_of_nodup_map catalog.nodup ha hb h

/-! ### Suffixes that end each other -/

/-- A suffix of two registered ones, of which the second is longer and ends with the first. -/
theorem mem_ambiguousSuffixes_iff {catalog : Catalog} {shorter longer : String} :
    (shorter, longer) ∈ catalog.ambiguousSuffixes ↔
      ∃ a ∈ catalog.descriptors, ∃ b ∈ catalog.descriptors,
        a.suffix = shorter ∧ b.suffix = longer ∧
          shorter.toList.length < longer.toList.length ∧ shorter.toList <:+ longer.toList := by
  simp only [ambiguousSuffixes, List.mem_flatMap, List.mem_map, List.mem_filter, Bool.and_eq_true,
    decide_eq_true_eq, endsWith_iff, Prod.mk.injEq]
  constructor
  · rintro ⟨_, ⟨a, ha, rfl⟩, _, ⟨⟨b, hb, rfl⟩, less, ends⟩, rfl, rfl⟩
    exact ⟨a, ha, b, hb, rfl, rfl, less, ends⟩
  · rintro ⟨a, ha, b, hb, rfl, rfl, less, ends⟩
    exact ⟨_, ⟨a, ha, rfl⟩, _, ⟨⟨b, hb, rfl⟩, less, ends⟩, rfl, rfl⟩

/-- There are no ambiguous suffixes exactly if no suffix ends another. -/
theorem ambiguousSuffixes_eq_nil_iff {catalog : Catalog} :
    catalog.ambiguousSuffixes = [] ↔
      ∀ a ∈ catalog.descriptors, ∀ b ∈ catalog.descriptors,
        a.suffix.toList <:+ b.suffix.toList → a = b := by
  rw [List.eq_nil_iff_forall_not_mem]
  constructor
  · intro none a ha b hb ends
    refine eq_of_suffix_eq ha hb (String.toList_injective (ends.eq_of_length_le ?_))
    refine Nat.le_of_not_lt fun less => none (a.suffix, b.suffix) ?_
    exact mem_ambiguousSuffixes_iff.mpr ⟨a, ha, b, hb, rfl, rfl, less, ends⟩
  · rintro apart ⟨shorter, longer⟩ mem
    obtain ⟨a, ha, b, hb, rfl, rfl, less, ends⟩ := mem_ambiguousSuffixes_iff.mp mem
    rw [apart a ha b hb ends] at less
    exact Nat.lt_irrefl _ less

/-- If no suffix ends another, at most one of them ends a key. -/
theorem eq_of_suffix_of_suffix {catalog : Catalog}
    (apart : ∀ a ∈ catalog.descriptors, ∀ b ∈ catalog.descriptors,
      a.suffix.toList <:+ b.suffix.toList → a = b)
    {a b : Descriptor} (ha : a ∈ catalog.descriptors) (hb : b ∈ catalog.descriptors) {key : String}
    (endsA : a.suffix.toList <:+ key.toList) (endsB : b.suffix.toList <:+ key.toList) : a = b := by
  rcases Nat.le_total a.suffix.toList.length b.suffix.toList.length with le | le
  · exact apart a ha b hb (List.suffix_of_suffix_length_le endsA endsB le)
  · exact (apart b hb a ha (List.suffix_of_suffix_length_le endsB endsA le)).symm

/-! ### Classification -/

theorem matchesKey_iff {descriptor : Descriptor} {key : String} :
    descriptor.matchesKey key ↔ descriptor.suffix.toList <:+ key.toList :=
  endsWith_iff

/-- A key is classified by a registered descriptor whose suffix it ends with. -/
theorem mem_and_suffix_of_lookup? {catalog : Catalog} {key : String} {descriptor : Descriptor}
    (h : catalog.lookup? key = some descriptor) :
    descriptor ∈ catalog.descriptors ∧ descriptor.suffix.toList <:+ key.toList :=
  ⟨List.mem_of_find?_eq_some h,
    matchesKey_iff.mp (List.find?_some (p := fun d : Descriptor => d.matchesKey key) h)⟩

/-- Without ambiguous suffixes it is the only one. -/
theorem lookup?_eq_some_iff {catalog : Catalog} (none : catalog.ambiguousSuffixes = [])
    {key : String} {descriptor : Descriptor} :
    catalog.lookup? key = some descriptor ↔
      descriptor ∈ catalog.descriptors ∧ descriptor.suffix.toList <:+ key.toList := by
  constructor
  · exact mem_and_suffix_of_lookup?
  · rintro ⟨mem, ends⟩
    cases found : catalog.lookup? key with
    | none => exact absurd (matchesKey_iff.mpr ends) (List.find?_eq_none.mp found _ mem)
    | some first =>
      obtain ⟨firstMem, firstEnds⟩ := mem_and_suffix_of_lookup? found
      rw [eq_of_suffix_of_suffix (ambiguousSuffixes_eq_nil_iff.mp none) firstMem mem firstEnds ends]

theorem lookup?_of_cons {catalog : Catalog} {descriptor : Descriptor} {rest : List Descriptor}
    (order : catalog.descriptors = descriptor :: rest) {key : String}
    (ends : descriptor.suffix.toList <:+ key.toList) : catalog.lookup? key = some descriptor := by
  rw [lookup?, order]
  exact List.find?_cons_of_pos (matchesKey_iff.mpr ends)

theorem lookup?_of_perm {catalog permuted : Catalog} (none : catalog.ambiguousSuffixes = [])
    (perm : permuted.descriptors.Perm catalog.descriptors) (key : String) :
    permuted.lookup? key = catalog.lookup? key := by
  have none' : permuted.ambiguousSuffixes = [] := by
    rw [ambiguousSuffixes_eq_nil_iff] at none ⊢
    simpa only [perm.mem_iff] using none
  ext descriptor
  rw [lookup?_eq_some_iff none, lookup?_eq_some_iff none', perm.mem_iff]

theorem builtin_ambiguousSuffixes : builtin.ambiguousSuffixes = [] := by
  decide +kernel

/-- **The ambiguous suffixes are exactly what stands in the way of a classification that does not
depend on the order.** There are none of them if and only if every rearrangement of the catalog,
which is a catalog too, classifies every key in the same way. Then a key is classified by a
descriptor just if it is registered and its suffix ends the key, so whatever stands in front of a
suffix does not matter. This holds of the built-in attributes. -/
theorem ambiguousSuffixes_eq_nil_iff_forall_perm (catalog : Catalog) :
    (catalog.ambiguousSuffixes = [] ↔
      ∀ descriptors : List Descriptor, descriptors.Perm catalog.descriptors →
        ∃ permuted, ofDescriptors descriptors = .ok permuted ∧
          ∀ key, permuted.lookup? key = catalog.lookup? key) ∧
    (catalog.ambiguousSuffixes = [] →
      (∀ key descriptor, catalog.lookup? key = some descriptor ↔
        descriptor ∈ catalog.descriptors ∧ descriptor.suffix.toList <:+ key.toList) ∧
      ∀ descriptor ∈ catalog.descriptors, ∀ start : String,
        catalog.lookup? (start ++ descriptor.suffix) = some descriptor) ∧
    builtin.ambiguousSuffixes = [] := by
  refine ⟨⟨?_, ?_⟩, ?_, builtin_ambiguousSuffixes⟩
  · intro none descriptors perm
    have distinct : (descriptors.map (·.suffix)).Nodup :=
      (perm.map _).nodup_iff.mpr catalog.nodup
    exact ⟨⟨descriptors, distinct⟩, ofDescriptors_eq_ok_iff.mpr rfl, lookup?_of_perm none perm⟩
  · intro same
    rw [ambiguousSuffixes_eq_nil_iff]
    intro a ha b hb ends
    -- the key is the longer suffix; it is classified by whichever of the two comes first
    have first {d : Descriptor} (hd : d ∈ catalog.descriptors)
        (hends : d.suffix.toList <:+ b.suffix.toList) : catalog.lookup? b.suffix = some d := by
      obtain ⟨permuted, made, lookups⟩ := same _ (List.perm_cons_erase hd).symm
      rw [← lookups]
      exact lookup?_of_cons (ofDescriptors_eq_ok_iff.mp made) hends
    exact Option.some.inj ((first ha ends).symm.trans (first hb (List.suffix_refl _)))
  · intro none
    refine ⟨fun key descriptor => lookup?_eq_some_iff none, fun descriptor mem start => ?_⟩
    exact (lookup?_eq_some_iff none).mpr
      ⟨mem, endsWith_iff.mp (endsWith_append start descriptor.suffix)⟩

/-- The key `state/on` is that of whichever of the two comes first. -/
example :
    let catalog : Catalog := ⟨[⟨"on", .bool, 0, 0⟩, ⟨"state/on", .bool, 0, 0⟩], by decide⟩
    catalog.ambiguousSuffixes = [("on", "state/on")] := by
  decide +kernel

end DeviceModel.Catalog
