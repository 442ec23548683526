import DeviceModel.Error
import DeviceModel.Proofs.Text.Case

/-!
# Names of data types

A text spells a type if it is one of the names of the type up to the case of ASCII letters
(`Spells`). No two types share a name, so a text spells one type at most (`Spells.unique`), and
although texts are compared in full lower case, no character beyond ASCII comes to a letter of a
name (`not_spells_of_beyond`). `parse_exact` says that a type is read from the texts that spell it,
and that every other text is in the error as it is.

Names in exchange form are exact: a document names a type by its own name
(`ofDocument?_eq_some_iff`), so a type is read from that name as well.
-/

namespace DeviceModel

theorem Document.constant?_eq_some_iff {document : Document} {s : String} :
    document.constant? = some s ↔ document = .text s ∨ document = .table [(s, .null)] := by
  unfold constant?
  split <;> simp_all

namespace DataType

variable {s : String} {type other : DataType}

theorem mem_all (type : DataType) : type ∈ all := by
  cases type <;> decide

/-- The names of a type: its own and, if it has one, its other. -/
def names : DataType → List String
  | bool => ["bool", "boolean"]
  | uint8 => ["uint8", "u8"]
  | uint16 => ["uint16", "u16"]
  | uint32 => ["uint32", "u32"]
  | uint64 => ["uint64", "u64"]
  | int8 => ["int8", "i8"]
  | int16 => ["int16", "i16"]
  | int32 => ["int32", "i32"]
  | string => ["string", "str"]
  | time => ["time"]
  | timePattern => ["timepattern"]

/-- A text spells a type if it is one of its names up to the case of ASCII letters. -/
def Spells (s : String) (type : DataType) : Prop :=
  ∃ name ∈ type.names, Text.equalsIgnoringAsciiCase s name

/-! ### The names -/

theorem names_eq (type : DataType) : type.names = type.name :: type.alias?.toList := by
  cases type <;> rfl

/-- Names are in lower case and have no letter that a character beyond ASCII can become. -/
theorem plain_names (type : DataType) : ∀ name ∈ type.names,
    Text.Plain name.toList ∧ name.toList.map Char.toLower = name.toList := by
  cases type <;> decide

theorem names_disjoint : ∀ type ∈ all, ∀ other ∈ all, ∀ name ∈ type.names,
    name ∈ other.names → type = other := by
  decide

theorem spells_iff :
    Spells s type ↔ ∃ name ∈ type.names, s.toList.map Char.toLower = name.toList := by
  refine exists_congr fun name => and_congr_right fun mem => ?_
  rw [Text.equalsIgnoringAsciiCase_iff, (type.plain_names name mem).2]

theorem spells_name (type : DataType) : Spells type.name type :=
  ⟨type.name, type.names_eq ▸ List.mem_cons_self, Text.equalsIgnoringAsciiCase_iff.mpr rfl⟩

theorem Spells.unique (spells : Spells s type) (spells' : Spells s other) : type = other := by
  obtain ⟨name, mem, lower⟩ := spells_iff.mp spells
  obtain ⟨name', mem', lower'⟩ := spells_iff.mp spells'
  have same : name = name' := String.toList_inj.mp (lower.symm.trans lower')
  exact names_disjoint type type.mem_all other other.mem_all name mem (same ▸ mem')

theorem not_spells_of_beyond {c : Char} (mem : c ∈ s.toList) (beyond : 0x80 ≤ c.toNat)
    (type : DataType) : ¬Spells s type := by
  intro spells
  obtain ⟨name, named, lower⟩ := spells_iff.mp spells
  have plain : Text.Plain (s.toList.map Char.toLower) :=
    lower ▸ (type.plain_names name named).1
  exact absurd (Text.ascii_of_plain_map_toLower plain c mem) (Nat.not_lt.mpr beyond)

/-! ### Reading a name -/

theorem isNamed_iff : isNamed s type ↔ Spells s type := by
  have full : isNamed s type ↔ ∃ name ∈ type.names, Text.lower s.toList = name.toList := by
    simp [isNamed, names_eq, Option.any_eq_true]
  rw [full, spells_iff]
  exact exists_congr fun name => and_congr_right fun mem =>
    Text.lower_eq_iff (type.plain_names name mem).1

theorem ofName?_eq_some_iff : ofName? s = some type ↔ Spells s type := by
  constructor
  · intro found
    have named := List.find?_some found
    exact isNamed_iff.mp named
  · intro spells
    obtain ⟨other, found⟩ := Option.isSome_iff_exists.mp
      (List.find?_isSome.mpr ⟨type, type.mem_all, isNamed_iff.mpr spells⟩)
    have named := List.find?_some found
    rw [ofName?, found, (isNamed_iff.mp named).unique spells]

theorem ofName?_eq_none_iff : ofName? s = none ↔ ∀ type, ¬Spells s type := by
  simp only [Option.eq_none_iff_forall_ne_some, ne_eq, ofName?_eq_some_iff]

theorem parse_of_ofName?_eq_some (found : ofName? s = some type) : parse s = .ok type := by
  rw [parse, found]

theorem parse_of_ofName?_eq_none (absent : ofName? s = none) :
    parse s = .error (.unknownDataType s) := by
  rw [parse, absent]

theorem parse_eq_ok_iff : parse s = .ok type ↔ Spells s type := by
  rw [← ofName?_eq_some_iff]
  cases found : ofName? s with
  | none => simp [parse_of_ofName?_eq_none found]
  | some other => simp [parse_of_ofName?_eq_some found]

theorem parse_eq_error_iff {e : Error} :
    parse s = .error e ↔ (∀ type, ¬Spells s type) ∧ e = .unknownDataType s := by
  rw [← ofName?_eq_none_iff]
  cases found : ofName? s with
  | none => simp [parse_of_ofName?_eq_none found, eq_comm]
  | some other => simp [parse_of_ofName?_eq_some found]

/-! ### Exact names -/

theorem ofExactName?_eq_some_iff : ofExactName? s = some type ↔ s = type.name := by
  constructor
  · intro found
    have named := List.find?_some found
    exact (beq_iff_eq.mp named).symm
  · rintro rfl
    cases type <;> rfl

theorem ofDocument?_name (type : DataType) : ofDocument? (.text type.name) = some type :=
  ofExactName?_eq_some_iff.mpr rfl

/-- A document names a type as a text or as a constant without a value. -/
theorem ofDocument?_eq_some_iff {document : Document} :
    ofDocument? document = some type ↔
      document = .text type.name ∨ document = .table [(type.name, .null)] := by
  rw [← Document.constant?_eq_some_iff, ofDocument?, Option.bind_eq_some_iff]
  simp only [ofExactName?_eq_some_iff, exists_eq_right]

/-- **What names of types are read.** A text is read as a type exactly if it is the name or the
other name of the type up to the case of ASCII letters. Every other text, and with it every text
with a character beyond ASCII, is an error that holds the text as it is. So the name of a type is
read as the type, no text spells two types, and what a document names exactly is read as the type
that the document holds. -/
theorem parse_exact :
    (∀ s type, parse s = .ok type ↔ Spells s type) ∧
    (∀ s e, parse s = .error e ↔ (∀ type, ¬Spells s type) ∧ e = .unknownDataType s) ∧
    (∀ s, (∃ c ∈ s.toList, 0x80 ≤ c.toNat) → parse s = .error (.unknownDataType s)) ∧
    (∀ type, parse type.name = .ok type) ∧
    (∀ s type other, Spells s type → Spells s other → type = other) ∧
    (∀ document type, ofDocument? document = some type →
      ∃ s, (document = .text s ∨ document = .table [(s, .null)]) ∧ parse s = .ok type) := by
  have own (type : DataType) : parse type.name = .ok type :=
    parse_eq_ok_iff.mpr type.spells_name
  refine ⟨fun s type => parse_eq_ok_iff, fun s e => parse_eq_error_iff, ?_, own,
    fun s type other => Spells.unique, ?_⟩
  · rintro s ⟨c, mem, beyond⟩
    exact parse_eq_error_iff.mpr ⟨not_spells_of_beyond mem beyond, rfl⟩
  · intro document type held
    exact ⟨type.name, ofDocument?_eq_some_iff.mp held, own type⟩

example : parse "TimePattern" = .ok .timePattern := rfl

example : parse "TİME" = .error (.unknownDataType "TİME") := rfl

end DataType

end DeviceModel
