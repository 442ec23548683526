import DeviceModel.Proofs.Json.Reading
import DeviceModel.Proofs.Moment.Rfc3339
import DeviceModel.Value.Tagged

/-!
# Values in exchange form read back

The content of a value that is no double is written so that it is read again (`ofContent?_echo`):
truth values and texts as themselves, an integer of 64 bits to both ends of the range, and a point
in time by its exchange form. Null has no content. What is read is the value itself but for a point
in time that is not regular, of which it is the regular one (`settled`).

The main statement is `ofDocument?_toTagged`: which values are read back from their texts, and what
is read of the others.
-/

namespace DeviceModel

namespace Value

open Json

/-- A table with a kind and a content. -/
theorem ofDocument?_table (tag : String) (content : Document) :
    ofDocument? (.table [("kind", .text tag), ("value", content)]) = ofContent? tag content :=
  rfl

theorem ofDocument?_table_null :
    ofDocument? (.table [("kind", .text "Null")]) = some null :=
  rfl

theorem ofContent?_dateTime (s : String) :
    ofContent? "DateTime" (.text s) = (Moment.ofRfc3339? s).map dateTime :=
  rfl

/-- The value that is read of the exchange form of this one. -/
def settled : Value → Value
  | dateTime t => dateTime t.settled
  | value => value

theorem settled_eq_self_iff {value : Value} :
    value.settled = value ↔ ∀ t, value = .dateTime t → t.Regular := by
  cases value with
  | dateTime t =>
    rw [settled, dateTime.injEq, Moment.settled_eq_self_iff]
    exact ⟨fun regular t' same => dateTime.inj same ▸ regular, fun h => h t rfl⟩
  | _ => exact iff_of_true rfl fun _ same => nomatch same

theorem ofContent?_echo {value : Value} (noDouble : ∀ x, value ≠ .float x) {content : Json}
    (h : value.content? = some content) :
    ofContent? value.tag content.echo = some value.settled := by
  cases value with
  | null => contradiction
  | bool b =>
    obtain rfl := Option.some.inj h
    rfl
  | int n =>
    obtain rfl := Option.some.inj h
    rw [echo_int64]
    show (fitInt64? n.toInt).map int = _
    rw [fitInt64?_toInt, Option.map_some]
    rfl
  | float x => exact absurd rfl (noDouble x)
  | string s =>
    obtain rfl := Option.some.inj h
    rfl
  | dateTime t =>
    obtain rfl := Option.some.inj h
    rw [echo, tag, ofContent?_dateTime, Moment.ofRfc3339?_rfc3339, Option.map_some, settled]

theorem depth_toTagged (value : Value) : value.toTagged.depth = 1 := by
  cases value with
  | float x => cases x <;> rfl
  | _ => rfl

theorem read_toTagged {value : Value} (noDouble : ∀ x, value ≠ .float x) :
    (Document.ofJsonText? value.toTagged.text).bind ofDocument? = some value.settled := by
  have shallow : value.toTagged.depth ≤ depthLimit := by
    rw [depth_toTagged]
    decide
  rw [Document.ofJsonText?_text shallow, Option.bind_some, toTagged]
  cases h : value.content? with
  | none =>
    cases value with
    | null => exact ofDocument?_table_null
    | _ => contradiction
  | some content =>
    have read := ofContent?_echo noDouble h
    rwa [← ofDocument?_table] at read

/-- **A value that is no double is read back from its exchange form**: null, a truth value, an
integer of 64 bits, a text of any characters, and a point in time to the nanosecond, in a leap
second and in every year. The only points in time that are not have a second or more of nanoseconds
in a second that does not end its minute; of these the next second is read, with a second of
nanoseconds less. -/
theorem ofDocument?_toTagged {value : Value} (noDouble : ∀ x, value ≠ .float x) :
    let decoded := (Document.ofJsonText? value.toTagged.text).bind ofDocument?
    (decoded = some value ↔
      ∀ t, value = .dateTime t → t.nanos < 1000000000 ∨ t.seconds % 60 = 59) ∧
    ∀ t, value = .dateTime t → 1000000000 ≤ t.nanos → t.seconds % 60 ≠ 59 →
      ∃ next : Moment, decoded = some (.dateTime next) ∧
        next.seconds = t.seconds + 1 ∧ next.nanos + 1000000000 = t.nanos := by
  intro decoded
  have read : decoded = some value.settled := read_toTagged noDouble
  refine ⟨?_, ?_⟩
  · rw [read, Option.some.injEq]
    exact settled_eq_self_iff
  · rintro t rfl beyond inside
    have irregular : ¬ t.Regular := not_or.mpr ⟨not_lt.mpr beyond, inside⟩
    exact ⟨t.settled, read, Moment.settled_of_not_regular irregular⟩

/-- The last nanosecond of a leap second in the year before the year zero. -/
def leapSecond : Moment :=
  ⟨-62167219201, 1999999999, by decide, by decide⟩

theorem ofDocument?_toTagged_leapSecond :
    (∀ x, dateTime leapSecond ≠ .float x) ∧
      leapSecond.rfc3339 = "-0001-12-31T23:59:60.999999999Z" ∧
      (Document.ofJsonText? (dateTime leapSecond).toTagged.text).bind ofDocument? =
        some (dateTime leapSecond) := by
  have noDouble : ∀ x, dateTime leapSecond ≠ .float x := fun _ same => nomatch same
  have regular : ∀ t, dateTime leapSecond = .dateTime t →
      t.nanos < 1000000000 ∨ t.seconds % 60 = 59 := by
    intro t same
    obtain rfl := dateTime.inj same
    exact .inr (by decide)
  exact ⟨noDouble, by decide +kernel, (ofDocument?_toTagged noDouble).1.mpr regular⟩

/-- A second and a half from the beginning of second 5. -/
def overfullSecond : Moment :=
  ⟨5, 1500000000, by decide, by decide⟩

/-- The exchange form shows half a second from the beginning of second 6. -/
theorem overfullSecond_not_read_back :
    (dateTime overfullSecond).toTagged.text =
        "\x7b\"kind\":\"DateTime\",\"value\":\"1970-01-01T00:00:06.500Z\"\x7d" ∧
      (Document.ofJsonText? (dateTime overfullSecond).toTagged.text).bind ofDocument? ≠
        some (dateTime overfullSecond) := by
  have noDouble : ∀ x, dateTime overfullSecond ≠ .float x := fun _ same => nomatch same
  refine ⟨by decide +kernel, ?_⟩
  rw [read_toTagged noDouble, Ne, Option.some.injEq]
  intro same
  have regular : overfullSecond.Regular := settled_eq_self_iff.mp same _ rfl
  exact absurd regular (by decide)

end Value

end DeviceModel
