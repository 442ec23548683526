import DeviceModel.Json.Reader
import DeviceModel.Proofs.Double.Bits
import DeviceModel.Proofs.Double.Closest
import DeviceModel.Value.Basic

/-!
# Values as JSON and back

A value is turned into JSON and JSON into a value. `Value.Kept` and `Json.Kept` are the ones that
come back as they were. All others are changed once and never again: the JSON of a value is kept
(`kept_toJson`), and so is the value of a JSON value whose integers have 64 bits (`kept_ofJson`), as
they have in every text that is read (`Json.fitsWords_of_ofJsonText?`). An integer that is no value
of 64 bits with sign becomes the nearest double. `json_exact` puts this together.
-/

namespace DeviceModel

namespace Json

/-! ### Integers of a text -/

/-- An integer has 64 bits, with or without sign. -/
def FitsWords : Json → Prop
  | integer n => -2 ^ 63 ≤ n ∧ n < 2 ^ 64
  | _ => True

theorem bounds_of_toDocument {number : NumberText} {n : Int}
    (h : number.toDocument = .integer n) : -2 ^ 63 ≤ n ∧ n < 2 ^ 64 := by
  unfold NumberText.toDocument at h
  dsimp only at h
  split_ifs at h with positive negative
  · obtain rfl := Document.integer.inj h
    simp only [Bool.and_eq_true, decide_eq_true_eq] at positive
    omega
  · obtain rfl := Document.integer.inj h
    simp only [Bool.and_eq_true, decide_eq_true_eq] at negative
    omega
  · split at h <;> contradiction

/-- Of all that stands in a text only a number can be read as an integer. -/
theorem bounds_of_readValue? {fuel depth : Nat} {s rest : List Char} {n : Int}
    (h : readValue? fuel depth s = some (.integer n, rest)) : -2 ^ 63 ≤ n ∧ n < 2 ^ 64 := by
  cases fuel with
  | zero =>
    rw [readValue?] at h
    contradiction
  | succ fuel =>
    rw [readValue?] at h
    split at h
    next =>
      obtain ⟨⟨text, _⟩, _, he⟩ := Option.map_eq_some_iff.mp h
      cases text <;> cases he
    next =>
      split at h
      next => split at h <;> cases h
      next =>
        obtain ⟨⟨items, _⟩, _, he⟩ := Option.map_eq_some_iff.mp h
        dsimp only at he
        split at he <;> cases he
    next =>
      split at h
      next => split at h <;> cases h
      next =>
        obtain ⟨⟨fields, _⟩, _, he⟩ := Option.map_eq_some_iff.mp h
        dsimp only at he
        split at he
        · cases he
        · cases fields <;> cases he
    -- the three words
    iterate 3
      next =>
        obtain ⟨_, _, he⟩ := Option.map_eq_some_iff.mp h
        cases he
    next =>
      obtain ⟨⟨number, _⟩, _, he⟩ := Option.map_eq_some_iff.mp h
      exact bounds_of_toDocument (Prod.mk.inj he).1

/-- **The integers of a text that is read have 64 bits.** All other numbers are doubles. -/
theorem fitsWords_of_ofJsonText? {s : String} {document : Document} {j : Json}
    (read : Document.ofJsonText? s = some document) (value : document.toJson? = some j) :
    j.FitsWords := by
  obtain ⟨⟨found, rest⟩, start, whole⟩ := Option.bind_eq_some_iff.mp read
  dsimp only at whole
  split at whole
  case isFalse => contradiction
  obtain rfl := Option.some.inj whole
  cases found with
  | integer n =>
    obtain rfl := Option.some.inj value
    exact bounds_of_readValue? start
  | real x =>
    obtain rfl := Option.some.inj value
    cases x <;> exact trivial
  | list items =>
    obtain ⟨_, _, rfl⟩ := Option.map_eq_some_iff.mp value
    exact trivial
  | table fields =>
    obtain ⟨_, _, rfl⟩ := Option.map_eq_some_iff.mp value
    exact trivial
  | unreadable => contradiction
  | _ =>
    obtain rfl := Option.some.inj value
    exact trivial

end Json

namespace Value

/-! ### What is kept -/

/-- The values that come back from JSON: all but points in time and doubles that are not finite. -/
inductive Kept : Value → Prop
  | null : Kept null
  | bool (b : Bool) : Kept (bool b)
  | int (n : Int64) : Kept (int n)
  | float {x : Double} {q : ℚ} : x.value? = some q → Kept (float x)
  | string (s : String) : Kept (string s)

end Value

/-- The JSON values that come back from values: all but arrays, objects and long integers. -/
inductive Json.Kept : Json → Prop
  | null : Kept null
  | bool (b : Bool) : Kept (bool b)
  | integer {n : Int} : -2 ^ 63 ≤ n → n < 2 ^ 63 → Kept (integer n)
  | real (x : FiniteDouble) : Kept (real x)
  | string (s : String) : Kept (string s)

namespace Value

theorem ofJson_toInt (n : Int64) : ofJson (.integer n.toInt) = int n := by
  rw [ofJson, fitInt64?_toInt]

theorem ofJson_toJson_of_value?_eq_none {x : Double} (special : x.value? = none) :
    ofJson (float x).toJson = null := by
  rw [Double.value?_eq] at special
  cases x with
  | finite x => contradiction
  | _ => rfl

/-- **A value comes back from JSON just if it is kept.** -/
theorem ofJson_toJson_iff (v : Value) : ofJson v.toJson = v ↔ v.Kept := by
  cases v with
  | null => exact iff_of_true rfl .null
  | bool b => exact iff_of_true rfl (.bool b)
  | int n => exact iff_of_true (ofJson_toInt n) (.int n)
  | float x =>
    cases value : x.value? with
    | none =>
      rw [ofJson_toJson_of_value?_eq_none value]
      refine iff_of_false nofun fun kept => ?_
      cases kept with
      | float finite => exact absurd (value.symm.trans finite) nofun
    | some q =>
      obtain ⟨y, rfl, _⟩ := Double.value?_eq_some_iff.mp value
      exact iff_of_true rfl (.float value)
  | string s => exact iff_of_true rfl (.string s)
  | dateTime t => exact iff_of_false nofun nofun

theorem toJson_ofJson_integer_of_long {n : Int} (long : fitInt64? n = none) :
    (ofJson (.integer n)).toJson = .ofDouble (.ofInt n) := by
  rw [ofJson, long, toJson]

theorem toJson_ofJson_iff (j : Json) : (ofJson j).toJson = j ↔ j.Kept := by
  cases j with
  | null => exact iff_of_true rfl .null
  | bool b => exact iff_of_true rfl (.bool b)
  | integer n =>
    cases fit : fitInt64? n with
    | none =>
      rw [toJson_ofJson_integer_of_long fit]
      refine iff_of_false ?_ fun kept => ?_
      · cases Double.ofInt n <;> nofun
      · cases kept with
        | integer low high =>
          rw [fitInt64?_eq_none_iff] at fit
          omega
    | some m =>
      obtain rfl := fitInt64?_eq_some_iff.mp fit
      rw [ofJson_toInt]
      exact iff_of_true rfl (.integer m.le_toInt m.toInt_lt)
  | real x => exact iff_of_true rfl (.real x)
  | string s => exact iff_of_true rfl (.string s)
  | array items => exact iff_of_false nofun nofun
  | object entries => exact iff_of_false nofun nofun

/-! ### What a second pass finds -/

/-- The JSON of a value is kept. -/
theorem kept_toJson (v : Value) : v.toJson.Kept := by
  cases v with
  | null => exact .null
  | bool b => exact .bool b
  | int n => exact .integer n.le_toInt n.toInt_lt
  | float x =>
    cases x with
    | finite x => exact .real x
    | _ => exact .null
  | string s => exact .string s
  | dateTime t => exact .string t.text

/-- The value of a JSON value is kept. -/
theorem kept_ofJson {j : Json} (fits : j.FitsWords) : (ofJson j).Kept := by
  cases j with
  | bool b => exact .bool b
  | integer n =>
    rw [ofJson]
    cases fit : fitInt64? n with
    | none =>
      obtain ⟨low, high⟩ := fits
      obtain ⟨x, hx⟩ := Double.ofInt_finite (n := n) (by omega)
      exact .float (Double.value?_eq_some_iff.mpr ⟨x, hx, rfl⟩)
    | some m => exact .int m
  | real x => exact .float (Double.value?_eq_some_iff.mpr ⟨x, rfl, rfl⟩)
  | string s => exact .string s
  | _ => exact .null

/-- An integer that is too long for 64 bits with sign becomes the nearest double. -/
theorem exists_nearest_of_long {n : Int} (low : 2 ^ 63 ≤ n) (high : n < 2 ^ 64) :
    ∃ x, (ofJson (.integer n)).toJson = .real x ∧ x.IsNearestTo n := by
  obtain ⟨x, hx⟩ := Double.ofInt_finite (n := n) (by omega)
  have long : fitInt64? n = none := fitInt64?_eq_none_iff.mpr (by omega)
  refine ⟨x, ?_, Double.isNearestTo_of_ofInt hx⟩
  rw [toJson_ofJson_integer_of_long long, hx, Json.ofDouble]

/-- **What JSON keeps of values, what values keep of JSON, and what becomes of the rest.** A finite
double comes back bit for bit and any other one as null, a point in time as its text. An integer
beyond 64 bits with sign comes back as the nearest double, an array and an object as null. A second
pass changes nothing, from either side, where integers have 64 bits, as in every text that is
read. -/
theorem json_exact :
    (∀ v, ofJson v.toJson = v ↔ v.Kept) ∧
    (∀ bits q, Double.valueOfBits? bits = some q →
      ofJson (float (.ofBits bits)).toJson = float (.ofBits bits) ∧
        (Double.ofBits bits).toBits = bits) ∧
    (∀ bits, Double.valueOfBits? bits = none → ofJson (float (.ofBits bits)).toJson = null) ∧
    (∀ t, ofJson (dateTime t).toJson = string (dateTime t).coerceString) ∧
    (∀ j, (ofJson j).toJson = j ↔ j.Kept) ∧
    (∀ n : Int, 2 ^ 63 ≤ n → n < 2 ^ 64 →
      ∃ x, (ofJson (.integer n)).toJson = .real x ∧ x.IsNearestTo n) ∧
    (∀ items, (ofJson (.array items)).toJson = .null) ∧
    (∀ entries, (ofJson (.object entries)).toJson = .null) ∧
    (∀ j : Json, j.FitsWords → ofJson (ofJson j).toJson = ofJson j) ∧
    (∀ s document j, Document.ofJsonText? s = some document → document.toJson? = some j →
      j.FitsWords) ∧
    (∀ v : Value, (ofJson v.toJson).toJson = v.toJson) := by
  refine ⟨ofJson_toJson_iff, ?_, ?_, fun t => rfl, toJson_ofJson_iff,
    fun n low high => exists_nearest_of_long low high, fun items => rfl, fun entries => rfl,
    fun j fits => (ofJson_toJson_iff _).mpr (kept_ofJson fits),
    fun s document j => Json.fitsWords_of_ofJsonText?,
    fun v => (toJson_ofJson_iff _).mpr v.kept_toJson⟩
  · intro bits q value
    refine ⟨(ofJson_toJson_iff _).mpr (.float (q := q) ?_), Double.toBits_ofBits value⟩
    rw [Double.value?_ofBits, value]
  · intro bits special
    apply ofJson_toJson_of_value?_eq_none
    rw [Double.value?_ofBits, special]

end Value

end DeviceModel
