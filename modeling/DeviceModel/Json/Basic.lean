import DeviceModel.Double.Basic

/-!
# JSON values

A `Json` is a document as data: numbers are integers or finite doubles, and an object is the list
of its entries in the order in which they are written. `Members` are the entries of a free-form
object, in which every key occurs once and the keys ascend; `Members.insert` replaces the value of
a key that is present.
-/

namespace DeviceModel

/-- A JSON value. -/
inductive Json
  | null
  | bool (b : Bool)
  | integer (n : Int)
  | real (x : FiniteDouble)
  | string (s : String)
  | array (items : List Json)
  | object (entries : List (String × Json))

namespace Json

/-- A finite double as a number, and `null` for a double that has no decimal. -/
def ofDouble : Double → Json
  | .finite x => real x
  | _ => null

/-- The value that a list of entries with distinct keys gives to a key. -/
def valueOf? (key : String) (entries : List (String × Json)) : Option Json :=
  (entries.find? fun entry => entry.1 == key).map (·.2)

/-- Entries in ascending order of their keys with the value of one key set. -/
def insertEntry (key : String) (value : Json) : List (String × Json) → List (String × Json)
  | [] => [(key, value)]
  | head :: rest =>
    if key < head.1 then (key, value) :: head :: rest
    else if key = head.1 then (key, value) :: rest
    else head :: insertEntry key value rest

/-- The keys of entries are distinct and ascend. -/
def Ascending (entries : List (String × Json)) : Prop :=
  entries.Pairwise fun a b => a.1 < b.1

theorem mem_insertEntry {key : String} {value : Json} {entry : String × Json}
    {entries : List (String × Json)} (h : entry ∈ insertEntry key value entries) :
    entry = (key, value) ∨ entry ∈ entries := by
  induction entries with
  | nil => simpa [insertEntry] using h
  | cons head rest ih =>
    unfold insertEntry at h
    split at h
    · simpa using h
    · split at h
      · rcases List.mem_cons.1 h with h | h
        · exact .inl h
        · exact .inr (List.mem_cons_of_mem _ h)
      · rcases List.mem_cons.1 h with h | h
        · exact .inr (h ▸ List.mem_cons_self)
        · exact (ih h).imp_right (List.mem_cons_of_mem _)

theorem ascending_insertEntry (key : String) (value : Json) {entries : List (String × Json)}
    (h : Ascending entries) : Ascending (insertEntry key value entries) := by
  induction entries with
  | nil => simp [insertEntry, Ascending]
  | cons head rest ih =>
    have hrest := List.pairwise_cons.1 h
    unfold insertEntry
    split
    case isTrue hlt =>
      refine List.pairwise_cons.2 ⟨fun entry mem => ?_, h⟩
      rcases List.mem_cons.1 mem with rfl | mem
      · exact hlt
      · exact String.lt_trans hlt (hrest.1 entry mem)
    case isFalse hle =>
      split
      case isTrue heq =>
        exact List.pairwise_cons.2 ⟨fun entry mem => heq ▸ hrest.1 entry mem, hrest.2⟩
      case isFalse hne =>
        refine List.pairwise_cons.2 ⟨fun entry mem => ?_, ih hrest.2⟩
        rcases mem_insertEntry mem with rfl | mem
        · exact Std.lt_of_le_of_ne (String.not_lt.1 hle) (Ne.symm hne)
        · exact hrest.1 entry mem

/-- The entries of a free-form object. -/
structure Members where
  entries : List (String × Json)
  ascending : Ascending entries := by exact List.Pairwise.nil

namespace Members

/-- No entry at all. -/
def empty : Members where
  entries := []

/-- The entries with the value of one key set. -/
def insert (members : Members) (key : String) (value : Json) : Members where
  entries := insertEntry key value members.entries
  ascending := ascending_insertEntry key value members.ascending

/-- The value of a key. -/
def get? (members : Members) (key : String) : Option Json :=
  valueOf? key members.entries

/-- The entries of a list, the last one of every key. -/
def ofList (entries : List (String × Json)) : Members :=
  entries.foldl (fun members entry => members.insert entry.1 entry.2) empty

/-- The object with these entries. -/
def toJson (members : Members) : Json :=
  object members.entries

end Members

end Json

end DeviceModel
