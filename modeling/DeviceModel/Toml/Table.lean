import DeviceModel.Document

/-!
# Tables of a model file

A model file is a sequence of sections, each with a heading and assignments. A heading opens a
table or appends one to an array of tables, and the keys on its path open tables implicitly. What
was opened implicitly may be opened by a heading once; what dotted keys have opened may only be
extended by dotted keys of the same section.
-/

namespace DeviceModel.Toml

/-- What a key of a table holds while the file is read. -/
inductive Node
  /-- A value that is complete. -/
  | value (v : Document)
  /-- A table that may still grow. -/
  | table (implicit dotted : Bool) (entries : List (String × Node))
  /-- An array of tables, the last of which may still grow. -/
  | tables (earlier : List (List (String × Node))) (last : List (String × Node))

/-- The keys of a table with what they hold. -/
abbrev Entries := List (String × Node)

namespace Entries

/-- What a key holds. -/
def get? (entries : Entries) (key : String) : Option Node :=
  (entries.find? fun entry => entry.1 == key).map (·.2)

/-- The entries with one key set. -/
def set (entries : Entries) (key : String) (node : Node) : Entries :=
  match entries with
  | [] => [(key, node)]
  | entry :: rest => if entry.1 == key then (key, node) :: rest else entry :: set rest key node

/-- Changes the table at the end of a path, opening the tables on it where there are none. `viaKeys`
says that the path is one of dotted keys, which may not enter a table that a heading or a value has
opened; `change` learns whether the table at the end was opened by dotted keys. -/
def alter? (viaKeys : Bool) (change : Bool → Entries → Option Entries) (dotted : Bool)
    (entries : Entries) : List String → Option Entries
  | [] => change dotted entries
  | key :: path =>
    match entries.get? key with
    | none => (alter? viaKeys change viaKeys [] path).map fun inner =>
        entries.set key (.table true viaKeys inner)
    | some (.value _) => none
    | some (.tables earlier last) => (alter? viaKeys change false last path).map fun last =>
        entries.set key (.tables earlier last)
    | some (.table implicit byKeys inner) =>
      if viaKeys && !implicit then none
      else (alter? viaKeys change byKeys inner path).map fun inner =>
        entries.set key (.table implicit byKeys inner)

/-- Assigns a value to the last key of a path of dotted keys, which must be new. The table before
it is the one of the section itself or was opened by dotted keys. -/
def assign? (entries : Entries) (path : List String) (v : Document) : Option Entries := do
  let key ← path.getLast?
  let parents := path.dropLast
  let change (dotted : Bool) (inner : Entries) : Option Entries :=
    if dotted = parents.isEmpty then none
    else match inner.get? key with
      | none => some (inner.set key (.value v))
      | some _ => none
  alter? true change false entries parents

/-- Makes all assignments of a section. -/
def assignAll? (entries : Entries) (assignments : List (List String × Document)) : Option Entries :=
  assignments.foldlM (fun entries assignment => entries.assign? assignment.1 assignment.2) entries

end Entries

/-- What a section adds to. -/
inductive Heading
  /-- The file itself. -/
  | root
  /-- The table at the end of a path. -/
  | table (path : List String)
  /-- A new table in the array at the end of a path. -/
  | element (path : List String)

/-- A heading with the assignments under it. -/
structure Section where
  heading : Heading
  assignments : List (List String × Document)

namespace Entries

/-- The table of a heading with the assignments of its section; it was opened implicitly at most. -/
def openTable? (assignments : List (List String × Document)) : Option Node → Option Node
  | none => (assignAll? [] assignments).map (.table false false)
  | some (.table true false inner) => (assignAll? inner assignments).map (.table false false)
  | some _ => none

/-- The array of tables of a heading with a new table at its end. -/
def appendTable? (assignments : List (List String × Document)) : Option Node → Option Node
  | none => (assignAll? [] assignments).map (.tables [])
  | some (.tables earlier last) =>
    (assignAll? [] assignments).map (.tables (earlier ++ [last]))
  | some _ => none

/-- Changes what the last key of a path of a heading holds. -/
def alterAt? (entries : Entries) (path : List String) (change : Option Node → Option Node) :
    Option Entries := do
  let key ← path.getLast?
  alter? false (fun _ inner => (change (inner.get? key)).map (inner.set key)) false entries
    path.dropLast

/-- The entries of a file with one section more. -/
def addSection? (entries : Entries) (part : Section) : Option Entries :=
  match part.heading with
  | .root => entries.assignAll? part.assignments
  | .table path => entries.alterAt? path (openTable? part.assignments)
  | .element path => entries.alterAt? path (appendTable? part.assignments)

/-- The entries of a file with these sections. -/
def ofSections? (sections : List Section) : Option Entries :=
  sections.foldlM addSection? []

end Entries

mutual

/-- What a key holds, as a document. -/
def Node.toDocument : Node → Document
  | .value v => v
  | .table _ _ entries => .table (entryDocuments entries)
  | .tables earlier last => .list (tableDocuments earlier ++ [.table (entryDocuments last)])

/-- The entries of a table as fields of a document. -/
def entryDocuments : List (String × Node) → List (String × Document)
  | [] => []
  | (key, node) :: rest => (key, node.toDocument) :: entryDocuments rest

/-- Tables as documents. -/
def tableDocuments : List (List (String × Node)) → List Document
  | [] => []
  | entries :: rest => .table (entryDocuments entries) :: tableDocuments rest

end

end DeviceModel.Toml
