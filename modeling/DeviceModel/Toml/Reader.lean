import DeviceModel.Text.Affix
import DeviceModel.Toml.Scalar
import DeviceModel.Toml.Table

/-!
# Reading model files

`Document.ofToml?` reads a whole model file. A value is a text, a number, a date or time, a truth
value, an array over any number of lines, or a table within one line.
-/

namespace DeviceModel.Toml

open Text (afterWord?)

mutual

/-- The value at the beginning of a text, and the rest. `depth` is the number of levels that may
still be entered, and `fuel` bounds the number of steps. -/
def readValue? (fuel depth : Nat) (s : List Char) : Option (Document × List Char) :=
  match fuel with
  | 0 => none
  | fuel + 1 =>
    match s with
    | '[' :: rest =>
      match depth with
      | 0 => none
      | depth + 1 => (readItems? fuel depth (skipLines rest.length rest)).map fun (items, rest) =>
          (.list items, rest)
    | '\x7b' :: rest =>
      match depth with
      | 0 => none
      | depth + 1 => do
        let (assignments, rest) ←
          match skipBlanks rest with
          | '\x7d' :: rest => some ([], rest)
          | rest => readAssignments? fuel depth rest
        let entries ← Entries.assignAll? [] assignments
        return (.table (entryDocuments entries), rest)
    | 't' :: _ => (afterWord? "true" s).map fun rest => (.bool true, rest)
    | 'f' :: _ => (afterWord? "false" s).map fun rest => (.bool false, rest)
    | '"' :: _ => (readText? s).map fun (text, rest) => (.text text, rest)
    | '\'' :: _ => (readText? s).map fun (text, rest) => (.text text, rest)
    | s => readNumber? s

/-- The items of an array up to its closing bracket, and the rest. A comma may follow the last. -/
def readItems? (fuel depth : Nat) (s : List Char) : Option (List Document × List Char) :=
  match fuel with
  | 0 => none
  | fuel + 1 =>
    match s with
    | ']' :: rest => some ([], rest)
    | s => do
      let (item, rest) ← readValue? fuel depth s
      match skipLines rest.length rest with
      | ',' :: rest =>
        let (items, rest) ← readItems? fuel depth (skipLines rest.length rest)
        return (item :: items, rest)
      | ']' :: rest => return ([item], rest)
      | _ => none

/-- The assignments of a table within one line up to its closing brace, and the rest. -/
def readAssignments? (fuel depth : Nat) (s : List Char) :
    Option (List (List String × Document) × List Char) :=
  match fuel with
  | 0 => none
  | fuel + 1 => do
    let (path, rest) ← readPath? s
    let '=' :: rest := rest | none
    let (v, rest) ← readValue? fuel depth (skipBlanks rest)
    match skipBlanks rest with
    | ',' :: rest =>
      let (assignments, rest) ← readAssignments? fuel depth rest
      return ((path, v) :: assignments, rest)
    | '\x7d' :: rest => return ([(path, v)], rest)
    | _ => none

end

/-- A line of a file. -/
inductive Line
  | heading (heading : Heading)
  | assignment (path : List String) (v : Document)
  | empty

/-- The line at the beginning of a text, and the rest. -/
def readLine? (s : List Char) : Option (Line × List Char) :=
  match skipBlanks s with
  | '[' :: '[' :: rest => do
    let (path, rest) ← readPath? rest
    let ']' :: ']' :: rest := rest | none
    return (.heading (.element path), ← finishLine? rest)
  | '[' :: rest => do
    let (path, rest) ← readPath? rest
    let ']' :: rest := rest | none
    return (.heading (.table path), ← finishLine? rest)
  | s =>
    match finishLine? s with
    | some rest => some (.empty, rest)
    | none => do
      let (path, rest) ← readPath? s
      let '=' :: rest := rest | none
      let (v, rest) ← readValue? (2 * rest.length + 2) (depthLimit - 1) (skipBlanks rest)
      return (.assignment path v, ← finishLine? rest)

/-- The lines of a file. Every line has at least one character, which bounds the fuel. -/
def readLines? (fuel : Nat) (s : List Char) : Option (List Line) :=
  match fuel, s with
  | _, [] => some []
  | 0, _ => none
  | fuel + 1, s => do
    let (line, rest) ← readLine? s
    return line :: (← readLines? fuel rest)

/-- Lines gathered under their headings; those before the first heading belong to `current`. -/
def gatherSections (current : Section) : List Line → List Section
  | [] => [current]
  | .heading heading :: rest => current :: gatherSections ⟨heading, []⟩ rest
  | .assignment path v :: rest =>
    gatherSections { current with assignments := current.assignments ++ [(path, v)] } rest
  | .empty :: rest => gatherSections current rest

/-- The text without the mark of its encoding. -/
def skipMark : List Char → List Char
  | '\uFEFF' :: rest => rest
  | s => s

end DeviceModel.Toml

namespace DeviceModel

/-- The document that a model file holds. -/
def Document.ofToml? (s : String) : Option Document := do
  let chars := Toml.skipMark s.toList
  let lines ← Toml.readLines? (chars.length + 1) chars
  let entries ← Toml.Entries.ofSections? (Toml.gatherSections ⟨.root, []⟩ lines)
  return .table (Toml.entryDocuments entries)

end DeviceModel
