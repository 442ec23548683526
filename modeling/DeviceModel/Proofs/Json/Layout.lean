import DeviceModel.Json.Printer
import DeviceModel.Json.Reader

/-!
# Layouts of JSON text

A value is written with blanks in front of the parts of its arrays and objects, in front of their
closing brackets and in front of the values of their entries. Which blanks these are at a level of
nesting is its `Spacing`. The text on one line has none (`writeSpaced_compact`) and the text over
several lines has new lines and indentations (`writeSpaced_pretty`), so that what holds of
`writeSpaced` holds of both.
-/

namespace DeviceModel.Json

/-- The blanks of a layout. -/
structure Spacing where
  /-- In front of every part of an array or object that so many others enclose. -/
  part : Nat → List Char
  /-- In front of its closing bracket. -/
  closing : Nat → List Char
  /-- Between a key with its colon and the value. -/
  value : List Char
  isSpace_part : ∀ level, ∀ c ∈ part level, isSpace c = true
  isSpace_closing : ∀ level, ∀ c ∈ closing level, isSpace c = true
  isSpace_value : ∀ c ∈ value, isSpace c = true

namespace Spacing

theorem isSpace_newLine (level : Nat) : ∀ c ∈ newLine level, isSpace c = true := by
  intro c mem
  rcases List.mem_cons.mp mem with rfl | indentation
  · rfl
  · rw [(List.mem_replicate.mp indentation).2]
    rfl

/-- No blanks at all. -/
def compact : Spacing where
  part _ := []
  closing _ := []
  value := []
  isSpace_part _ := nofun
  isSpace_closing _ := nofun
  isSpace_value := nofun

/-- A line for every part and every closing bracket. -/
def pretty : Spacing where
  part level := newLine (level + 1)
  closing := newLine
  value := [' ']
  isSpace_part level := isSpace_newLine (level + 1)
  isSpace_closing := isSpace_newLine
  isSpace_value := List.forall_mem_singleton.mpr rfl

/-- Parts between brackets. -/
def enclosed (spacing : Spacing) (level : Nat) (opening closing : Char)
    (parts : List (List Char)) : List Char :=
  if parts.isEmpty then [opening, closing]
  else opening :: (joined [','] parts ++ (spacing.closing level ++ [closing]))

theorem enclosed_cons (spacing : Spacing) (level : Nat) (opening closing : Char)
    (part : List Char) (rest : List (List Char)) :
    spacing.enclosed level opening closing (part :: rest) =
      opening :: (joined [','] (part :: rest) ++ (spacing.closing level ++ [closing])) :=
  rfl

theorem exists_enclosed_eq_cons (spacing : Spacing) (level : Nat) (opening closing : Char)
    (parts : List (List Char)) :
    ∃ s, spacing.enclosed level opening closing parts = opening :: s := by
  cases parts with
  | nil => exact ⟨_, rfl⟩
  | cons part rest => exact ⟨_, rfl⟩

end Spacing

mutual

/-- A value that so many others enclose, in a layout. -/
def writeSpaced (spacing : Spacing) (level : Nat) : Json → List Char
  | array items => spacing.enclosed level '[' ']' (writeSpacedItems spacing level items)
  | object entries =>
    spacing.enclosed level '\x7b' '\x7d' (writeSpacedEntries spacing level entries)
  | null => write null
  | bool b => write (bool b)
  | integer n => write (integer n)
  | real x => write (real x)
  | string s => write (string s)

/-- The items of an array, each with the blanks in front of it. -/
def writeSpacedItems (spacing : Spacing) (level : Nat) : List Json → List (List Char)
  | [] => []
  | item :: rest =>
    (spacing.part level ++ writeSpaced spacing (level + 1) item) ::
      writeSpacedItems spacing level rest

/-- The entries of an object, each with the blanks in front of it. -/
def writeSpacedEntries (spacing : Spacing) (level : Nat) :
    List (String × Json) → List (List Char)
  | [] => []
  | (key, value) :: rest =>
    (spacing.part level ++
        (quoted key ++ ':' :: (spacing.value ++ writeSpaced spacing (level + 1) value))) ::
      writeSpacedEntries spacing level rest

end

/-! ### On one line -/

theorem bracketed_eq_enclosed (level : Nat) (opening closing : Char) (parts : List (List Char)) :
    bracketed opening closing parts = Spacing.compact.enclosed level opening closing parts := by
  cases parts with
  | nil => rfl
  | cons part rest => rfl

mutual

theorem writeSpaced_compact (level : Nat) :
    ∀ value : Json, value.writeSpaced .compact level = value.write
  | array items => by
    rw [writeSpaced, write, bracketed_eq_enclosed level, writeSpacedItems_compact level items]
  | object entries => by
    rw [writeSpaced, write, bracketed_eq_enclosed level, writeSpacedEntries_compact level entries]
  | null => rfl
  | bool _ => rfl
  | integer _ => rfl
  | real _ => rfl
  | string _ => rfl

theorem writeSpacedItems_compact (level : Nat) :
    ∀ items : List Json, writeSpacedItems .compact level items = writeItems items
  | [] => rfl
  | item :: rest => by
    rw [writeSpacedItems, writeItems, writeSpaced_compact _ item,
      writeSpacedItems_compact level rest]
    rfl

theorem writeSpacedEntries_compact (level : Nat) : ∀ entries : List (String × Json),
    writeSpacedEntries .compact level entries = writeEntries entries
  | [] => rfl
  | (key, value) :: rest => by
    rw [writeSpacedEntries, writeEntries, writeSpaced_compact _ value,
      writeSpacedEntries_compact level rest]
    rfl

end

/-! ### Over several lines -/

theorem joined_cons_cons (separator part next : List Char) (rest : List (List Char)) :
    joined separator (part :: next :: rest) =
      part ++ (separator ++ joined separator (next :: rest)) := by
  rw [joined, List.append_assoc]
  exact List.cons_ne_nil _ _

/-- Blanks in front of the whole and after the separators are blanks in front of every part. -/
theorem append_joined (blanks part : List Char) (rest : List (List Char)) :
    blanks ++ joined (',' :: blanks) (part :: rest) =
      joined [','] ((part :: rest).map (blanks ++ ·)) := by
  induction rest generalizing part with
  | nil => rfl
  | cons next rest ih =>
    rw [List.map_cons, joined_cons_cons, List.cons_append, ih next, List.map_cons,
      joined_cons_cons, List.append_assoc]
    rfl

theorem indented_eq_enclosed (level : Nat) (opening closing : Char) (parts : List (List Char)) :
    indented level opening closing parts =
      Spacing.pretty.enclosed level opening closing
        (parts.map (Spacing.pretty.part level ++ ·)) := by
  cases parts with
  | nil => rfl
  | cons part rest =>
    have lines : indented level opening closing (part :: rest) =
        opening :: (newLine (level + 1) ++ joined (',' :: newLine (level + 1)) (part :: rest) ++
          (newLine level ++ [closing])) := by
      simp [indented]
    rw [lines, append_joined]
    rfl

mutual

theorem writeSpaced_pretty (level : Nat) :
    ∀ value : Json, value.writeSpaced .pretty level = value.writePretty level
  | array items => by
    rw [writeSpaced, writePretty, indented_eq_enclosed, writeSpacedItems_pretty level items]
  | object entries => by
    rw [writeSpaced, writePretty, indented_eq_enclosed, writeSpacedEntries_pretty level entries]
  | null => rfl
  | bool _ => rfl
  | integer _ => rfl
  | real _ => rfl
  | string _ => rfl

theorem writeSpacedItems_pretty (level : Nat) : ∀ items : List Json,
    writeSpacedItems .pretty level items =
      (writePrettyItems (level + 1) items).map (Spacing.pretty.part level ++ ·)
  | [] => rfl
  | item :: rest => by
    rw [writeSpacedItems, writePrettyItems, writeSpaced_pretty _ item,
      writeSpacedItems_pretty level rest, List.map_cons]

theorem writeSpacedEntries_pretty (level : Nat) : ∀ entries : List (String × Json),
    writeSpacedEntries .pretty level entries =
      (writePrettyEntries (level + 1) entries).map (Spacing.pretty.part level ++ ·)
  | [] => rfl
  | (key, value) :: rest => by
    rw [writeSpacedEntries, writePrettyEntries, writeSpaced_pretty _ value,
      writeSpacedEntries_pretty level rest, List.map_cons]
    rfl

end

end DeviceModel.Json
