import DeviceModel.Proofs.Json.Layout
import DeviceModel.Proofs.Json.Numbers
import DeviceModel.Proofs.Json.Quoted
import DeviceModel.Proofs.Text.Affix

/-!
# JSON text read back

`Json.echo` says what is read where a value was written: the value itself, with the fields of
objects in the order of the text and with every number as it is read. The reader passes over blanks
(`readValue?_append`) and finds the echo at the beginning of a text in every layout
(`readValue?_writeSpaced`). So both texts of a value that is not nested too deeply, on one line
(`ofJsonText?_text`) and over several lines (`ofJsonText?_prettyText`), are read as its echo.
-/

namespace DeviceModel.Json

open Text NumberText

mutual

/-- What is read where a value was written. -/
def echo : Json → Document
  | null => .null
  | bool b => .bool b
  | integer n => (NumberText.ofInt n).toDocument
  | real x => (NumberText.ofDouble x).toDocument
  | string s => .text s
  | array items => .list (echoItems items)
  | object entries => .table (echoEntries entries)

/-- What is read where the items of an array were written. -/
def echoItems : List Json → List Document
  | [] => []
  | item :: rest => item.echo :: echoItems rest

/-- What is read where the entries of an object were written. -/
def echoEntries : List (String × Json) → List (String × Document)
  | [] => []
  | (key, value) :: rest => (key, value.echo) :: echoEntries rest

end

mutual

/-- The number of arrays and objects, one inside the other, of which a value consists. -/
def depth : Json → Nat
  | array items => depthOfItems items + 1
  | object entries => depthOfEntries entries + 1
  | null => 0
  | bool _ => 0
  | integer _ => 0
  | real _ => 0
  | string _ => 0

/-- The greatest depth of an item. -/
def depthOfItems : List Json → Nat
  | [] => 0
  | item :: rest => max item.depth (depthOfItems rest)

/-- The greatest depth of a value of an entry. -/
def depthOfEntries : List (String × Json) → Nat
  | [] => 0
  | (_, value) :: rest => max value.depth (depthOfEntries rest)

end

theorem depthOfEntries_le_iff {entries : List (String × Json)} {bound : Nat} :
    depthOfEntries entries ≤ bound ↔ ∀ entry ∈ entries, entry.2.depth ≤ bound := by
  induction entries with
  | nil => exact ⟨nofun, fun _ => Nat.zero_le _⟩
  | cons head rest ih => rw [depthOfEntries, Nat.max_le, ih, List.forall_mem_cons]

theorem depthOfItems_le_iff {items : List Json} {bound : Nat} :
    depthOfItems items ≤ bound ↔ ∀ item ∈ items, item.depth ≤ bound := by
  induction items with
  | nil => exact ⟨nofun, fun _ => Nat.zero_le _⟩
  | cons head rest ih => rw [depthOfItems, Nat.max_le, ih, List.forall_mem_cons]

/-- A number of 64 bits is read as it was written. -/
theorem echo_int64 (n : Int64) : (integer n.toInt).echo = .integer n.toInt :=
  toDocument_ofInt n.le_toInt (Int.lt_trans n.toInt_lt (by decide))

/-- Where every item is decoded, so is the list of all of them. -/
theorem mapM_echoItems {α β : Type} {encode : α → Json} {decode : Document → Option β} {f : α → β}
    {list : List α} (each : ∀ a ∈ list, decode (encode a).echo = some (f a)) :
    (echoItems (list.map encode)).mapM decode = some (list.map f) := by
  induction list with
  | nil => rfl
  | cons a rest ih =>
    obtain ⟨first, others⟩ := List.forall_mem_cons.mp each
    rw [List.map_cons, echoItems, List.mapM_cons, first, ih others]
    rfl

/-! ### Blanks -/

theorem skipSpace_cons {c : Char} (token : isSpace c = false) (s : List Char) :
    skipSpace (c :: s) = c :: s :=
  List.dropWhile_cons_of_neg (by rw [token]; exact Bool.false_ne_true)

section

variable {blanks : List Char} (blank : ∀ c ∈ blanks, isSpace c = true)
include blank

theorem skipSpace_append (s : List Char) : skipSpace (blanks ++ s) = skipSpace s :=
  List.dropWhile_append_of_pos blank

theorem skipSpace_append_cons {c : Char} (token : isSpace c = false) (s : List Char) :
    skipSpace (blanks ++ c :: s) = c :: s := by
  rw [skipSpace_append blank, skipSpace_cons token]

theorem readValue?_append (fuel depth : Nat) (s : List Char) :
    readValue? fuel depth (blanks ++ s) = readValue? fuel depth s := by
  cases fuel with
  | zero => rw [readValue?, readValue?]
  | succ fuel => rw [readValue?, readValue?, skipSpace_append blank]

theorem readItems?_append (fuel depth : Nat) (s : List Char) :
    readItems? fuel depth (blanks ++ s) = readItems? fuel depth s := by
  cases fuel with
  | zero => rw [readItems?, readItems?]
  | succ fuel => rw [readItems?, readItems?, readValue?_append blank]

theorem readFields?_append (fuel depth : Nat) (s : List Char) :
    readFields? fuel depth (blanks ++ s) = readFields? fuel depth s := by
  cases fuel with
  | zero => rw [readFields?, readFields?]
  | succ fuel => rw [readFields?, readFields?, skipSpace_append blank]

/-- A number ends where blanks stand before something that ends it. -/
theorem ends_append {rest : List Char} (ends : Ends rest) : Ends (blanks ++ rest) := by
  cases blanks with
  | nil => exact ends
  | cons c blanks =>
    intro d head
    obtain rfl := Option.some.inj head
    have space := blank c List.mem_cons_self
    simp only [isSpace, Bool.or_eq_true, beq_iff_eq] at space
    rcases space with ((rfl | rfl) | rfl) | rfl <;> decide

end

/-! ### The beginning of a value -/

/-- A number begins like nothing else. -/
theorem ne_of_begins_number {c : Char} (begins : c = '-' ∨ c.isDigit = true) :
    isSpace c = false ∧ ∀ other ∈ ['"', '[', ']', '\x7b', 'n', 't', 'f'], c ≠ other := by
  rcases begins with rfl | digit
  · exact ⟨by decide, by simp⟩
  · have noDigit : ∀ other ∈ ['"', '[', ']', '\x7b', 'n', 't', 'f'], other.isDigit = false := by
      simp [Char.isDigit]
    constructor
    · by_contra space
      simp only [Bool.not_eq_false, isSpace, Bool.or_eq_true, beq_iff_eq] at space
      rcases space with ((rfl | rfl) | rfl) | rfl <;> exact absurd digit (by decide)
    · rintro other mem rfl
      exact absurd digit (by rw [noDigit c mem]; exact Bool.false_ne_true)

/-- A value begins with a character that is no blank and does not close an array. -/
theorem exists_writeSpaced_eq_cons (spacing : Spacing) (level : Nat) (value : Json) :
    ∃ c s, value.writeSpaced spacing level = c :: s ∧ isSpace c = false ∧ c ≠ ']' := by
  have number {n : NumberText} (formed : n.WellFormed) :
      ∃ c s, n.write = c :: s ∧ isSpace c = false ∧ c ≠ ']' := by
    obtain ⟨c, s, he, begins⟩ := formed.exists_write_eq_cons
    obtain ⟨token, different⟩ := ne_of_begins_number begins
    exact ⟨c, s, he, token, different ']' (by decide)⟩
  cases value with
  | null => exact ⟨'n', _, rfl, by decide, by decide⟩
  | bool b =>
    cases b with
    | true => exact ⟨'t', _, rfl, by decide, by decide⟩
    | false => exact ⟨'f', _, rfl, by decide, by decide⟩
  | integer n =>
    rw [writeSpaced, write, ← write_ofInt]
    exact number (wellFormed_ofInt n)
  | real x =>
    rw [writeSpaced, write, ← write_ofDouble]
    exact number (wellFormed_ofDouble x)
  | string s => exact ⟨'"', _, rfl, by decide, by decide⟩
  | array items =>
    obtain ⟨s, he⟩ := spacing.exists_enclosed_eq_cons level '[' ']'
      (writeSpacedItems spacing level items)
    exact ⟨'[', s, by rw [writeSpaced, he], by decide, by decide⟩
  | object entries =>
    obtain ⟨s, he⟩ := spacing.exists_enclosed_eq_cons level '\x7b' '\x7d'
      (writeSpacedEntries spacing level entries)
    exact ⟨'\x7b', s, by rw [writeSpaced, he], by decide, by decide⟩

theorem readValue?_number {fuel depth : Nat} {number : NumberText} (formed : number.WellFormed)
    {rest : List Char} (ends : Ends rest) :
    readValue? (fuel + 1) depth (number.write ++ rest) = some (number.toDocument, rest) := by
  have read := read?_write formed ends
  obtain ⟨c, s, he, begins⟩ := formed.exists_write_eq_cons
  obtain ⟨token, different⟩ := ne_of_begins_number begins
  rw [he, List.cons_append] at read ⊢
  rw [readValue?, skipSpace_cons token]
  split
  -- every other case of the reader begins with another character
  iterate 6
    next he => exact absurd (List.cons.inj he).1 (different _ (by decide))
  rw [read, Option.map_some]

theorem readValue?_string (fuel depth : Nat) (s : String) (rest : List Char) :
    readValue? (fuel + 1) depth (quoted s ++ rest) = some (.text s, rest) := by
  have read := readText?_quoted s rest
  rw [quoted, List.cons_append, List.cons_append, List.append_assoc, List.singleton_append,
    readValue?, skipSpace_cons (by decide)]
  simp only [read, Option.map_some, Option.getD_some]

/-! ### Arrays and objects -/

/-- A number ends where the next item begins and where its array or object ends. -/
theorem ends_of_head : ∀ c ∈ [',', ']', '\x7d'], ∀ rest : List Char, Ends (c :: rest) := by
  have other : ∀ c ∈ [',', ']', '\x7d'], c.isDigit = false ∧ c ≠ '.' ∧ c ≠ 'e' ∧ c ≠ 'E' := by
    simp [Char.isDigit]
  rintro c mem rest _ head
  obtain rfl := Option.some.inj head
  exact other c mem

theorem exists_joined_eq_append {front back part : List Char} (he : part = front ++ back)
    (rest : List (List Char)) : ∃ tail, joined [','] (part :: rest) = front ++ (back ++ tail) := by
  subst he
  cases rest with
  | nil => exact ⟨[], by rw [joined, List.append_nil]⟩
  | cons next rest => exact ⟨_, by rw [joined_cons_cons, List.append_assoc]⟩

theorem joined_writeSpacedItems (spacing : Spacing) (level : Nat) (item next : Json)
    (items : List Json) :
    joined [','] (writeSpacedItems spacing level (item :: next :: items)) =
      spacing.part level ++ (item.writeSpaced spacing (level + 1) ++
        ',' :: joined [','] (writeSpacedItems spacing level (next :: items))) := by
  rw [writeSpacedItems, writeSpacedItems, joined_cons_cons, List.append_assoc]
  rfl

theorem joined_writeSpacedEntries (spacing : Spacing) (level : Nat) (key : String) (value : Json)
    (next : String × Json) (entries : List (String × Json)) :
    joined [','] (writeSpacedEntries spacing level ((key, value) :: next :: entries)) =
      spacing.part level ++ (quoted key ++ ':' :: (spacing.value ++
        (value.writeSpaced spacing (level + 1) ++
          ',' :: joined [','] (writeSpacedEntries spacing level (next :: entries))))) := by
  rw [writeSpacedEntries, writeSpacedEntries, joined_cons_cons]
  simp only [List.append_assoc, List.cons_append, List.nil_append]

section

variable {fuel depth : Nat} {c : Char} {s rest blanks : List Char}
  (blank : ∀ c ∈ blanks, isSpace c = true)
include blank

/-- An array of items, the first of which does not begin with its end. -/
theorem readValue?_array {items : List Document} (token : isSpace c = false) (opens : c ≠ ']')
    (read : readItems? fuel depth (c :: s) = some (items, rest)) :
    readValue? (fuel + 1) (depth + 1) ('[' :: (blanks ++ c :: s)) = some (.list items, rest) := by
  rw [readValue?, skipSpace_cons (by decide)]
  simp only [skipSpace_append_cons blank token]
  split
  next he => exact absurd (List.cons.inj he).1 opens
  next =>
    rw [Nat.add_sub_cancel, read]
    rfl

/-- An object of fields, the first of which begins with its key. -/
theorem readValue?_object {fields : List (String × Document)}
    (read : readFields? fuel depth ('"' :: s) = some (some fields, rest)) :
    readValue? (fuel + 1) (depth + 1) ('\x7b' :: (blanks ++ '"' :: s)) =
      some (.table fields, rest) := by
  rw [readValue?, skipSpace_cons (by decide)]
  simp only [skipSpace_append_cons blank (show isSpace '"' = false by decide)]
  split
  next he => exact absurd (List.cons.inj he).1 (by decide)
  next =>
    rw [Nat.add_sub_cancel, read]
    rfl

variable {key : String} {document : Document}

/-- The last field of an object. -/
theorem readFields?_last
    (read : readValue? fuel depth s = some (document, blanks ++ '\x7d' :: rest)) :
    readFields? (fuel + 1) depth (quoted key ++ ':' :: s) =
      some (some [(key, document)], rest) := by
  have text := readText?_quoted key (':' :: s)
  rw [quoted, List.cons_append, List.cons_append, List.append_assoc, List.singleton_append,
    readFields?, skipSpace_cons (by decide)]
  simp only [text, Option.bind_eq_bind, Option.bind_some,
    skipSpace_cons (show isSpace ':' = false by decide), read,
    skipSpace_append_cons blank (show isSpace '\x7d' = false by decide)]
  rfl

omit blank in
/-- A field with other ones after it. -/
theorem readFields?_cons {others : List Char} {fields : List (String × Document)}
    (read : readValue? fuel depth s = some (document, ',' :: others))
    (readOthers : readFields? fuel depth others = some (some fields, rest)) :
    readFields? (fuel + 1) depth (quoted key ++ ':' :: s) =
      some (some ((key, document) :: fields), rest) := by
  have text := readText?_quoted key (':' :: s)
  rw [quoted, List.cons_append, List.cons_append, List.append_assoc, List.singleton_append,
    readFields?, skipSpace_cons (by decide)]
  simp only [text, Option.bind_eq_bind, Option.bind_some,
    skipSpace_cons (show isSpace ':' = false by decide), read,
    skipSpace_cons (show isSpace ',' = false by decide), readOthers]
  rfl

end

mutual

/-- A value is read back at the beginning of a text, whatever its layout. By induction on the fuel,
which lasts because the text of a part is shorter. -/
theorem readValue?_writeSpaced (spacing : Spacing) :
    ∀ (value : Json) (level fuel depth : Nat) (rest : List Char),
      (value.writeSpaced spacing level).length ≤ fuel → value.depth ≤ depth → Ends rest →
        readValue? fuel depth (value.writeSpaced spacing level ++ rest) = some (value.echo, rest)
  | null, level, fuel + 1, depth, rest, _, _, _ => by
    have word := afterWord?_append "ull" rest
    show readValue? (fuel + 1) depth ('n' :: ("ull".toList ++ rest)) = _
    rw [readValue?, skipSpace_cons (by decide)]
    simp only [word, Option.map_some, echo]
  | bool true, level, fuel + 1, depth, rest, _, _, _ => by
    have word := afterWord?_append "rue" rest
    show readValue? (fuel + 1) depth ('t' :: ("rue".toList ++ rest)) = _
    rw [readValue?, skipSpace_cons (by decide)]
    simp only [word, Option.map_some, echo]
  | bool false, level, fuel + 1, depth, rest, _, _, _ => by
    have word := afterWord?_append "alse" rest
    show readValue? (fuel + 1) depth ('f' :: ("alse".toList ++ rest)) = _
    rw [readValue?, skipSpace_cons (by decide)]
    simp only [word, Option.map_some, echo]
  | integer n, level, fuel + 1, depth, rest, _, _, ends => by
    rw [writeSpaced, write, ← write_ofInt, readValue?_number (wellFormed_ofInt n) ends, echo]
  | real x, level, fuel + 1, depth, rest, _, _, ends => by
    rw [writeSpaced, write, ← write_ofDouble, readValue?_number (wellFormed_ofDouble x) ends, echo]
  | string s, level, fuel + 1, depth, rest, _, _, _ => by
    rw [writeSpaced, write, readValue?_string, echo]
  | array [], level, fuel + 1, depth + 1, rest, _, _, _ => by
    show readValue? (fuel + 1) (depth + 1) ('[' :: ']' :: rest) = _
    rw [readValue?, skipSpace_cons (by decide)]
    simp only [skipSpace_cons (show isSpace ']' = false by decide)]
    rfl
  | array (item :: items), level, fuel + 1, depth + 1, rest, long, shallow, _ => by
    rw [writeSpaced, writeSpacedItems, Spacing.enclosed_cons, ← writeSpacedItems, List.length_cons,
      List.length_append, List.length_append, List.length_singleton] at long
    rw [Json.depth] at shallow
    obtain ⟨c, s, begins, token, opens⟩ := exists_writeSpaced_eq_cons spacing (level + 1) item
    obtain ⟨tail, he⟩ := exists_joined_eq_append
      (congrArg (spacing.part level ++ ·) begins) (writeSpacedItems spacing level items)
    have read := readItems?_writeSpaced spacing item items level fuel depth rest (by omega)
      (Nat.le_of_succ_le_succ shallow)
    rw [writeSpacedItems, he, List.append_assoc, readItems?_append (spacing.isSpace_part level)]
      at read
    rw [writeSpaced, writeSpacedItems, Spacing.enclosed_cons, he]
    simp only [List.append_assoc, List.cons_append, List.nil_append] at read ⊢
    rw [readValue?_array (spacing.isSpace_part level) token opens read, echo]
  | object [], level, fuel + 1, depth + 1, rest, _, _, _ => by
    show readValue? (fuel + 1) (depth + 1) ('\x7b' :: '\x7d' :: rest) = _
    rw [readValue?, skipSpace_cons (by decide)]
    simp only [skipSpace_cons (show isSpace '\x7d' = false by decide)]
    rfl
  | object ((key, value) :: entries), level, fuel + 1, depth + 1, rest, long, shallow, _ => by
    rw [writeSpaced, writeSpacedEntries, Spacing.enclosed_cons, ← writeSpacedEntries,
      List.length_cons, List.length_append, List.length_append, List.length_singleton] at long
    rw [Json.depth] at shallow
    obtain ⟨s, begins⟩ : ∃ s, quoted key ++ ':' :: (spacing.value ++
        value.writeSpaced spacing (level + 1)) = '"' :: s := ⟨_, rfl⟩
    obtain ⟨tail, he⟩ := exists_joined_eq_append
      (congrArg (spacing.part level ++ ·) begins) (writeSpacedEntries spacing level entries)
    have read := readFields?_writeSpaced spacing key value entries level fuel depth rest (by omega)
      (Nat.le_of_succ_le_succ shallow)
    rw [writeSpacedEntries, he, List.append_assoc, readFields?_append (spacing.isSpace_part level)]
      at read
    rw [writeSpaced, writeSpacedEntries, Spacing.enclosed_cons, he]
    simp only [List.append_assoc, List.cons_append, List.nil_append] at read ⊢
    rw [readValue?_object (spacing.isSpace_part level) read, echo]
  | array _, _, _, 0, _, _, shallow, _ => absurd shallow (Nat.not_succ_le_zero _)
  | object _, _, _, 0, _, _, shallow, _ => absurd shallow (Nat.not_succ_le_zero _)
  | value, level, 0, depth, rest, long, _, _ => by
    obtain ⟨c, s, he, _⟩ := exists_writeSpaced_eq_cons spacing level value
    rw [he] at long
    exact absurd long (Nat.not_succ_le_zero _)
termination_by structural _ _ fuel => fuel

theorem readItems?_writeSpaced (spacing : Spacing) :
    ∀ (item : Json) (items : List Json) (level fuel depth : Nat) (rest : List Char),
      (joined [','] (writeSpacedItems spacing level (item :: items))).length < fuel →
      depthOfItems (item :: items) ≤ depth →
        readItems? fuel depth (joined [','] (writeSpacedItems spacing level (item :: items)) ++
          (spacing.closing level ++ ']' :: rest)) = some (echoItems (item :: items), rest)
  | item, [], level, fuel + 1, depth, rest, long, shallow => by
    rw [writeSpacedItems, writeSpacedItems, joined, List.length_append] at long
    rw [writeSpacedItems, writeSpacedItems, joined, List.append_assoc]
    have ends := ends_append (spacing.isSpace_closing level) (ends_of_head ']' (by decide) rest)
    have read := readValue?_writeSpaced spacing item (level + 1) fuel depth _ (by omega)
      (Nat.max_le.mp shallow).1 ends
    rw [readItems?, readValue?_append (spacing.isSpace_part level), read]
    simp only [Option.bind_eq_bind, Option.bind_some,
      skipSpace_append_cons (spacing.isSpace_closing level) (show isSpace ']' = false by decide)]
    rfl
  | item, next :: items, level, fuel + 1, depth, rest, long, shallow => by
    rw [joined_writeSpacedItems, List.length_append, List.length_append, List.length_cons] at long
    rw [joined_writeSpacedItems, List.append_assoc, List.append_assoc, List.cons_append]
    obtain ⟨itemDepth, restDepth⟩ := Nat.max_le.mp shallow
    have others := readItems?_writeSpaced spacing next items level fuel depth rest (by omega)
      restDepth
    rw [readItems?, readValue?_append (spacing.isSpace_part level),
      readValue?_writeSpaced spacing item (level + 1) fuel depth _ (by omega) itemDepth
        (ends_of_head ',' (by decide) _)]
    simp only [Option.bind_eq_bind, Option.bind_some,
      skipSpace_cons (show isSpace ',' = false by decide), others]
    rfl
  | item, items, level, 0, depth, rest, long, shallow => absurd long (Nat.not_lt_zero _)
termination_by structural _ _ _ fuel => fuel

theorem readFields?_writeSpaced (spacing : Spacing) :
    ∀ (key : String) (value : Json) (entries : List (String × Json)) (level fuel depth : Nat)
      (rest : List Char),
      (joined [','] (writeSpacedEntries spacing level ((key, value) :: entries))).length < fuel →
      depthOfEntries ((key, value) :: entries) ≤ depth →
        readFields? fuel depth
            (joined [','] (writeSpacedEntries spacing level ((key, value) :: entries)) ++
              (spacing.closing level ++ '\x7d' :: rest)) =
          some (some (echoEntries ((key, value) :: entries)), rest)
  | key, value, [], level, fuel + 1, depth, rest, long, shallow => by
    rw [writeSpacedEntries, writeSpacedEntries, joined] at long ⊢
    simp only [List.append_assoc, List.cons_append, List.length_append, List.length_cons] at long ⊢
    have ends := ends_append (spacing.isSpace_closing level) (ends_of_head '\x7d' (by decide) rest)
    have read := readValue?_writeSpaced spacing value (level + 1) fuel depth _ (by omega)
      (Nat.max_le.mp shallow).1 ends
    rw [← readValue?_append spacing.isSpace_value] at read
    rw [readFields?_append (spacing.isSpace_part level),
      readFields?_last (spacing.isSpace_closing level) read, echoEntries, echoEntries]
  | key, value, (nextKey, next) :: entries, level, fuel + 1, depth, rest, long, shallow => by
    rw [joined_writeSpacedEntries] at long ⊢
    simp only [List.append_assoc, List.cons_append, List.length_append, List.length_cons] at long ⊢
    obtain ⟨valueDepth, restDepth⟩ := Nat.max_le.mp shallow
    have others := readFields?_writeSpaced spacing nextKey next entries level fuel depth rest
      (by omega) restDepth
    rw [readFields?_append (spacing.isSpace_part level)]
    refine readFields?_cons ?_ others
    rw [readValue?_append spacing.isSpace_value]
    exact readValue?_writeSpaced spacing value (level + 1) fuel depth _ (by omega) valueDepth
      (ends_of_head ',' (by decide) _)
  | key, value, entries, level, 0, depth, rest, long, shallow => absurd long (Nat.not_lt_zero _)
termination_by structural _ _ _ _ fuel => fuel

end

end DeviceModel.Json

namespace DeviceModel

open Json

section

variable {value : Json} (shallow : value.depth ≤ depthLimit)
include shallow

/-- A value that is not nested too deeply is read back from its text in every layout, also with
blanks after it. -/
theorem Document.ofJsonText?_writeSpaced (spacing : Spacing) (blanks : List Char)
    (blank : ∀ c ∈ blanks, isSpace c = true) :
    Document.ofJsonText? (String.ofList (value.writeSpaced spacing 0 ++ blanks)) =
      some value.echo := by
  have ends : NumberText.Ends (blanks ++ []) := ends_append blank nofun
  have passed : skipSpace (blanks ++ []) = [] := skipSpace_append blank []
  rw [List.append_nil] at ends passed
  have read := readValue?_writeSpaced spacing value 0
    (2 * (value.writeSpaced spacing 0 ++ blanks).length + 2) depthLimit blanks
    (by rw [List.length_append]; omega) shallow ends
  rw [ofJsonText?, String.toList_ofList, read]
  simp only [Option.bind_eq_bind, Option.bind_some, passed]
  rfl

/-- The text on one line is read back. -/
theorem Document.ofJsonText?_text : Document.ofJsonText? value.text = some value.echo := by
  have read := ofJsonText?_writeSpaced shallow .compact [] (List.forall_mem_nil _)
  rwa [writeSpaced_compact, List.append_nil] at read

/-- The text over several lines is read back, also with blanks after it. -/
theorem Document.ofJsonText?_prettyText (blanks : List Char)
    (blank : ∀ c ∈ blanks, isSpace c = true) :
    Document.ofJsonText? (value.prettyText ++ String.ofList blanks) = some value.echo := by
  have read := ofJsonText?_writeSpaced shallow .pretty blanks blank
  rwa [writeSpaced_pretty, String.ofList_append] at read

end

end DeviceModel
