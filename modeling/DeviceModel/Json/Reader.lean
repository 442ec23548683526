import DeviceModel.Json.Number
import DeviceModel.Text.Affix
import DeviceModel.Text.Based

/-!
# Reading JSON

`Document.ofJsonText?` reads a text that holds one JSON value and blanks around it. The grammar is
the strict one: no comma after the last item, no leading zero, no raw control character in a text.
Three parts are well formed and yet `unreadable`: a number beyond every double, a text with half of
a surrogate pair, and a value nested deeper than `depthLimit`.
-/

namespace DeviceModel.Json

open Text

/-- The number of levels of nesting that are read. -/
def depthLimit : Nat := 127

/-- Whether a character separates tokens. -/
def isSpace (c : Char) : Bool :=
  c == ' ' || c == '\n' || c == '\t' || c == '\r'

/-- The text from its first token on. -/
def skipSpace (s : List Char) : List Char :=
  s.dropWhile isSpace

/-- The code point that a single escaped letter stands for. -/
def escapeValue? (c : Char) : Option Nat :=
  if c = '"' then some 0x22
  else if c = '\\' then some 0x5C
  else if c = '/' then some 0x2F
  else if c = 'b' then some 0x08
  else if c = 'f' then some 0x0C
  else if c = 'n' then some 0x0A
  else if c = 'r' then some 0x0D
  else if c = 't' then some 0x09
  else none

/-- The code units of a text up to its closing quote, and the rest. A character that is written as
itself is one unit whatever its code point. -/
def readUnits? : List Char → Option (List Nat × List Char)
  | '"' :: rest => some ([], rest)
  | '\\' :: 'u' :: a :: b :: c :: d :: rest => do
    let unit ← basedNat? 16 [a, b, c, d]
    let (units, rest) ← readUnits? rest
    return (unit :: units, rest)
  | '\\' :: c :: rest => do
    let unit ← escapeValue? c
    let (units, rest) ← readUnits? rest
    return (unit :: units, rest)
  | c :: rest =>
    if c.toNat < 0x20 then none
    else do
      let (units, rest) ← readUnits? rest
      return (c.toNat :: units, rest)
  | [] => none

/-- The characters that code units stand for. A high surrogate and the low one after it are one
character, and either alone is none. -/
def ofUnits? : List Nat → Option (List Char)
  | [] => some []
  | unit :: rest =>
    if 0xD800 ≤ unit ∧ unit < 0xDC00 then
      match rest with
      | low :: rest =>
        if 0xDC00 ≤ low ∧ low < 0xE000 then
          (ofUnits? rest).map
            (Char.ofNat (0x10000 + (unit - 0xD800) * 0x400 + (low - 0xDC00)) :: ·)
        else none
      | [] => none
    else if 0xDC00 ≤ unit ∧ unit < 0xE000 then none
    else (ofUnits? rest).map (Char.ofNat unit :: ·)

/-- The text after an opening quote, if its units make characters, and the rest. -/
def readText? (s : List Char) : Option (Option String × List Char) :=
  (readUnits? s).map fun (units, rest) => ((ofUnits? units).map String.ofList, rest)

mutual

/-- The value at the beginning of a text, and the rest. `depth` is the number of levels that may
still be entered, and `fuel` bounds the number of steps. -/
def readValue? (fuel depth : Nat) (s : List Char) : Option (Document × List Char) :=
  match fuel with
  | 0 => none
  | fuel + 1 =>
    match skipSpace s with
    | '"' :: rest => (readText? rest).map fun (text, rest) =>
        ((text.map Document.text).getD .unreadable, rest)
    | '[' :: rest =>
      match skipSpace rest with
      | ']' :: rest => some (if depth = 0 then .unreadable else .list [], rest)
      | rest => (readItems? fuel (depth - 1) rest).map fun (items, rest) =>
          (if depth = 0 then .unreadable else .list items, rest)
    | '\x7b' :: rest =>
      match skipSpace rest with
      | '\x7d' :: rest => some (if depth = 0 then .unreadable else .table [], rest)
      | rest => (readFields? fuel (depth - 1) rest).map fun (fields, rest) =>
          (if depth = 0 then .unreadable else (fields.map Document.table).getD .unreadable, rest)
    | 'n' :: rest => (afterWord? "ull" rest).map fun rest => (.null, rest)
    | 't' :: rest => (afterWord? "rue" rest).map fun rest => (.bool true, rest)
    | 'f' :: rest => (afterWord? "alse" rest).map fun rest => (.bool false, rest)
    | s => (NumberText.read? s).map fun (number, rest) => (number.toDocument, rest)

/-- The items of an array up to its closing bracket, and the rest. -/
def readItems? (fuel depth : Nat) (s : List Char) : Option (List Document × List Char) :=
  match fuel with
  | 0 => none
  | fuel + 1 => do
    let (item, rest) ← readValue? fuel depth s
    match skipSpace rest with
    | ',' :: rest =>
      let (items, rest) ← readItems? fuel depth rest
      return (item :: items, rest)
    | ']' :: rest => return ([item], rest)
    | _ => none

/-- The fields of an object up to its closing brace, unless a key makes no text, and the rest. -/
def readFields? (fuel depth : Nat) (s : List Char) :
    Option (Option (List (String × Document)) × List Char) :=
  match fuel with
  | 0 => none
  | fuel + 1 =>
    match skipSpace s with
    | '"' :: rest => do
      let (key, rest) ← readText? rest
      let ':' :: rest := skipSpace rest | none
      let (value, rest) ← readValue? fuel depth rest
      match skipSpace rest with
      | ',' :: rest =>
        let (fields, rest) ← readFields? fuel depth rest
        return (key.bind fun key => fields.map ((key, value) :: ·), rest)
      | '\x7d' :: rest => return (key.map fun key => [(key, value)], rest)
      | _ => none
    | _ => none

end

end DeviceModel.Json

namespace DeviceModel

/-- The document that a JSON text holds. -/
def Document.ofJsonText? (s : String) : Option Document := do
  let (document, rest) ← Json.readValue? (2 * s.toList.length + 2) Json.depthLimit s.toList
  if (Json.skipSpace rest).isEmpty then return document else none

end DeviceModel
