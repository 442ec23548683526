import DeviceModel.Double.Reader
import DeviceModel.Document
import DeviceModel.Text.Affix
import DeviceModel.Text.Blank
import DeviceModel.Text.Quoted

/-!
# Environment literals

A section of a configuration may be given in an environment variable. Its text is a literal: a list
in brackets, a table in braces with `=` between key and value, a text between quotes, one character
between apostrophes, a truth value, or a bare word. A bare word is a double if it has a point, an
integer or a text, whichever it can be first. A variable that is no literal stands for its own text.

The characters before the first escape of a quoted text are counted, and as many of their bytes are
kept. ASCII characters are kept as they are; characters beyond ASCII shorten what stands there, and
it is a failure of its own if that would cut a character in two.
-/

namespace DeviceModel.Literal

open Text

/-- Why no literal was read. -/
inductive Failure
  /-- The text is no literal. -/
  | malformed
  /-- A quoted text would be cut inside of a character. -/
  | cutCharacter
deriving DecidableEq

/-- What was read, if the text is a literal. -/
def orMalformed {α : Type} : Option α → Except Failure α
  | some a => .ok a
  | none => .error .malformed

/-- Whether a character is a blank of ASCII. -/
def isSpace (c : Char) : Bool :=
  c == ' ' || c == '\t' || c == '\n' || c == '\r' || c == '\x0c'

/-- The text without leading blanks. -/
def skipSpace (s : List Char) : List Char :=
  s.dropWhile isSpace

/-! ### Words -/

/-- Whether a character may stand in a bare word. -/
def isWordChar (c : Char) : Bool :=
  !(c == ',' || c == '\x7b' || c == '\x7d' || c == '[' || c == ']')

/-- The integer that a bare word stands for: one that fits 64 bits, with or without sign. -/
def integerOf? (word : List Char) : Option Int :=
  (int? word).filter fun n => -0x8000000000000000 ≤ n ∧ n < 0x10000000000000000

/-- The double, integer or text that a bare word stands for. -/
def ofWord (word : List Char) : Document :=
  let double? := if word.contains '.' then Double.ofText? word else none
  match double?, integerOf? word with
  | some x, _ => .real x
  | none, some n => .integer n
  | none, none => .text (String.ofList word)

/-- A truth value or a bare word at the beginning of a text, and the rest. A truth value ends after
its last letter, whatever follows. -/
def readWord (s : List Char) : Document × List Char :=
  match afterWord? "true" s, afterWord? "false" s with
  | some rest, _ => (.bool true, rest)
  | none, some rest => (.bool false, rest)
  | none, none =>
    let word := s.takeWhile isWordChar
    (ofWord (trim word), s.drop word.length)

/-! ### Quoted texts -/

/-- Whether a text has a closing quote: one that no backslash precedes. -/
def isClosed : List Char → Bool
  | '"' :: _ => true
  | '\\' :: _ :: rest => isClosed rest
  | _ :: rest => isClosed rest
  | [] => false

/-- The text up to a closing quote, and the rest. -/
def readText (s : List Char) : Except Failure (List Char × List Char) :=
  let before := s.takeWhile fun c => isPrintable c && c != '"' && c != '\\'
  let rest := s.drop before.length
  let isEscaped := rest.head? == some '\\' && isClosed rest
  match if isEscaped then takeBytes? before.length before else some before with
  | none => .error .cutCharacter
  | some kept => orMalformed <| (readQuoted? rest.length rest).map fun (text, rest) =>
      (kept ++ text, rest)

/-- A key between blanks, and the rest. -/
def readField (s : List Char) : Except Failure (String × List Char) := do
  let (key, rest) ← match skipSpace s with
    | '"' :: rest => (readText rest).map fun (text, rest) => (String.ofList text, rest)
    | s => orMalformed (readKey? s)
  return (key, skipSpace rest)

/-! ### Values -/

mutual

/-- The literal at the beginning of a text with the blanks around it, and the rest. -/
def readValue (fuel : Nat) (s : List Char) : Except Failure (Document × List Char) :=
  match fuel with
  | 0 => .error .malformed
  | fuel + 1 => do
    let (value, rest) ← match skipSpace s with
      | '\x7b' :: rest => (readFields fuel rest).map fun (fields, rest) => (.ofFields fields, rest)
      | '[' :: rest => (readItems fuel rest).map fun (items, rest) => (.list items, rest)
      | '"' :: rest => (readText rest).map fun (text, rest) => (.text (String.ofList text), rest)
      | '\'' :: c :: '\'' :: rest => .ok (.text (String.ofList [c]), rest)
      | '\'' :: _ => .error .malformed
      | s => .ok (readWord s)
    return (value, skipSpace rest)

/-- The items of a list up to its closing bracket, and the rest. A comma may follow the last. -/
def readItems (fuel : Nat) (s : List Char) : Except Failure (List Document × List Char) :=
  match fuel, s with
  | _, ']' :: rest => .ok ([], rest)
  | 0, _ => .error .malformed
  | fuel + 1, s => do
    let (item, rest) ← readValue fuel s
    match rest with
    | ',' :: rest =>
      let (items, rest) ← readItems fuel rest
      return (item :: items, rest)
    | ']' :: rest => return ([item], rest)
    | _ => .error .malformed

/-- The fields of a table up to its closing brace, and the rest. A comma may follow the last. -/
def readFields (fuel : Nat) (s : List Char) :
    Except Failure (List (String × Document) × List Char) :=
  match fuel, s with
  | _, '\x7d' :: rest => .ok ([], rest)
  | 0, _ => .error .malformed
  | fuel + 1, s => do
    let (key, rest) ← readField s
    let '=' :: rest := rest | .error .malformed
    let (value, rest) ← readValue fuel rest
    match rest with
    | ',' :: rest =>
      let (fields, rest) ← readFields fuel rest
      return ((key, value) :: fields, rest)
    | '\x7d' :: rest => return ([(key, value)], rest)
    | _ => .error .malformed

end

end DeviceModel.Literal

namespace DeviceModel

/-- The document that the text of an environment variable stands for, unless a text in it would be
cut inside of a character. -/
def Document.ofLiteral? (s : String) : Option Document :=
  match Literal.readValue (2 * s.toList.length + 2) s.toList with
  | .ok (document, []) => some document
  | .error .cutCharacter => none
  | _ => some (.text s)

end DeviceModel
