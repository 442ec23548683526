import DeviceModel.Double.Text
import DeviceModel.Json.Basic
import DeviceModel.Text.Based

/-!
# JSON text

`Json.text` writes a value on one line without blanks, and `Json.prettyText` with one entry a line
and an indentation of two blanks for every level. Texts escape only the quote, the backslash and
the control characters below the blank; all else stands for itself.
-/

namespace DeviceModel.Json

open Text

/-- The layout of a double in JSON: positional from `1e-5` up to `1e16`, and always with a point or
an exponent, so that it is read back as a double. -/
def doubleLayout : DoubleLayout :=
  ⟨.even, true, some (-5, 16)⟩

/-- The written form of one character of a text. -/
def escape (c : Char) : List Char :=
  if c = '"' then ['\\', '"']
  else if c = '\\' then ['\\', '\\']
  else if c = '\n' then ['\\', 'n']
  else if c = '\r' then ['\\', 'r']
  else if c = '\t' then ['\\', 't']
  else if c.toNat = 0x08 then ['\\', 'b']
  else if c.toNat = 0x0C then ['\\', 'f']
  else if c.toNat < 0x20 then
    ['\\', 'u', '0', '0', basedChar (c.toNat / 16), basedChar (c.toNat % 16)]
  else [c]

/-- A text between quotes. -/
def quoted (s : String) : List Char :=
  '"' :: s.toList.flatMap escape ++ ['"']

/-- Parts with a separator between each two. -/
def joined (separator : List Char) : List (List Char) → List Char
  | [] => []
  | [part] => part
  | part :: rest => part ++ separator ++ joined separator rest

/-- Parts between brackets, on one line. -/
def bracketed (opening closing : Char) (parts : List (List Char)) : List Char :=
  opening :: joined [','] parts ++ [closing]

mutual

/-- A value on one line. -/
def write : Json → List Char
  | null => "null".toList
  | bool b => if b then "true".toList else "false".toList
  | integer n => intText n
  | real x => doubleLayout.text x
  | string s => quoted s
  | array items => bracketed '[' ']' (writeItems items)
  | object entries => bracketed '\x7b' '\x7d' (writeEntries entries)

/-- The items of an array, each on one line. -/
def writeItems : List Json → List (List Char)
  | [] => []
  | item :: rest => write item :: writeItems rest

/-- The entries of an object, each on one line. -/
def writeEntries : List (String × Json) → List (List Char)
  | [] => []
  | (key, value) :: rest => (quoted key ++ ':' :: write value) :: writeEntries rest

end

/-- The beginning of a new line at a level of nesting. -/
def newLine (level : Nat) : List Char :=
  '\n' :: List.replicate (2 * level) ' '

/-- Parts between brackets, each on a line of its own unless there are none. -/
def indented (level : Nat) (opening closing : Char) (parts : List (List Char)) : List Char :=
  if parts.isEmpty then [opening, closing]
  else
    opening :: newLine (level + 1) ++ joined (',' :: newLine (level + 1)) parts ++
      newLine level ++ [closing]

mutual

/-- A value over several lines, where `level` counts the values that enclose it. -/
def writePretty (level : Nat) : Json → List Char
  | array items => indented level '[' ']' (writePrettyItems (level + 1) items)
  | object entries => indented level '\x7b' '\x7d' (writePrettyEntries (level + 1) entries)
  | null => write null
  | bool b => write (bool b)
  | integer n => write (integer n)
  | real x => write (real x)
  | string s => write (string s)

/-- The items of an array over several lines. -/
def writePrettyItems (level : Nat) : List Json → List (List Char)
  | [] => []
  | item :: rest => writePretty level item :: writePrettyItems level rest

/-- The entries of an object over several lines. -/
def writePrettyEntries (level : Nat) : List (String × Json) → List (List Char)
  | [] => []
  | (key, value) :: rest =>
    (quoted key ++ ':' :: ' ' :: writePretty level value) :: writePrettyEntries level rest

end

/-- The text of a value on one line. -/
def text (value : Json) : String :=
  String.ofList value.write

/-- The text of a value over several lines. -/
def prettyText (value : Json) : String :=
  String.ofList (value.writePretty 0)

example : text (object [("a\n", array [null, integer (-5)]), ("b", string "\"")]) =
    "\x7b\"a\\n\":[null,-5],\"b\":\"\\\"\"\x7d" := by decide +kernel

end DeviceModel.Json
