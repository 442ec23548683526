import DeviceModel.Text.Based

/-!
# Quoted texts

The texts and keys that model files and environment literals have in common. Between double quotes
a backslash starts an escape: a letter for a control character, the quote or the backslash itself,
or a code point in four or eight hexadecimal digits. A key needs no quotes if it consists of ASCII
letters, digits, underscores and hyphens.
-/

namespace DeviceModel.Text

/-- Whether a character may stand in a text as itself: a tabulator or no control character. -/
def isPrintable (c : Char) : Bool :=
  c == '\t' || (0x20 ≤ c.toNat && c.toNat != 0x7F)

/-- A character whose code point is written in this many hexadecimal digits, and the rest. -/
def readCodePoint? (width : Nat) (s : List Char) : Option (Char × List Char) := do
  let digits := s.take width
  if digits.length < width then none
  let n ← basedNat? 16 digits
  if n.isValidChar then return (Char.ofNat n, s.drop width) else none

/-- The character that the letter after a backslash stands for. -/
def escapedChar? (c : Char) : Option Char :=
  if c = 'b' then some '\x08'
  else if c = 'f' then some '\x0c'
  else if c = 'n' then some '\n'
  else if c = 'r' then some '\r'
  else if c = 't' then some '\t'
  else if c = '"' then some '"'
  else if c = '\\' then some '\\'
  else none

/-- The character after a backslash, and the rest. -/
def readEscape? : List Char → Option (Char × List Char)
  | 'u' :: rest => readCodePoint? 4 rest
  | 'U' :: rest => readCodePoint? 8 rest
  | c :: rest => (escapedChar? c).map (·, rest)
  | [] => none

/-- The text up to a closing double quote, and the rest. The fuel bounds its length. -/
def readQuoted? (fuel : Nat) (s : List Char) : Option (List Char × List Char) :=
  match fuel, s with
  | _, '"' :: rest => some ([], rest)
  | fuel + 1, '\\' :: rest => do
    let (c, rest) ← readEscape? rest
    let (text, rest) ← readQuoted? fuel rest
    return (c :: text, rest)
  | fuel + 1, c :: rest =>
    if isPrintable c then (readQuoted? fuel rest).map fun (text, rest) => (c :: text, rest)
    else none
  | _, _ => none

/-- Whether a character may stand in a key without quotes. -/
def isBareKeyChar (c : Char) : Bool :=
  c.isAlphanum || c == '_' || c == '-'

/-- A key, with or without double quotes, and the rest. -/
def readKey? : List Char → Option (String × List Char)
  | '"' :: rest => (readQuoted? rest.length rest).map fun (text, rest) => (String.ofList text, rest)
  | s =>
    let key := s.takeWhile isBareKeyChar
    if key.isEmpty then none else some (String.ofList key, s.drop key.length)

end DeviceModel.Text
