import DeviceModel.Text.Quoted

/-!
# Words of a model file

Model files are written in TOML. Its lexical level consists of blanks, comments, line ends, keys
and four forms of text: between single or triple quotes, and with or without escapes. A line ends
with a line feed, with or without a carriage return before it; inside of a text of several lines
both count as a line feed.
-/

namespace DeviceModel.Toml

open Text (isPrintable readEscape? readQuoted?)

/-- Whether a character is a blank within a line. -/
def isBlank (c : Char) : Bool :=
  c == ' ' || c == '\t'

/-- The text without leading blanks. -/
def skipBlanks (s : List Char) : List Char :=
  s.dropWhile isBlank

/-- The rest of a text after the end of a line. -/
def afterLineEnd? : List Char → Option (List Char)
  | '\n' :: rest => some rest
  | '\r' :: '\n' :: rest => some rest
  | _ => none

/-- The rest of a text after a comment up to the end of its line, if there is one. -/
def skipComment : List Char → List Char
  | '#' :: rest => rest.dropWhile isPrintable
  | s => s

/-- The rest of a text after blanks, a comment, and the end of the line or of the text. -/
def finishLine? (s : List Char) : Option (List Char) :=
  match skipComment (skipBlanks s) with
  | [] => some []
  | rest => afterLineEnd? rest

/-- The rest of a text after blanks, comments and line ends, `fuel` lines at most. -/
def skipLines (fuel : Nat) (s : List Char) : List Char :=
  match fuel with
  | 0 => s
  | fuel + 1 =>
    match afterLineEnd? (skipComment (skipBlanks s)) with
    | some rest => skipLines fuel rest
    | none => skipBlanks s

/-- The text without escapes up to its closing apostrophe, and the rest. -/
def readLiteral? (s : List Char) : Option (List Char × List Char) :=
  match s.span fun c => isPrintable c && c != '\'' with
  | (text, '\'' :: rest) => some (text, rest)
  | _ => none

/-- A run of quotes inside of a text of several lines or at its end: fewer than three belong to
the text, and of more the last three close it. At most two that belong to it may stand in front. -/
def closeQuotes (quote : Char) (s : List Char) : Nat × Bool × List Char :=
  let run := (s.takeWhile (· == quote)).length
  if run < 3 then (run, false, s.drop run)
  else
    let kept := min (run - 3) 2
    (kept, true, s.drop (kept + 3))

/-- The rest of a text after a backslash at the end of a line: all blanks and line ends. -/
def skipFold? (fuel : Nat) (s : List Char) : Option (List Char) :=
  (afterLineEnd? (skipBlanks s)).map (skipEmptyLines fuel)
where
  /-- The rest of a text after blanks and line ends. -/
  skipEmptyLines (fuel : Nat) (s : List Char) : List Char :=
    match fuel with
    | 0 => s
    | fuel + 1 =>
      match afterLineEnd? (skipBlanks s) with
      | some rest => skipEmptyLines fuel rest
      | none => skipBlanks s

/-- The text of several lines up to its closing quotes, and the rest. Escapes are read if the quote
is the double one. -/
def readLong? (quote : Char) (fuel : Nat) (s : List Char) : Option (List Char × List Char) :=
  match fuel with
  | 0 => none
  | fuel + 1 =>
    match s with
    | [] => none
    | c :: rest =>
      if c = quote then
        let (kept, closed, rest) := closeQuotes quote s
        if closed then some (List.replicate kept quote, rest)
        else (readLong? quote fuel rest).map fun (text, rest) =>
          (List.replicate kept quote ++ text, rest)
      else if c = '\\' ∧ quote = '"' then
        match skipFold? rest.length rest with
        | some rest => readLong? quote fuel rest
        | none => do
          let (c, rest) ← readEscape? rest
          let (text, rest) ← readLong? quote fuel rest
          return (c :: text, rest)
      else
        match afterLineEnd? s with
        | some rest => (readLong? quote fuel rest).map fun (text, rest) => ('\n' :: text, rest)
        | none =>
          if isPrintable c then
            (readLong? quote fuel rest).map fun (text, rest) => (c :: text, rest)
          else none

/-- The text without a line end at its beginning. -/
def skipLineEnd (s : List Char) : List Char :=
  (afterLineEnd? s).getD s

/-- The text in any of the four forms at the beginning of `s`, and the rest. -/
def readText? (s : List Char) : Option (String × List Char) :=
  let named (found : Option (List Char × List Char)) := found.map fun (text, rest) =>
    (String.ofList text, rest)
  match s with
  | '"' :: '"' :: '"' :: rest => named (readLong? '"' (rest.length + 1) (skipLineEnd rest))
  | '\'' :: '\'' :: '\'' :: rest => named (readLong? '\'' (rest.length + 1) (skipLineEnd rest))
  | '"' :: rest => named (readQuoted? rest.length rest)
  | '\'' :: rest => named (readLiteral? rest)
  | _ => none

/-- A key, with quotes of either kind or without, and the rest. -/
def readKey? : List Char → Option (String × List Char)
  | '\'' :: rest => (readLiteral? rest).map fun (text, rest) => (String.ofList text, rest)
  | s => Text.readKey? s

/-- Keys with points between them and blanks around them, and the rest. -/
def readKeys? (fuel : Nat) (s : List Char) : Option (List String × List Char) :=
  match fuel with
  | 0 => none
  | fuel + 1 => do
    let (key, rest) ← readKey? (skipBlanks s)
    match skipBlanks rest with
    | '.' :: rest =>
      let (keys, rest) ← readKeys? fuel rest
      return (key :: keys, rest)
    | rest => return ([key], rest)

/-- The number of keys in a path, and of levels of nesting in a value, that is too many. -/
def depthLimit : Nat := 80

/-- A path of keys, and the rest. -/
def readPath? (s : List Char) : Option (List String × List Char) := do
  let (keys, rest) ← readKeys? (s.length + 1) s
  if keys.length < depthLimit then return (keys, rest) else none

end DeviceModel.Toml
