import DeviceModel.Text.CaseTables

/-!
# Letter case

Lower case is that of Unicode, character by character, with one exception: the capital sigma has
another small form at the end of a word, so the letters on both sides of it count. A capital may
have a small form of two characters, and two characters beyond ASCII, the Kelvin sign and the
capital I with a dot, have a small form that begins with an ASCII letter.
-/

namespace DeviceModel.Text

/-- Whether a character is in one of the ranges. -/
def isWithin (ranges : List (Nat × Nat)) (c : Char) : Bool :=
  ranges.any fun range => range.1 ≤ c.toNat && c.toNat ≤ range.2

/-- The small letter of a capital in the table; any other character is as it is. -/
def smallLetter (c : Char) : Char :=
  match capitalRuns.find? (·.contains c.toNat) with
  | some run => run.smallOf c.toNat
  | none => c

/-- The lower-case form of a character by itself. -/
def lowerChar (c : Char) : List Char :=
  if c.toNat < 0x80 then [c.toLower]
  else if c = '\u212A' then ['k']
  else if c = '\u0130' then ['i', '\u0307']
  else [smallLetter c]

/-- Whether the nearest character that case does not pass over has a case. -/
def meetsCased (s : List Char) : Bool :=
  (s.dropWhile (isWithin caseIgnorableRanges)).head?.any (isWithin casedRanges)

/-- The lower-case form of a character between others, those before it nearest first. A capital
sigma ends a word if there is a letter before it and none after it. -/
def lowerAt (before : List Char) (c : Char) (after : List Char) : List Char :=
  if c = 'Σ' then [if meetsCased before && !meetsCased after then 'ς' else 'σ'] else lowerChar c

/-- The lower-case form of the rest of a text, after the characters before it, nearest first. -/
def lowerFrom (before : List Char) : List Char → List Char
  | [] => []
  | c :: after => lowerAt before c after ++ lowerFrom (c :: before) after

/-- The lower-case form of a text. -/
def lower (s : List Char) : List Char :=
  lowerFrom [] s

/-- Whether two texts are the same up to the case of ASCII letters. -/
def equalsIgnoringAsciiCase (s t : String) : Bool :=
  s.toList.map Char.toLower == t.toList.map Char.toLower

example : lower "ΣΟΦΟΣ.".toList = "σοφος.".toList := by decide +kernel

end DeviceModel.Text
