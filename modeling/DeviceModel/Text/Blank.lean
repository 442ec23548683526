/-!
# Blank characters

Which characters count as blank, and what remains of a text without the blanks at its ends. Blank
means the `White_Space` property of Unicode, so a no-break space or an ideographic space is blank
and a zero-width space is not.
-/

namespace DeviceModel.Text

/-- The code points with the `White_Space` property, as closed ranges. -/
def blankRanges : List (Nat × Nat) :=
  [(0x0009, 0x000D), (0x0020, 0x0020), (0x0085, 0x0085), (0x00A0, 0x00A0), (0x1680, 0x1680),
    (0x2000, 0x200A), (0x2028, 0x2029), (0x202F, 0x202F), (0x205F, 0x205F), (0x3000, 0x3000)]

/-- Whether a character is blank. -/
def isBlank (c : Char) : Bool :=
  blankRanges.any fun range => range.1 ≤ c.toNat && c.toNat ≤ range.2

/-- The text without its leading blanks. -/
def trimStart (s : List Char) : List Char :=
  s.dropWhile isBlank

/-- The text without its leading and trailing blanks. -/
def trim (s : List Char) : List Char :=
  (trimStart (trimStart s).reverse).reverse

example : "\t  a b\u3000".toList.dropWhile isBlank = "a b\u3000".toList := by decide

example : trim "\u00a0 7 \u2029".toList = ['7'] := by decide

end DeviceModel.Text
