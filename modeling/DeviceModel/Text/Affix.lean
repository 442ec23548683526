/-!
# Beginnings, endings and the first separator

Texts are compared character by character. Since the encoding of a character never ends inside
the encoding of another, this agrees with the comparison of their bytes.
-/

namespace DeviceModel.Text

/-- Whether `s` begins with `start`. -/
def startsWith (s start : String) : Bool :=
  start.toList.isPrefixOf s.toList

/-- Whether `s` ends with `ending`. -/
def endsWith (s ending : String) : Bool :=
  ending.toList.isSuffixOf s.toList

/-- The rest of a text after an expected word. -/
def afterWord? (word : String) (s : List Char) : Option (List Char) :=
  if word.toList.isPrefixOf s then some (s.drop word.toList.length) else none

/-- The beginning of a text that has this many bytes, if it does not end inside of a character. -/
def takeBytes? (budget : Nat) : List Char → Option (List Char)
  | [] => some []
  | c :: rest =>
    if budget = 0 then some []
    else if c.utf8Size ≤ budget then (takeBytes? (budget - c.utf8Size) rest).map (c :: ·)
    else none

/-- The parts before and after the first `separator`, if there is one. -/
def splitFirst? (separator : Char) (s : String) : Option (String × String) :=
  match s.toList.span (· != separator) with
  | (_, []) => none
  | (before, _ :: after) => some (String.ofList before, String.ofList after)

example : takeBytes? 2 "\u00e9\u00e9".toList = some "\u00e9".toList := by decide

example : takeBytes? 2 "a\u00e9".toList = none := by decide

end DeviceModel.Text
