/-!
# Numbers in decimal notation

Whole numbers are written with ASCII digits and no leading zero, or padded with zeros to a least
width, and runs of ASCII digits are read back by their positional value.
-/

namespace DeviceModel.Text

/-- The digit character of a number below ten. -/
def digitChar (d : Nat) : Char :=
  Char.ofNat (48 + d)

/-- The number that a digit character stands for. -/
def digitValue (c : Char) : Nat :=
  c.toNat - 48

/-- A natural number in decimal notation. -/
def natText (n : Nat) : List Char :=
  if n < 10 then [digitChar n] else natText (n / 10) ++ [digitChar (n % 10)]
termination_by n

/-- An integer in decimal notation, with a minus sign in front of a negative one. -/
def intText : Int → List Char
  | .ofNat n => natText n
  | .negSucc n => '-' :: natText (n + 1)

/-- A natural number in decimal notation, with zeros in front up to `width` characters. -/
def padded (width n : Nat) : List Char :=
  List.replicate (width - (natText n).length) '0' ++ natText n

/-- The value of a run of digits, the empty run being zero. -/
def natOf (digits : List Char) : Nat :=
  digits.foldl (fun n c => 10 * n + digitValue c) 0

/-- The run of digits at the beginning of a text, and the rest. -/
def spanDigits (s : List Char) : List Char × List Char :=
  s.span Char.isDigit

/-- One or more digits, at most `most` of them if that is given, and the rest of the text. -/
def readDigits? (most : Option Nat) (s : List Char) : Option (List Char × List Char) :=
  let run := s.takeWhile Char.isDigit
  let digits := match most with
    | none => run
    | some n => run.take n
  if digits.isEmpty then none else some (digits, s.drop digits.length)

/-- Whether a text begins with a minus, and the rest of it after a sign of either kind. -/
def readSign : List Char → Bool × List Char
  | '-' :: rest => (true, rest)
  | '+' :: rest => (false, rest)
  | s => (false, s)

/-- The integer with this magnitude, the negative one after a minus. -/
def withSign (negative : Bool) (magnitude : Nat) : Int :=
  if negative then -(magnitude : Int) else magnitude

/-- The whole text read as one or more digits. -/
def nat? (digits : List Char) : Option Nat :=
  if digits.isEmpty || !digits.all Char.isDigit then none else some (natOf digits)

/-- The whole text read as an optional sign and one or more digits. -/
def int? (s : List Char) : Option Int :=
  (nat? (readSign s).2).map (withSign (readSign s).1)

end DeviceModel.Text
