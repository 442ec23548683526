/-!
# Digits in other bases

Hexadecimal digits are written in lower case and read in either; digits of a smaller base are the
first of them.
-/

namespace DeviceModel.Text

/-- The digit character of a number below sixteen. -/
def basedChar (d : Nat) : Char :=
  if d < 10 then Char.ofNat (48 + d) else Char.ofNat (87 + d)

/-- The number below sixteen that a digit character stands for. -/
def basedValue? (c : Char) : Option Nat :=
  if '0' ≤ c ∧ c ≤ '9' then some (c.toNat - 48)
  else if 'a' ≤ c ∧ c ≤ 'f' then some (c.toNat - 87)
  else if 'A' ≤ c ∧ c ≤ 'F' then some (c.toNat - 55)
  else none

/-- Whether a character is a digit of a base. -/
def isBasedDigit (base : Nat) (c : Char) : Bool :=
  (basedValue? c).any (· < base)

/-- The value of a run of digits of a base. -/
def basedNat? (base : Nat) (digits : List Char) : Option Nat :=
  digits.foldlM
    (fun n c => if isBasedDigit base c then (basedValue? c).map (base * n + ·) else none) 0

example : basedNat? 16 "00fF".toList = some 255 := by decide

example : basedNat? 8 "18".toList = none := by decide

end DeviceModel.Text
