/-!
# Digits

Reading numbers written in base ten or sixteen, and writing them in base sixteen.
-/

namespace MarkTree.Text

/-- The value of a hexadecimal digit. -/
def hexDigit? (c : Char) : Option Nat :=
  if '0' ≤ c ∧ c ≤ '9' then some (c.toNat - '0'.toNat)
  else if 'a' ≤ c ∧ c ≤ 'f' then some (c.toNat - 'a'.toNat + 10)
  else if 'A' ≤ c ∧ c ≤ 'F' then some (c.toNat - 'A'.toNat + 10)
  else none

/-- The number that digits write in a base; characters that are no digit count for nothing. -/
def numberOf (base : Nat) (digits : List Char) : Nat :=
  digits.foldl (fun n c => (hexDigit? c).elim n (base * n + ·)) 0

/-- The lower-case hexadecimal digits of a number, without leading zeros. -/
def hexDigits (n : Nat) : List Char := Nat.toDigits 16 n

end MarkTree.Text
