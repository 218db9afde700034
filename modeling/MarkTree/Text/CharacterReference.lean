import MarkTree.Text.NamedCharacters

/-!
# Character references

What stands between `&` and `;`: a name from the table, or a number sign with the number of a
character. A number without a character of its own, such as that of a control or a surrogate,
stands for the replacement character.
-/

namespace MarkTree.Text

/-- Whether a character reference may not produce the code point `n`. -/
def isForbidden (n : Nat) : Bool :=
  n < 0x9 || n == 0xb || (0xd < n && n < 0x20) || (0x7e < n && n < 0xa0) ||
    (0xd7ff < n && n < 0xe000) || 0x10ffff < n

/-- The character with a number, or the replacement character. -/
def numberedCharacter (n : Nat) : Char := if isForbidden n then '\uFFFD' else Char.ofNat n

/-- The text of a reference, given what stands between `&` and `;`. A decimal number has at most
seven digits and a hexadecimal one at most six. -/
def referenced? : List Char → Option String
  | '#' :: 'x' :: ds | '#' :: 'X' :: ds =>
    if ds ≠ [] ∧ ds.length ≤ 6 ∧ ds.all (hexDigit? · |>.isSome) then
      some (numberedCharacter (numberOf 16 ds)).toString
    else none
  | '#' :: ds =>
    if ds ≠ [] ∧ ds.length ≤ 7 ∧ ds.all Char.isDigit then
      some (numberedCharacter (numberOf 10 ds)).toString
    else none
  | name => namedCharacter? (String.ofList name)

end MarkTree.Text
