import MarkTree.Text.Digits
import MarkTree.Text.Unprintable

/-!
# Quoted text

A text is quoted by putting it between double quotes, one character at a time: the quote and the
backslash take a backslash, four controls have a letter, and every other character without a
printed form is shown by its number. A quoted text therefore stands on one line.
-/

namespace MarkTree.Text

/-- How one character is written between the quotes. -/
def escapeChar (c : Char) : List Char :=
  if c == '"' then ['\\', '"']
  else if c == '\\' then ['\\', '\\']
  else if c == '\t' then ['\\', 't']
  else if c == '\n' then ['\\', 'n']
  else if c == '\r' then ['\\', 'r']
  else if c == '\x00' then ['\\', '0']
  else if unprintable.contains c then ['\\', 'u', '{'] ++ hexDigits c.toNat ++ ['}']
  else [c]

/-- The characters between the quotes. -/
def escapeChars (cs : List Char) : List Char := cs.flatMap escapeChar

/-- The text in double quotes. -/
def quoted (s : String) : String := String.ofList ('"' :: (escapeChars s.toList ++ ['"']))

end MarkTree.Text
