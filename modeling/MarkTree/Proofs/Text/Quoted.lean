import MarkTree.Text.Quoted
import Mathlib.Data.List.TakeWhile

/-!
# Reading quoted text

Quoting loses nothing. Every character is written in a way of its own that shows where it ends: a character
shown by its number stands between braces, and no hexadecimal digit is a brace. `unescape` reads the
characters back one by one (`unescape_escapeChars`), so a quoted text is read as the text that was quoted
(`unquoted_quoted`). No way of writing a character uses a line feed, so a quoted text stands on one line
(`lineFeed_not_mem_quoted`).
-/

namespace MarkTree.Text

/-! ## Digits -/

theorem hexDigit?_digitChar : ∀ d < 16, hexDigit? d.digitChar = some d := by
  decide

theorem hexDigits_eq (n : Nat) :
    hexDigits n = if n < 16 then [n.digitChar] else hexDigits (n / 16) ++ [(n % 16).digitChar] :=
  Nat.toDigits_eq_if (by decide)

/-- A character that is none of the sixteen digits stands in no number. -/
theorem not_mem_hexDigits {c : Char} (h : ∀ d < 16, c ≠ d.digitChar) (n : Nat) :
    c ∉ hexDigits n := by
  induction n using Nat.strong_induction_on with
  | _ n ih =>
    rw [hexDigits_eq]
    split
    · rename_i hlt
      simpa using h n hlt
    · rename_i hge
      have hlast : c ≠ (n % 16).digitChar := h (n % 16) (by omega)
      simpa [hlast] using ih (n / 16) (by omega)

theorem brace_not_mem_hexDigits (n : Nat) : '}' ∉ hexDigits n := not_mem_hexDigits (by decide) n

theorem lineFeed_not_mem_hexDigits (n : Nat) : '\n' ∉ hexDigits n := not_mem_hexDigits (by decide) n

/-- Digits are read as the number that they were written for. -/
theorem numberOf_hexDigits (n : Nat) : numberOf 16 (hexDigits n) = n := by
  induction n using Nat.strong_induction_on with
  | _ n ih =>
    rw [hexDigits_eq]
    split
    · rename_i hlt
      simp [numberOf, hexDigit?_digitChar n hlt]
    · rename_i hge
      have hinit : numberOf 16 (hexDigits (n / 16)) = n / 16 := ih (n / 16) (by omega)
      have hlast : hexDigit? (n % 16).digitChar = some (n % 16) :=
        hexDigit?_digitChar _ (Nat.mod_lt n (by decide))
      rw [numberOf] at hinit ⊢
      rw [List.foldl_append, hinit]
      simp only [List.foldl_cons, List.foldl_nil, hlast, Option.elim_some]
      omega

/-! ## Characters between the quotes -/

/-- The character that a letter behind a backslash stands for. -/
def ofLetter (c : Char) : Char :=
  if c = 't' then '\t' else if c = 'n' then '\n' else if c = 'r' then '\r'
  else if c = '0' then '\x00' else c

/-- Reads what stands between the quotes. -/
def unescape : List Char → List Char
  | [] => []
  | '\\' :: 'u' :: rest =>
    Char.ofNat (numberOf 16 (rest.tail.takeWhile (· != '}'))) ::
      unescape (rest.dropWhile (· != '}')).tail
  | '\\' :: c :: rest => ofLetter c :: unescape rest
  | c :: rest => c :: unescape rest
termination_by cs => cs.length
decreasing_by
  · have hle := List.length_dropWhile_le (· != '}') rest
    simp only [List.length_tail, List.length_cons]
    omega
  all_goals simp only [List.length_cons]; omega

theorem unescape_number (n : Nat) (rest : List Char) :
    unescape (['\\', 'u', '{'] ++ hexDigits n ++ ['}'] ++ rest) =
      Char.ofNat n :: unescape rest := by
  have hbrace : ∀ c ∈ hexDigits n, (c != '}') = true := fun c hc =>
    bne_iff_ne.mpr (ne_of_mem_of_not_mem hc (brace_not_mem_hexDigits n))
  have htake : (hexDigits n ++ '}' :: rest).takeWhile (· != '}') = hexDigits n := by
    rw [List.takeWhile_append_of_pos hbrace]
    simp
  have hdrop : (hexDigits n ++ '}' :: rest).dropWhile (· != '}') = '}' :: rest := by
    rw [List.dropWhile_append_of_pos hbrace]
    simp
  have hform : ['\\', 'u', '{'] ++ hexDigits n ++ ['}'] ++ rest =
      '\\' :: 'u' :: '{' :: (hexDigits n ++ '}' :: rest) := by simp
  rw [hform, unescape, List.tail_cons, htake, numberOf_hexDigits,
    List.dropWhile_cons_of_pos (by decide), hdrop, List.tail_cons]

/-- What is written for a character is read as that character, whatever follows. -/
theorem unescape_escapeChar (c : Char) (rest : List Char) :
    unescape (escapeChar c ++ rest) = c :: unescape rest := by
  by_cases hquote : c = '"'
  · subst hquote
    simp [escapeChar, unescape, ofLetter]
  by_cases hslash : c = '\\'
  · subst hslash
    simp [escapeChar, unescape, ofLetter]
  by_cases htab : c = '\t'
  · subst htab
    simp [escapeChar, unescape, ofLetter]
  by_cases hfeed : c = '\n'
  · subst hfeed
    simp [escapeChar, unescape, ofLetter]
  by_cases hreturn : c = '\r'
  · subst hreturn
    simp [escapeChar, unescape, ofLetter]
  by_cases hnul : c = '\x00'
  · subst hnul
    simp [escapeChar, unescape, ofLetter]
  by_cases hnumber : unprintable.contains c
  · simp only [escapeChar, beq_iff_eq, hquote, hslash, htab, hfeed, hreturn, hnul, hnumber, if_false,
      if_true]
    rw [unescape_number, Char.ofNat_toNat]
  · simp [escapeChar, hquote, hslash, htab, hfeed, hreturn, hnul, hnumber, unescape]

theorem unescape_escapeChars (cs : List Char) : unescape (escapeChars cs) = cs := by
  induction cs with
  | nil => simp [escapeChars, unescape]
  | cons c rest ih =>
    rw [escapeChars, List.flatMap_cons, unescape_escapeChar]
    rw [escapeChars] at ih
    rw [ih]

theorem lineFeed_not_mem_escapeChar (c : Char) : '\n' ∉ escapeChar c := by
  have hdigits : '\n' ∉ hexDigits c.toNat := lineFeed_not_mem_hexDigits _
  by_cases hfeed : c = '\n'
  · subst hfeed
    decide
  · unfold escapeChar
    split_ifs
    all_goals simp [hdigits, Ne.symm hfeed]

/-! ## Quoted texts -/

theorem toList_quoted (s : String) : (quoted s).toList = '"' :: (escapeChars s.toList ++ ['"']) :=
  String.toList_ofList

/-- Reads a quoted text. -/
def unquoted (cs : List Char) : String := String.ofList (unescape cs.tail.dropLast)

theorem unquoted_quoted (s : String) : unquoted (quoted s).toList = s := by
  rw [unquoted, toList_quoted, List.tail_cons, List.dropLast_concat, unescape_escapeChars,
    String.ofList_toList]

theorem unquoted_nil : unquoted [] = "" := by
  rw [unquoted, List.tail_nil, List.dropLast_nil, unescape, String.ofList_nil]

theorem lineFeed_not_mem_quoted (s : String) : '\n' ∉ (quoted s).toList := by
  rw [toList_quoted, escapeChars]
  simp [lineFeed_not_mem_escapeChar]

end MarkTree.Text
