import MarkTree.Listing
import MarkTree.Proofs.Text.Pieces
import MarkTree.Proofs.Text.Quoted

/-!
# Reading lines

A line of a listing names a kind and, in quotes, shows a text or a value; in an outline it is indented, and
an empty value is left out. The name of a kind is not empty and has no space in it, so the first space behind
the indentation ends the name (`readEntry_plainBody`), and the indentation can be counted
(`takeWhile_outlineBody`). Neither a name nor a quoted text holds a line feed, so a listing is split into the
lines that it was made of (`splitOn_join`).
-/

namespace MarkTree

namespace Kind

theorem named?_name (k : Kind) : named? k.name = some k := by
  cases k <;> rfl

theorem name_ne_nil (k : Kind) : k.name.toList ≠ [] := by
  cases k <;> decide

/-- Names are made of lower-case letters and dashes. -/
theorem lower_or_dash_of_mem_name (k : Kind) : ∀ c ∈ k.name.toList, (c.isLower || c == '-') = true := by
  rw [← List.all_eq_true]
  cases k <;> rfl

theorem space_not_mem_name (k : Kind) : ' ' ∉ k.name.toList := fun h =>
  absurd (k.lower_or_dash_of_mem_name ' ' h) (by decide)

theorem lineFeed_not_mem_name (k : Kind) : '\n' ∉ k.name.toList := fun h =>
  absurd (k.lower_or_dash_of_mem_name '\n' h) (by decide)

end Kind

namespace Listing

/-! ## What a line shows -/

/-- A kind and a quoted text. -/
def plainBody (entry : Kind × String) : List Char :=
  entry.1.name.toList ++ ' ' :: (Text.quoted entry.2).toList

/-- Two spaces per level, a kind and, if there is one, a quoted value. -/
def outlineBody (row : Nat × Kind × String) : List Char :=
  List.replicate (2 * row.1) ' ' ++
    if row.2.2.isEmpty then row.2.1.name.toList else plainBody row.2

/-- Reads a kind and a quoted text; where there is no text, it is empty. -/
def readEntry (cs : List Char) : Kind × String :=
  ((Kind.named? (String.ofList (cs.takeWhile (· != ' ')))).getD .unset,
    Text.unquoted (cs.dropWhile (· != ' ')).tail)

/-- Reads an indented line: its level, and what it shows. -/
def readRow (cs : List Char) : Nat × Kind × String :=
  ((cs.takeWhile (· == ' ')).length / 2, readEntry (cs.dropWhile (· == ' ')))

theorem bne_space_of_mem_name {k : Kind} : ∀ c ∈ k.name.toList, (c != ' ') = true :=
  fun _ hc => bne_iff_ne.mpr (ne_of_mem_of_not_mem hc k.space_not_mem_name)

theorem readEntry_plainBody (entry : Kind × String) : readEntry (plainBody entry) = entry := by
  obtain ⟨k, text⟩ := entry
  have htake : (plainBody (k, text)).takeWhile (· != ' ') = k.name.toList := by
    rw [plainBody, List.takeWhile_append_of_pos bne_space_of_mem_name]
    simp
  have hdrop : (plainBody (k, text)).dropWhile (· != ' ') = ' ' :: (Text.quoted text).toList := by
    rw [plainBody, List.dropWhile_append_of_pos bne_space_of_mem_name]
    simp
  rw [readEntry, htake, hdrop, String.ofList_toList, Kind.named?_name, List.tail_cons,
    Text.unquoted_quoted]
  rfl

theorem readEntry_name (k : Kind) : readEntry k.name.toList = (k, "") := by
  have htake : k.name.toList.takeWhile (· != ' ') = k.name.toList :=
    List.takeWhile_eq_self_iff.mpr bne_space_of_mem_name
  have hdrop : k.name.toList.dropWhile (· != ' ') = [] :=
    List.dropWhile_eq_nil_iff.mpr bne_space_of_mem_name
  rw [readEntry, htake, hdrop, String.ofList_toList, Kind.named?_name, List.tail_nil,
    Text.unquoted_nil]
  rfl

/-! ## Indentation -/

/-- Behind the indentation stands the name of a kind. -/
theorem outlineBody_eq (row : Nat × Kind × String) :
    ∃ c rest, outlineBody row = List.replicate (2 * row.1) ' ' ++ c :: rest ∧ c ≠ ' ' ∧
      readEntry (c :: rest) = row.2 := by
  obtain ⟨level, k, value⟩ := row
  obtain ⟨c, cs, hname⟩ := List.exists_cons_of_ne_nil k.name_ne_nil
  have hc : c ≠ ' ' := by
    have hmem : c ∈ k.name.toList := by rw [hname]; exact List.mem_cons_self
    exact ne_of_mem_of_not_mem hmem k.space_not_mem_name
  by_cases hvalue : value.isEmpty
  · refine ⟨c, cs, by rw [outlineBody, if_pos hvalue, hname], hc, ?_⟩
    rw [← hname, readEntry_name, String.isEmpty_iff.mp hvalue]
  · refine ⟨c, cs ++ ' ' :: (Text.quoted value).toList, ?_, hc, ?_⟩
    · rw [outlineBody, if_neg hvalue, plainBody, hname, List.cons_append]
    · rw [← List.cons_append, ← hname]
      exact readEntry_plainBody (k, value)

theorem takeWhile_outlineBody (row : Nat × Kind × String) :
    (outlineBody row).takeWhile (· == ' ') = List.replicate (2 * row.1) ' ' := by
  obtain ⟨c, rest, hbody, hc, -⟩ := outlineBody_eq row
  rw [hbody, List.takeWhile_append_of_pos (by simp), List.takeWhile_cons_of_neg (by simpa using hc),
    List.append_nil]

theorem readRow_outlineBody (row : Nat × Kind × String) : readRow (outlineBody row) = row := by
  have hlevel : ((outlineBody row).takeWhile (· == ' ')).length / 2 = row.1 := by
    rw [takeWhile_outlineBody, List.length_replicate]
    omega
  obtain ⟨c, rest, hbody, hc, hentry⟩ := outlineBody_eq row
  have hdrop : (outlineBody row).dropWhile (· == ' ') = c :: rest := by
    rw [hbody, List.dropWhile_append_of_pos (by simp),
      List.dropWhile_cons_of_neg (by simpa using hc)]
  rw [readRow, hlevel, hdrop, hentry]

/-! ## Lines of nodes -/

theorem lineFeed_not_mem_plainBody (entry : Kind × String) : '\n' ∉ plainBody entry := by
  have hname := entry.1.lineFeed_not_mem_name
  have htext := Text.lineFeed_not_mem_quoted entry.2
  simp [plainBody, hname, htext]

theorem lineFeed_not_mem_outlineBody (row : Nat × Kind × String) : '\n' ∉ outlineBody row := by
  have hname := row.2.1.lineFeed_not_mem_name
  have hentry := lineFeed_not_mem_plainBody row.2
  unfold outlineBody
  split <;> simp [hname, hentry]

theorem toList_plainLine (s : Store) (n : NodeId) :
    (plainLine s n).toList = plainBody (s.kind n, (s.payload n).text) ++ ['\n'] := by
  simp [plainLine, plainBody]

theorem toList_outlineLine (s : Store) (level : Nat) (n : NodeId) :
    (outlineLine s level n).toList =
      outlineBody (level, s.kind n, (s.payload n).value) ++ ['\n'] := by
  unfold outlineLine outlineBody
  simp only [indentation, String.toList_append, String.toList_ofList]
  split
  · simp
  · simp [plainBody]

end Listing

end MarkTree
