import Mathlib.Data.List.TakeWhile

/-!
# Texts in pieces

Texts that are joined from pieces, split into them again, or cut short.
-/

namespace MarkTree

theorem join_singletons (t : String) : String.join (t.toList.map String.singleton) = t := by
  refine String.toList_injective ?_
  rw [String.toList_join, List.flatMap_map]
  simp

theorem join_map_flatMap {α β : Type} (f : β → List α) (g : α → String) (l : List β) :
    String.join ((l.flatMap f).map g) = String.join (l.map fun b => String.join ((f b).map g)) := by
  induction l with
  | nil => rfl
  | cons b rest ih =>
    rw [List.flatMap_cons, List.map_append, String.join_append, ih, List.map_cons, String.join_cons]

/-- Texts that each end with their only line feed are found again by splitting at the line feeds. -/
theorem splitOn_join {α : Type} {line : α → String} {body : α → List Char}
    (hline : ∀ a, (line a).toList = body a ++ ['\n']) (hbody : ∀ a, '\n' ∉ body a) (as : List α) :
    (String.join (as.map line)).toList.splitOn '\n' = as.map body ++ [[]] := by
  rw [String.toList_join]
  induction as with
  | nil => rfl
  | cons a rest ih =>
    rw [List.map_cons, List.flatMap_cons, hline, List.append_assoc, List.singleton_append,
      List.splitOn_append_cons_self_of_not_mem (hbody a), ih, List.map_cons, List.cons_append]

/-- The name in front of a sign goes up to the sign. -/
theorem takeWhile_append_of_notMem {α : Type} [DecidableEq α] {a : α} {l : List α} (h : a ∉ l) (rest : List α) :
    (l ++ rest).takeWhile (· != a) = l ++ rest.takeWhile (· != a) :=
  List.takeWhile_append_of_pos fun _ hc => bne_iff_ne.mpr (ne_of_mem_of_not_mem hc h)

/-! ## Bytes -/

theorem toUTF8_append (t u : String) : (t ++ u).toUTF8 = t.toUTF8 ++ u.toUTF8 := by
  simp only [String.toUTF8_eq_toByteArray, String.toByteArray_append]

theorem extract_append_of_size_le {bytes : ByteArray} {n : Nat} (h : bytes.size ≤ n)
    (rest : ByteArray) : (bytes ++ rest).extract 0 n = bytes ++ rest.extract 0 (n - bytes.size) := by
  have hwhole : bytes.extract 0 n = bytes := by
    rw [← Nat.max_eq_left h, ByteArray.extract_zero_max_size]
  rw [ByteArray.extract_append, hwhole, Nat.zero_sub]

theorem extract_append_of_le_size {bytes : ByteArray} {n : Nat} (h : n ≤ bytes.size)
    (rest : ByteArray) : (bytes ++ rest).extract 0 n = bytes.extract 0 n := by
  rw [ByteArray.extract_append, Nat.sub_eq_zero_of_le h, Nat.zero_sub, ByteArray.extract_same,
    ByteArray.append_empty]

end MarkTree
