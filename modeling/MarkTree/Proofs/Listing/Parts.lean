import MarkTree.Proofs.Document.Sketch
import MarkTree.Proofs.Listing.Texts
import MarkTree.Proofs.Store.Levels
import Mathlib.Algebra.GroupWithZero.Nat

/-!
# Outlines of parts

An outline has one line for each node that a search for everything finds below the listed ones, in the same
order, and no value breaks a line (`linesOf_outline`). So the outline of a node is found again in the outline
of a tree that the node stands in: the lines stand next to each other from the place of the node on, each
further in by two spaces for every level that the node is down (`outline_of_part`).
-/

namespace MarkTree.Listing

/-- The lines of a text: what stands before its line feeds. -/
def linesOf (text : String) : List (List Char) := (text.toList.splitOn '\n').dropLast

theorem linesOf_outline (s : Store) (ns : List NodeId) :
    linesOf (String.join (outline s ns)) = (outlineRows s ns).map outlineBody := by
  rw [linesOf, splitOn_outlineRows, List.dropLast_concat]

/-- An outline is nothing but its lines. -/
theorem flatMap_linesOf_outline (s : Store) (ns : List NodeId) :
    (linesOf (String.join (outline s ns))).flatMap (· ++ ['\n']) = (String.join (outline s ns)).toList := by
  rw [linesOf_outline, outlineRows, List.map_map, List.flatMap_map, outline_eq, String.toList_join,
    List.flatMap_map]
  exact List.flatMap_congr fun q _ => (toList_outlineLine s q.1 q.2).symm

theorem length_linesOf_outline (s : Store) (ns : List NodeId) :
    (linesOf (String.join (outline s ns))).length = (ns.map fun n => (s.search .any n).length).sum := by
  have hlength : ∀ n, (s.levels n).length = (s.search .any n).length := fun n => by
    rw [Store.search, ← s.map_snd_levelsTo s.size 0 n, List.length_map, Store.levels]
  rw [linesOf_outline, List.length_map, outlineRows, List.length_map, List.length_flatMap]
  exact congrArg List.sum (List.map_congr_left fun n _ => hlength n)

/-- The line of a node further down begins with the spaces for that. -/
theorem outlineBody_add (base : Nat) (row : Nat × Kind × String) :
    outlineBody (base + row.1, row.2) = List.replicate (2 * base) ' ' ++ outlineBody row := by
  rw [outlineBody, outlineBody, Nat.mul_add, List.replicate_add, List.append_assoc]

theorem outlineRows_singleton (s : Store) (n : NodeId) :
    outlineRows s [n] = (s.levels n).map fun q => (q.1, outlineEntry s q.2) := by
  rw [outlineRows, List.flatMap_singleton]

/-- In the outline of a tree, the lines from the place of a node on are those of the outline of the node, as
many as there are nodes in that, with two spaces more for each level that the node is down. -/
theorem lines_of_part {s : Store} {root n : NodeId} (ht : s.ListedOnce root) {i : Nat}
    (hi : (s.search .any root)[i]? = some n) :
    ∃ level, (∀ k, s.Level root k n ↔ k = level) ∧
      ((linesOf (String.join (outline s [root]))).drop i).take (s.search .any n).length =
        (linesOf (String.join (outline s [n]))).map (List.replicate (2 * level) ' ' ++ ·) := by
  obtain ⟨level, hlevel, hblock⟩ := ht.exists_levels_block hi
  refine ⟨level, hlevel, ?_⟩
  rw [linesOf_outline, linesOf_outline, outlineRows_singleton, outlineRows_singleton, List.map_map,
    List.map_map, List.map_map, ← List.map_drop, ← List.map_take, hblock, List.map_map]
  exact List.map_congr_left fun q _ => outlineBody_add level (q.1, outlineEntry s q.2)

/-- Let each node be listed once in the tree below `root`. A node that a search for everything finds there at
place `i` stands on one level, and the lines of its outline are the lines from `i` on of the outline of the
tree, with two spaces more for each level. The lines of any outline are the whole of it, and are as many as
the searches for everything from the listed nodes find nodes. -/
theorem outline_of_part (s : Store) :
    (∀ root, s.ListedOnce root → ∀ i n, (s.search .any root)[i]? = some n →
      ∃ level, (∀ k, s.Level root k n ↔ k = level) ∧
        ((linesOf (String.join (lines .tree s [root]))).drop i).take (s.search .any n).length =
          (linesOf (String.join (lines .tree s [n]))).map (List.replicate (2 * level) ' ' ++ ·)) ∧
    ∀ ns,
      (linesOf (String.join (lines .tree s ns))).flatMap (· ++ ['\n']) =
          (String.join (lines .tree s ns)).toList ∧
        (linesOf (String.join (lines .tree s ns))).length =
          (ns.map fun n => (s.search .any n).length).sum :=
  ⟨fun _ ht _ _ hi => lines_of_part ht hi,
    fun ns => ⟨flatMap_linesOf_outline s ns, length_linesOf_outline s ns⟩⟩

/-- A list in whose item stand a paragraph and code of two lines, and a paragraph behind the list. -/
def itemMarkup : Markup :=
  .node .root [
    .node (.list false none) [.node (.listItem none) [
      .node .paragraph [.leaf (.text "a")], .leaf (.code "b\n  c" none none)]],
    .node .paragraph []]

theorem outline_of_part_item :
    ∃ s, Document.read false itemMarkup {} = .ok (0, s) ∧ s.ListedOnce 0 ∧
      (s.search .any 0)[2]? = some 2 ∧ s.Level 0 2 2 ∧ (s.search .any 2).length = 4 ∧
      String.join (lines .tree s [2]) =
        "list-item\n  paragraph\n    text \"a\"\n  code-block \"b\\n  c\"\n" ∧
      ((linesOf (String.join (lines .tree s [0]))).drop 2).take 4 =
        (linesOf (String.join (lines .tree s [2]))).map (List.replicate 4 ' ' ++ ·) ∧
      (linesOf (String.join (lines .tree s [0, 2]))).length = 11 := by
  have hvalue : (Document.read false itemMarkup {}).map (fun r =>
      (r.1, r.2.search .any 0, r.2.search .any 2, r.2.childList 0, r.2.childList 1)) =
      .ok (0, List.range 7, [2, 3, 4, 5], [1, 6], [2]) := by
    decide +kernel
  have htext : (Document.read false itemMarkup {}).map (fun r => String.join (lines .tree r.2 [2])) =
      .ok "list-item\n  paragraph\n    text \"a\"\n  code-block \"b\\n  c\"\n" := by
    decide +kernel
  obtain ⟨⟨root, s⟩, hread, hvalue⟩ := map_eq_ok_iff.mp hvalue
  rw [hread] at htext
  obtain ⟨rfl, hvalue⟩ := Prod.mk.inj hvalue
  obtain ⟨hall, hvalue⟩ := Prod.mk.inj hvalue
  obtain ⟨hpart, hvalue⟩ := Prod.mk.inj hvalue
  obtain ⟨htop, hlist⟩ := Prod.mk.inj hvalue
  have hmay : Document.AllowsUnlisted Store.Unlisted := fun _ _ _ h => h
  have hs : s.Sound :=
    (Document.read_grown hmay Store.sound_empty hread).1.moves.sound Store.sound_empty
  have honce : s.ListedOnce 0 := (Document.isTree_of_read hread).listedOnce hs
  have hplace : (s.search .any 0)[2]? = some 2 := by
    rw [hall]
    rfl
  have hlevel : s.Level 0 2 2 := by
    have hlisted : s.Owns 0 1 := by
      rw [Store.Owns, htop]
      decide
    have hinner : s.Owns 1 2 := by
      rw [Store.Owns, hlist]
      decide
    exact .child (.child .top hlisted) hinner
  obtain ⟨hparts, hcount⟩ := outline_of_part s
  obtain ⟨level, hunique, hlines⟩ := hparts 0 honce 2 2 hplace
  obtain rfl := (hunique 2).mp hlevel
  obtain ⟨-, hnumber⟩ := hcount [0, 2]
  have hfour : (s.search .any 2).length = 4 := by
    rw [hpart]
    rfl
  rw [hfour] at hlines
  refine ⟨s, hread, honce, hplace, hlevel, hfour, Except.ok.inj htext, hlines, hnumber.trans ?_⟩
  simp [hall, hpart]

end MarkTree.Listing
