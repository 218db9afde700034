import MarkTree.Proofs.Listing.Lines
import MarkTree.Proofs.Outline
import MarkTree.Proofs.Store.Descent

/-!
# What a listing tells

A listing loses nothing of what it is made to show. The plain listing gives back kinds and texts in their
order (`readPlain_plain`), the outline gives back trees of kinds and values (`readOutline_outline`): its
lines are the nodes of the trees in the order of a document, and the indentation of a line tells the level.
So listings of different stores, too, are the same only if they show the same (`listing_determines`).

What stands below a node is a tree if every way down from it ends. Else the lines would not end either.
-/

namespace MarkTree

namespace Store

variable {α : Type} {s : Store} {n : NodeId}

/-- The tree from `n` down, to a bounded depth; a node is shown as `look` says. -/
def treeTo (s : Store) (look : NodeId → α) : Nat → NodeId → Rose α
  | 0, n => .node (look n) []
  | depth + 1, n => .node (look n) ((s.childList n).map (treeTo s look depth))

/-- The tree of the node and all nodes below it. -/
def tree (s : Store) (look : NodeId → α) (n : NodeId) : Rose α := s.treeTo look s.size n

/-- A node is shown above the trees of its children, in their order. -/
theorem Ends.tree_eq (h : s.Ends n) (look : NodeId → α) :
    s.tree look n = .node (look n) ((s.childList n).map (s.tree look)) := by
  have hstable : s.tree look n = s.treeTo look (s.size + 1) n :=
    h.stable (f := s.treeTo look) fun d d' m hc => by
      rw [treeTo, treeTo, List.map_congr_left hc]
  rw [hstable, treeTo]
  rfl

/-- The rows of the tree are the nodes with their levels. -/
theorem Ends.leveled_tree (h : s.Ends n) (look : NodeId → α) (level : Nat) :
    (s.tree look n).leveled level =
      (s.levelsTo s.size level n).map fun q => (q.1, look q.2) := by
  revert level
  refine Ends.induction (P := fun n => ∀ level, (s.tree look n).leveled level =
    (s.levelsTo s.size level n).map fun q => (q.1, look q.2)) (fun n h ih level => ?_) h
  have hbelow : Rose.leveledAll (level + 1) ((s.childList n).map (s.tree look)) =
      ((s.childList n).flatMap (s.levelsTo s.size (level + 1))).map fun q => (q.1, look q.2) := by
    rw [Rose.leveledAll_eq_flatMap, List.flatMap_map, List.map_flatMap]
    exact List.flatMap_congr fun c hc => ih c hc (level + 1)
  rw [h.tree_eq, Rose.leveled, hbelow, h.levelsTo_eq, List.map_cons]

end Store

namespace Listing

variable {s s' : Store} {ns ns' : List NodeId}

/-- What the plain listing shows of a node. -/
def plainEntry (s : Store) (n : NodeId) : Kind × String := (s.kind n, (s.payload n).text)

/-- What an outline shows of a node. -/
def outlineEntry (s : Store) (n : NodeId) : Kind × String := (s.kind n, (s.payload n).value)

/-- Reads a plain listing. -/
def readPlain (text : String) : List (Kind × String) :=
  (text.toList.splitOn '\n').dropLast.map readEntry

/-- Reads an outline. -/
def readOutline (text : String) : List (Rose (Kind × String)) :=
  Rose.ofLeveled ((text.toList.splitOn '\n').dropLast.map readRow)

/-! ## Lines -/

theorem splitOn_plain (s : Store) (ns : List NodeId) :
    (String.join (plain s ns)).toList.splitOn '\n' =
      (ns.map (plainEntry s)).map plainBody ++ [[]] := by
  rw [plain, splitOn_join (toList_plainLine s) fun n => lineFeed_not_mem_plainBody (plainEntry s n),
    List.map_map]
  rfl

theorem outlineTo_eq (s : Store) (depth level : Nat) (n : NodeId) :
    outlineTo s depth level n = (s.levelsTo depth level n).map fun q => outlineLine s q.1 q.2 := by
  induction depth generalizing level n with
  | zero => rfl
  | succ depth ih =>
    rw [outlineTo, Store.levelsTo, List.map_cons, List.map_flatMap]
    exact congrArg _ (List.flatMap_congr fun c _ => ih (level + 1) c)

/-- What an outline shows, row by row: a level, a kind and a value. -/
def outlineRows (s : Store) (ns : List NodeId) : List (Nat × Kind × String) :=
  (ns.flatMap s.levels).map fun q => (q.1, outlineEntry s q.2)

theorem outline_eq (s : Store) (ns : List NodeId) :
    outline s ns = (ns.flatMap s.levels).map fun q => outlineLine s q.1 q.2 := by
  rw [outline, List.map_flatMap]
  exact List.flatMap_congr fun n _ => outlineTo_eq s s.size 0 n

theorem splitOn_outlineRows (s : Store) (ns : List NodeId) :
    (String.join (outline s ns)).toList.splitOn '\n' = (outlineRows s ns).map outlineBody ++ [[]] := by
  have hlast : ∀ q : Nat × NodeId, (outlineLine s q.1 q.2).toList =
      outlineBody (q.1, outlineEntry s q.2) ++ ['\n'] := fun q => toList_outlineLine s q.1 q.2
  rw [outline_eq, splitOn_join hlast fun q => lineFeed_not_mem_outlineBody _, outlineRows, List.map_map]
  rfl

/-- The lines of an outline are the rows of the trees. -/
theorem splitOn_outline (h : ∀ n ∈ ns, s.Ends n) :
    (String.join (outline s ns)).toList.splitOn '\n' =
      (Rose.leveledAll 0 (ns.map (s.tree (outlineEntry s)))).map outlineBody ++ [[]] := by
  have hrows : Rose.leveledAll 0 (ns.map (s.tree (outlineEntry s))) = outlineRows s ns := by
    rw [Rose.leveledAll_eq_flatMap, List.flatMap_map, outlineRows, List.map_flatMap]
    exact List.flatMap_congr fun n hn => (h n hn).leveled_tree _ 0
  rw [splitOn_outlineRows, hrows]

/-! ## Reading -/

theorem readPlain_plain (s : Store) (ns : List NodeId) :
    readPlain (String.join (plain s ns)) = ns.map (plainEntry s) := by
  have hread : readEntry ∘ plainBody = id := funext readEntry_plainBody
  rw [readPlain, splitOn_plain, List.dropLast_concat, List.map_map, hread, List.map_id]

theorem readOutline_outline (h : ∀ n ∈ ns, s.Ends n) :
    readOutline (String.join (outline s ns)) = ns.map (s.tree (outlineEntry s)) := by
  have hread : readRow ∘ outlineBody = id := funext readRow_outlineBody
  rw [readOutline, splitOn_outline h, List.dropLast_concat, List.map_map, hread, List.map_id,
    Rose.ofLeveled_leveledAll]

/-- Two outlines are the same text only if the trees are the same, label by label. The text has one line
per node of the trees, in the order of a document, and a line on level `k` begins with `2 * k` spaces and no
more. Two plain listings are the same text only if kinds and texts are the same, and have one line per
node. -/
theorem listing_determines (s s' : Store) (ns ns' : List NodeId) :
    ((∀ n ∈ ns, s.Ends n) → (∀ n ∈ ns', s'.Ends n) →
      String.join (lines .tree s ns) = String.join (lines .tree s' ns') →
      ns.map (s.tree (outlineEntry s)) = ns'.map (s'.tree (outlineEntry s'))) ∧
    ((∀ n ∈ ns, s.Ends n) →
      (String.join (lines .tree s ns)).toList.splitOn '\n' =
        (Rose.leveledAll 0 (ns.map (s.tree (outlineEntry s)))).map outlineBody ++ [[]]) ∧
    (∀ row, (outlineBody row).takeWhile (· == ' ') = List.replicate (2 * row.1) ' ') ∧
    (String.join (lines .plain s ns) = String.join (lines .plain s' ns') →
      ns.map (plainEntry s) = ns'.map (plainEntry s')) ∧
    (String.join (lines .plain s ns)).toList.splitOn '\n' =
      (ns.map (plainEntry s)).map plainBody ++ [[]] := by
  refine ⟨fun h h' htext => ?_, fun h => splitOn_outline h, takeWhile_outlineBody, fun htext => ?_,
    splitOn_plain s ns⟩
  · have hread := congrArg readOutline htext
    rwa [lines, lines, readOutline_outline h, readOutline_outline h'] at hread
  · have hread := congrArg readPlain htext
    rwa [lines, lines, readPlain_plain, readPlain_plain] at hread

/-- A quote over a paragraph, the quote added first. -/
def quoteFirst : Store :=
  ((({} : Store).add { kind := .blockQuote }).2.add { kind := .paragraph, value := "a\n\"b" }).2.link
    0 1 (· ++ [1])

/-- The same, the paragraph added first. -/
def paragraphFirst : Store :=
  ((({} : Store).add { kind := .paragraph, value := "a\n\"b" }).2.add { kind := .blockQuote }).2.link
    1 0 (· ++ [0])

theorem listing_determines_quote :
    (∀ n ∈ [0, 1], quoteFirst.Ends n) ∧ (∀ n ∈ [1, 0], paragraphFirst.Ends n) ∧
      String.join (lines .tree quoteFirst [0, 1]) =
        "block-quote\n  paragraph \"a\\n\\\"b\"\nparagraph \"a\\n\\\"b\"\n" ∧
      [0, 1].map (quoteFirst.tree (outlineEntry quoteFirst)) =
        [1, 0].map (paragraphFirst.tree (outlineEntry paragraphFirst)) ∧
      String.join (lines .plain quoteFirst [0]) = String.join (lines .plain paragraphFirst [1]) ∧
      plainEntry quoteFirst 0 = plainEntry paragraphFirst 1 := by
  have hends : ∀ n ∈ [0, 1], quoteFirst.Ends n := by decide +kernel
  have hends' : ∀ n ∈ [1, 0], paragraphFirst.Ends n := by decide +kernel
  have htext : String.join (lines .tree quoteFirst [0, 1]) =
      "block-quote\n  paragraph \"a\\n\\\"b\"\nparagraph \"a\\n\\\"b\"\n" := by decide +kernel
  have hsame : String.join (lines .tree quoteFirst [0, 1]) =
      String.join (lines .tree paragraphFirst [1, 0]) := by decide +kernel
  have hplain : String.join (lines .plain quoteFirst [0]) =
      String.join (lines .plain paragraphFirst [1]) := by decide +kernel
  obtain ⟨htrees, -⟩ := listing_determines quoteFirst paragraphFirst [0, 1] [1, 0]
  obtain ⟨-, -, -, hentries, -⟩ := listing_determines quoteFirst paragraphFirst [0] [1]
  exact ⟨hends, hends', htext, htrees hends hends' hsame, hplain,
    List.head_eq_of_cons_eq (hentries hplain)⟩

end Listing

end MarkTree
