import MarkTree.Proofs.Session.Runs
import MarkTree.Proofs.Store.Scans

/-!
# Walks sideways after a run

The walks from a listed node with a bound and without one go over the same siblings. The bound is looked for
among all of them, and the walk gives those of the node's own kind that stand before it (`scans_after`).
-/

namespace MarkTree.Session

/-- For a node that its parent lists, the siblings on a side are what stands there of the parent's list,
seen from the node's first place. The walk without a bound gives all of the node's kind. If `q` is the first
of the kind of the bound, the walk with the bound gives those of the node's kind that are nearer than `q`,
and the walk without it goes on from `q`; if there is no such `q`, both are the same. The bounded walk is
empty for the node's own kind, always a first part of the other walk, and without a node of the bound's
kind. -/
theorem scans_after (sts : List Step) (n p : NodeId) (hp : (after {} sts).store.parent? n = some p)
    (ho : n ∈ (after {} sts).store.childList p) :
    let s := (after {} sts).store
    ∃ front back, s.childList p = front ++ n :: back ∧ n ∉ front ∧ ∀ side,
      let siblings := side.outward front back
      s.query n (.all side) = siblings.filter (fun m => s.kind m = s.kind n) ∧
      ∀ stop,
        (∀ near q far, siblings = near ++ q :: far → (∀ m ∈ near, s.kind m ≠ stop) → s.kind q = stop →
          s.query n (.upTo side stop) = near.filter (fun m => s.kind m = s.kind n) ∧
          s.query n (.all side) =
            s.query n (.upTo side stop) ++ (q :: far).filter (fun m => s.kind m = s.kind n)) ∧
        ((∀ m ∈ siblings, s.kind m ≠ stop) → s.query n (.upTo side stop) = s.query n (.all side)) ∧
        (stop = s.kind n → s.query n (.upTo side stop) = []) ∧
        s.query n (.upTo side stop) <+: s.query n (.all side) ∧
        ∀ m ∈ s.query n (.upTo side stop), s.kind m ≠ stop := by
  intro s
  obtain ⟨front, back, hlist, hfirst, hside⟩ := Store.exists_sideOf hp ho
  refine ⟨front, back, hlist, hfirst, ?_⟩
  intro side siblings
  have hsiblings : s.sideOf side n = siblings := hside side
  have hall : s.query n (.all side) = siblings.filter fun m => s.kind m = s.kind n := by
    rw [← hsiblings]
    exact s.scan_none side n
  refine ⟨hall, fun stop => ⟨?_, ?_, ?_, s.scan_some_prefix side stop n, ?_⟩⟩
  · intro near q far hsplit hnear hq
    have hbound : s.query n (.upTo side stop) = near.filter fun m => s.kind m = s.kind n :=
      Store.scan_some_of_split (hsiblings.trans hsplit) hnear hq
    refine ⟨hbound, ?_⟩
    rw [hbound, hall, hsplit, List.filter_append]
  · intro habsent
    rw [← hsiblings] at habsent
    exact Store.scan_some_of_absent habsent
  · rintro rfl
    exact s.scan_own side n
  · intro m hm
    exact Store.kind_ne_of_mem_scan_some hm

/-- A run that puts paragraphs on both sides of a paragraph, and among them a heading and a block quote. -/
def mingling : List Step :=
  [.node (.create { kind := .document }) (some "a"), .node (.create { kind := .paragraph }) (some "b"),
    .node (.create { kind := .thematicBreak }) (some "c"), .node (.create { kind := .paragraph }) (some "d"),
    .node (.create { kind := .paragraph }) (some "e"), .node (.create { kind := .paragraph }) (some "f"),
    .node (.create { kind := .blockQuote }) (some "g"), .node (.create { kind := .paragraph }) (some "h"),
    .change (.insert .last "a" "b"), .change (.insert .last "a" "c"), .change (.insert .last "a" "d"),
    .change (.insert .last "a" "e"), .change (.insert .last "a" "f"), .change (.insert .last "a" "g"),
    .change (.insert .last "a" "h")]

theorem scans_after_mingling :
    let s := (after {} mingling).store
    s.parent? 4 = some 0 ∧ s.childList 0 = [1, 2, 3, 4, 5, 6, 7] ∧
      s.query 4 (.all .after) = [5, 7] ∧ s.query 4 (.upTo .after .blockQuote) = [5] ∧
      s.query 4 (.upTo .after .thematicBreak) = s.query 4 (.all .after) ∧
      s.query 4 (.upTo .after .paragraph) = [] ∧
      s.query 4 (.all .before) = [3, 1] ∧ s.query 4 (.upTo .before .thematicBreak) = [3] := by
  intro s
  have hparent : s.parent? 4 = some 0 := by decide +kernel
  have hlist : s.childList 0 = [1, 2, 3, 4, 5, 6, 7] := by decide +kernel
  have hlisted : 4 ∈ s.childList 0 := by
    rw [hlist]
    decide
  obtain ⟨front, back, hsplit, -, hsides⟩ := scans_after mingling 4 0 hparent hlisted
  have hsame : [1, 2, 3] ++ 4 :: [5, 6, 7] = front ++ 4 :: back := hlist.symm.trans hsplit
  obtain ⟨rfl, -, rfl⟩ := (List.append_cons_inj_of_notMem (by decide) (by decide)).mp hsame
  obtain ⟨hall, hafter⟩ := hsides .after
  obtain ⟨hallBefore, hbefore⟩ := hsides .before
  obtain ⟨hquote, -⟩ := hafter .blockQuote
  obtain ⟨-, habsent, -⟩ := hafter .thematicBreak
  obtain ⟨-, -, hown, -⟩ := hafter .paragraph
  obtain ⟨hbreak, -⟩ := hbefore .thematicBreak
  have hfirst := (hquote [5] 6 [7] rfl (by decide +kernel) (by decide +kernel)).1
  have hfirstBefore := (hbreak [3] 2 [1] rfl (by decide +kernel) (by decide +kernel)).1
  exact ⟨hparent, hlist, hall.trans (by decide +kernel), hfirst.trans (by decide +kernel),
    habsent (by decide +kernel), hown (by decide +kernel), hallBefore.trans (by decide +kernel),
    hfirstBefore.trans (by decide +kernel)⟩

end MarkTree.Session
