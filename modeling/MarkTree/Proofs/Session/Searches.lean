import MarkTree.Proofs.Session.Ownership
import MarkTree.Proofs.Store.Preorder

/-!
# Searches after a run

A search has no bound of its own on how deep it goes, and no record of where it was. That it ends and passes
over no node twice is owed to the run: if every inserted node is unlisted when it is inserted, the lists are
a forest, and a search goes through one tree of it in the order of the document (`preorder_after`).

That the two searches agree is owed to nothing but an end of all ways down: nodes may be listed more than
once, and be of any kind, the wildcard and the kind of a node without a kind included
(`searches_agree_after`).
-/

namespace MarkTree.Session

open Relation (TransGen ReflTransGen)
open Store (Unlisted)

/-- If every inserted node is listed by no node when it is inserted, the search for everything from a node
`r` that is there ends by itself, and gives `r` and the nodes below it, each once. Every node but `r` comes
after its parent. What is found from a node `n` below stands next to each other and starts with `n`, and then
come the blocks of the children of `n`, in their order. -/
theorem preorder_after (sts : List Step) (h : Heeds Unlisted {} sts) :
    let s := (after {} sts).store
    ∀ r, s.alive r →
      (∀ l, s.Visits .any r l ↔ l = s.search .any r) ∧
      (s.search .any r).Nodup ∧
      (∀ n, n ∈ s.search .any r ↔ ReflTransGen s.Owns r n) ∧
      (∀ n ∈ s.search .any r, n ≠ r →
        ∃ p, s.parent? n = some p ∧ [p, n].Sublist (s.search .any r)) ∧
      ∀ n ∈ s.search .any r,
        s.search .any n <:+: s.search .any r ∧
        s.search .any n = n :: (s.childList n).flatMap (s.search .any) := by
  intro s r hr
  have hs : s.Sound := (sound_after sts).store
  have htree : s.IsTree r := (coherent_after_of_unlisted h).isTree (noRepeats_after h) hr
  have hends : s.Ends r := htree.ends hs
  have hmem : ∀ n, n ∈ s.search .any r ↔ ReflTransGen s.Owns r n := fun n =>
    (htree.mem_search_iff hs).trans (and_iff_left rfl)
  refine ⟨fun l => hends.visits_iff, htree.nodup_search hs .any, hmem,
    fun n hn hne => htree.parent_first hs hn hne, fun n hn => ?_⟩
  have hpath := (hmem n).mp hn
  exact ⟨hends.search_block hpath .any, (hends.below hpath).search_any_eq⟩

/-- A run that builds a tree of three levels out of order, and moves a node with what stands below it. -/
def replanting : List Step :=
  [.node (.create { kind := .document }) (some "a"), .node (.create { kind := .paragraph }) (some "b"),
    .node (.create { kind := .blockQuote }) (some "c"), .node (.create {}) (some "d"),
    .node (.create { kind := .any }) (some "e"), .change (.insert .last "a" "b"),
    .change (.insert .last "b" "d"), .change (.insert .first "a" "c"), .change (.insert .before "d" "e"),
    .change (.remove "b"), .change (.insert .last "c" "b")]

theorem preorder_after_replanting :
    let s := (after {} replanting).store
    Heeds Unlisted {} replanting ∧ s.alive 0 ∧ s.search .any 0 = [0, 2, 1, 4, 3] ∧
      s.Visits .any 0 [0, 2, 1, 4, 3] ∧ (s.search .any 0).Nodup ∧ ReflTransGen s.Owns 0 3 ∧
      (∃ p, s.parent? 3 = some p ∧ [p, 3].Sublist (s.search .any 0)) ∧
      s.search .any 1 <:+: s.search .any 0 ∧
      s.search .any 1 = 1 :: (s.search .any 4 ++ s.search .any 3) := by
  intro s
  have hheeds : Heeds Unlisted {} replanting := by decide +kernel
  have halive : s.alive 0 := by decide +kernel
  have hfound : s.search .any 0 = [0, 2, 1, 4, 3] := by decide +kernel
  have hlist : s.childList 1 = [4, 3] := by decide +kernel
  have hchildren : (s.childList 1).flatMap (s.search .any) = s.search .any 4 ++ s.search .any 3 := by
    simp [hlist]
  have hmem : ∀ n ∈ [0, 2, 1, 4, 3], n ∈ s.search .any 0 := fun n hn => hfound ▸ hn
  obtain ⟨hvisits, hnodup, hbelow, hparent, hblocks⟩ := preorder_after replanting hheeds 0 halive
  obtain ⟨hblock, hparts⟩ := hblocks 1 (hmem 1 (by decide))
  refine ⟨hheeds, halive, hfound, (hvisits _).mpr hfound.symm, hnodup,
    (hbelow 3).mp (hmem 3 (by decide)), hparent 3 (hmem 3 (by decide)) (by decide), hblock, ?_⟩
  exact hparts.trans (congrArg (1 :: ·) hchildren)

/-! ## The two searches -/

/-- Let nothing below a node `n` stand below itself. Then a search for a kind is what the search for
everything gives, restricted to that kind. For a kind other than the wildcard it finds `n`, if `n` is of that
kind, and then what stands below, which is what the searches from the children find one after the other. For
the wildcard what stands below is the children alone. -/
theorem searches_agree_after (sts : List Step) (n : NodeId)
    (hn : (after {} sts).store.alive n)
    (hacyclic : ∀ m, ReflTransGen (after {} sts).store.Owns n m →
      ¬ TransGen (after {} sts).store.Owns m m) :
    let s := (after {} sts).store
    (∀ k, s.search k n = s.filter k (s.search .any n)) ∧
    (∀ k, k ≠ .any → s.search k n = (if s.kind n = k then [n] else []) ++ s.find k n) ∧
    s.find .any n = s.children .any n ∧
    ∀ k, k ≠ .any → s.find k n = (s.childList n).flatMap (s.search k) := by
  intro s
  have hs : s.Sound := (sound_after sts).store
  have hends : s.Ends n :=
    Store.ends_of_acyclic (fun _ h => hs.alive_of_owns_path hn h) hacyclic
  exact ⟨hends.search_eq_filter, fun k hk => hends.search_eq_self_find hk, if_pos rfl,
    fun k hk => hends.find_eq hk⟩

/-- A run that puts a paragraph under two nodes, one of the wildcard's kind and one without a kind, and
puts the latter twice under the former. -/
def sharing : List Step :=
  [.node (.create { kind := .any }) (some "a"), .node (.create {}) (some "b"),
    .node (.create { kind := .paragraph }) (some "c"), .change (.insert .last "b" "c"),
    .change (.insert .last "a" "c"), .change (.insert .first "a" "b"), .change (.insert .after "b" "b")]

theorem searches_agree_after_sharing :
    let s := (after {} sharing).store
    s.alive 0 ∧ (∀ m, ReflTransGen s.Owns 0 m → ¬ TransGen s.Owns m m) ∧
      s.search .any 0 = [0, 1, 2, 1, 2, 2] ∧ s.search .unset 0 = s.filter .unset [0, 1, 2, 1, 2, 2] ∧
      s.search .paragraph 0 = [] ++ s.find .paragraph 0 ∧ s.find .any 0 = s.children .any 0 ∧
      s.find .paragraph 0 =
        s.search .paragraph 1 ++ (s.search .paragraph 1 ++ s.search .paragraph 2) := by
  intro s
  have halive : s.alive 0 := by decide +kernel
  have hends : s.Ends 0 := by decide +kernel
  have hacyclic : ∀ m, ReflTransGen s.Owns 0 m → ¬ TransGen s.Owns m m := fun m hm =>
    (hends.below hm).acyclic
  have hall : s.search .any 0 = [0, 1, 2, 1, 2, 2] := by decide +kernel
  have hkind : s.kind 0 ≠ .paragraph := by decide +kernel
  have hlist : s.childList 0 = [1, 1, 2] := by decide +kernel
  have hchildren : (s.childList 0).flatMap (s.search .paragraph) =
      s.search .paragraph 1 ++ (s.search .paragraph 1 ++ s.search .paragraph 2) := by
    simp [hlist]
  obtain ⟨hfilter, hself, hany, hfind⟩ := searches_agree_after sharing 0 halive hacyclic
  refine ⟨halive, hacyclic, hall, ?_, ?_, hany, (hfind .paragraph (by decide)).trans hchildren⟩
  · rw [← hall]
    exact hfilter .unset
  · rw [hself .paragraph (by decide), if_neg hkind]

end MarkTree.Session
