import MarkTree.Proofs.Session.Ownership
import MarkTree.Proofs.Store.Lineage

/-!
# Lineages after a run

A run that inserts unlisted nodes only keeps lists and links in step: what a search finds below a node has
that node above it, and the ways between the two are one way, seen from its two ends. Taking a node out of
a list keeps its link, so that the way up may lead further than the lists lead down; as long as nobody on
the way up was taken out, it does not (`lineage_after`).
-/

namespace MarkTree.Session

open Store (Unlisted)

/-- If every inserted node is listed by no node when it is inserted, a node that is found below another one
has that one among its ancestors, and the ancestors up to it are the one way down between the two, nearest
first. If everybody on the way up from a node is listed by the parent, the node is found below each of its
ancestors. The last ancestor has no parent, and a walk upwards with a test gives the longest start of the
ancestors that the test accepts throughout. -/
theorem lineage_after (sts : List Step) (h : Heeds Unlisted {} sts) :
    let s := (after {} sts).store
    (∀ n p, p ≠ n → n ∈ s.search .any p →
      p ∈ s.ancestors n ∧
        ∀ l, s.LeadsDown p l n ↔ (s.ancestors n).takeWhile (· != p) = l.reverse) ∧
    (∀ n, (∀ m ∈ n :: s.ancestors n, ∀ q, s.parent? m = some q → m ∈ s.childList q) →
      ∀ p ∈ s.ancestors n, n ∈ s.search .any p) ∧
    (∀ n, s.parent? ((s.ancestors n).getLastD n) = none) ∧
    ∀ k n, s.ancestorsWhile k n = (s.ancestors n).takeWhile fun m => k.accepts (s.kind m) := by
  intro s
  have hs : s.Sound := (sound_after sts).store
  have hcoherent : s.Coherent := coherent_after_of_unlisted h
  refine ⟨fun n p hne hn => ?_, fun n hlisted p => ?_, fun n => ?_, s.ancestorsWhile_eq_takeWhile⟩
  · have hpath := Store.transGen_of_mem_search hne hn
    exact ⟨hcoherent.mem_ancestors_of_owns hs.loopFree hpath,
      fun l => hcoherent.leadsDown_iff hs.loopFree hpath⟩
  · exact hcoherent.mem_search_of_mem_ancestors (noRepeats_after h) hs hlisted
  · exact (hs.loopFree.climbs_ancestorsWhile .any n).parent?_getLastD

/-- A run that builds a way of three steps, and takes a node with a child of its own out beside it. -/
def branching : List Step :=
  [.node (.create { kind := .document }) (some "a"), .node (.create { kind := .blockQuote }) (some "b"),
    .node (.create { kind := .blockQuote }) (some "c"), .node (.create {}) (some "d"),
    .node (.create {}) (some "e"), .change (.insert .last "c" "d"), .change (.insert .last "b" "c"),
    .change (.insert .last "a" "b"), .change (.insert .first "b" "e"), .change (.remove "e"),
    .change (.insert .before "c" "e"), .change (.remove "e")]

theorem lineage_after_branching :
    let s := (after {} branching).store
    Heeds Unlisted {} branching ∧
      3 ∈ s.search .any 0 ∧ s.ancestors 3 = [2, 1, 0] ∧ s.LeadsDown 0 [1, 2] 3 ∧
      (∀ m ∈ 3 :: s.ancestors 3, ∀ q, s.parent? m = some q → m ∈ s.childList q) ∧
      3 ∈ s.search .any 1 ∧ s.parent? ((s.ancestors 3).getLastD 3) = none ∧
      s.ancestorsWhile .blockQuote 3 = [2, 1] ∧
      s.ancestors 4 = [1, 0] ∧ 4 ∉ s.search .any 1 := by
  intro s
  have hheeds : Heeds Unlisted {} branching := by decide +kernel
  have hfound : 3 ∈ s.search .any 0 := by decide +kernel
  have hup : s.ancestors 3 = [2, 1, 0] := by decide +kernel
  have hlisted : ∀ m ∈ 3 :: s.ancestors 3, ∀ q, s.parent? m = some q → m ∈ s.childList q := by
    rw [hup]
    have hattached : ∀ m ∈ [3, 2, 1, 0], ∀ q ∈ s.parent? m, m ∈ s.childList q := by decide +kernel
    exact hattached
  obtain ⟨hbelow, hback, htop, hwhile⟩ := lineage_after branching hheeds
  refine ⟨hheeds, hfound, hup, ?_, hlisted, ?_, htop 3, ?_, by decide +kernel, by decide +kernel⟩
  · refine ((hbelow 3 0 (by decide) hfound).2 [1, 2]).mpr ?_
    rw [hup]
    rfl
  · refine hback 3 hlisted 1 ?_
    rw [hup]
    decide
  · rw [hwhile, hup]
    decide +kernel

end MarkTree.Session
