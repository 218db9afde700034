import MarkTree.Proofs.Session.Ownership
import MarkTree.Proofs.Session.Placeholders
import MarkTree.Proofs.Store.Families

/-!
# Families after a run

A run that inserts unlisted nodes only leaves lists that repeat nobody and agree with the links. There the
walks sideways go through the family of a node: backwards and forwards together they see every other member
once, a step in one direction takes back a step in the other, and steps forwards from the first child of a
kind visit the children of that kind one after the other (`families_after`).
-/

namespace MarkTree.Session

open Store (Unlisted)

/-- If every inserted node is listed by no node when it is inserted, who comes before a listed node, the node,
and who comes after it are the children of the parent that are of its kind, in their order; without the node
they are its siblings of that kind, unless the kind is the wildcard. The nearest siblings on the two sides
are each other's, and no placeholders. The steps forwards from the first child of a kind other than the
wildcard lead through the children of that kind, up to the last, after which there is a placeholder. -/
theorem families_after (sts : List Step) (h : Heeds Unlisted {} sts) :
    let s := (after {} sts).store
    (∀ n p, s.parent? n = some p → n ∈ s.childList p →
      (s.query n (.all .before)).reverse ++ [n] ++ s.query n (.all .after) =
          (s.query p (.children .any)).filter (fun m => s.kind m = s.kind n) ∧
        (s.kind n ≠ .any → s.query n (.siblingsOfKind (s.kind n)) =
          (s.query n (.all .before)).reverse ++ s.query n (.all .after))) ∧
    (∀ a b, s.lookup? a (.nearest .after) = some b ↔ s.lookup? b (.nearest .before) = some a) ∧
    (∀ a side b, s.lookup? a (.nearest side) = some b → s.isPlaceholder b = false) ∧
    ∀ k p, k ≠ .any →
      (∀ i, (fun found => found.bind fun c => s.lookup? c (.nearest .after))^[i]
        (s.lookup? p (.firstChild k)) = (s.query p (.children k))[i]?) ∧
      s.lookup? p (.lastChild k) = (s.query p (.children k)).getLast? ∧
      ∀ c, s.lookup? p (.lastChild k) = some c →
        s.orPlaceholder (s.lookup? c (.nearest .after)) = s.addPlaceholder := by
  intro s
  have hcoherent : s.Coherent := coherent_after_of_unlisted h
  have hr : s.NoRepeats := noRepeats_after h
  refine ⟨fun n p hp ho => ⟨?_, fun hk => Store.siblingsOfKind_kind hr hp ho hk⟩,
    fun a b => hcoherent.nearest?_after_iff_before hr, fun a side b hb => ?_, fun k p hk => ?_⟩
  · rw [Store.query, Store.query, Store.query, Store.children_any, List.append_assoc]
    exact Store.reverse_scan_append_scan hp ho
  · have hapart : s.Apart := apart_after sts
    exact hapart.ordinary_of_lookup? hb
  · refine ⟨hcoherent.iterate_nearest? hr hk p, s.lastChild?_eq_getLast? k p, fun c hc => ?_⟩
    have hnone : s.lookup? c (.nearest .after) = none := hcoherent.nearest?_of_lastChild? hr hk hc
    rw [hnone]
    rfl

/-- A run that puts nodes of two kinds under a third one, and the second paragraph before the first. -/
def shuffling : List Step :=
  [.node (.create { kind := .document }) (some "a"), .node (.create { kind := .paragraph }) (some "b"),
    .node (.create { kind := .paragraph }) (some "c"), .node (.create { kind := .blockQuote }) (some "d"),
    .node (.create { kind := .paragraph }) (some "e"), .change (.insert .last "a" "b"),
    .change (.insert .after "b" "d"), .change (.insert .last "a" "c"), .change (.insert .last "a" "e"),
    .change (.remove "c"), .change (.insert .before "b" "c")]

theorem families_after_shuffling :
    let s := (after {} shuffling).store
    Heeds Unlisted {} shuffling ∧ s.parent? 1 = some 0 ∧ s.childList 0 = [2, 1, 3, 4] ∧
      (s.query 1 (.all .before)).reverse ++ [1] ++ s.query 1 (.all .after) = [2, 1, 4] ∧
      s.query 1 (.siblingsOfKind .paragraph) =
        (s.query 1 (.all .before)).reverse ++ s.query 1 (.all .after) ∧
      s.lookup? 1 (.nearest .after) = some 4 ∧ s.lookup? 4 (.nearest .before) = some 1 ∧
      s.isPlaceholder 4 = false ∧
      (fun found => found.bind fun c => s.lookup? c (.nearest .after))^[2]
        (s.lookup? 0 (.firstChild .paragraph)) = some 4 ∧
      s.orPlaceholder (s.lookup? 4 (.nearest .after)) = s.addPlaceholder := by
  intro s
  have hheeds : Heeds Unlisted {} shuffling := by decide +kernel
  have hparent : s.parent? 1 = some 0 := by decide +kernel
  have hlist : s.childList 0 = [2, 1, 3, 4] := by decide +kernel
  have hkind : s.kind 1 = .paragraph := by decide +kernel
  have hnext : s.lookup? 1 (.nearest .after) = some 4 := by decide +kernel
  obtain ⟨hfamily, hback, hfound, hsteps⟩ := families_after shuffling hheeds
  obtain ⟨hparts, hothers⟩ := hfamily 1 0 hparent (by rw [hlist]; decide)
  obtain ⟨hwalk, -, hlast⟩ := hsteps .paragraph 0 (by decide)
  refine ⟨hheeds, hparent, hlist, hparts.trans (by decide +kernel), ?_, hnext, (hback 1 4).mp hnext,
    hfound 1 .after 4 hnext, (hwalk 2).trans (by decide +kernel), hlast 4 (by decide +kernel)⟩
  rw [← hkind]
  exact hothers (by rw [hkind]; decide)

end MarkTree.Session
