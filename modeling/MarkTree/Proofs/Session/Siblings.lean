import MarkTree.Proofs.Session.Runs
import MarkTree.Proofs.Store.Siblings

/-!
# Siblings after a run

A node that was taken out of its parent's list keeps the link to that parent. The walks sideways look for
its place in the list and find none, so nobody stands beside it. The siblings of a kind are read off the
list without a place, and are the children that the former parent still has
(`siblings_of_detached`, `former_siblings_of_removed`).
-/

namespace MarkTree.Session

/-- The siblings of a node without a parent that lists it. Nobody stands on either side of it; the
siblings of a kind are the children of the parent, if that is still there. So the node has no siblings in
any sense exactly if its parent is gone or has no children left. -/
theorem siblings_of_detached (sts : List Step) (n : NodeId) (h : (after {} sts).store.Detached n) :
    let s := (after {} sts).store
    (∀ side stop, s.scan side stop n = []) ∧
    (∀ side, s.orPlaceholder (s.lookup? n (.nearest side)) = s.addPlaceholder) ∧
    (∀ k, s.siblingsOfKind k n = (s.parent? n).elim [] (s.children k)) ∧
    s.siblings .any n = (s.parent? n).elim [] s.childList ∧
    ((∀ k, s.siblingsOfKind k n = []) ↔ ∀ p, s.parent? n = some p → s.childList p = []) := by
  intro s
  have hany : s.siblingsOfKind .any n = (s.parent? n).elim [] s.childList := by
    rw [h.siblingsOfKind_eq]
    cases s.parent? n with
    | none => rfl
    | some p => exact s.children_any p
  refine ⟨h.scan_eq_nil, h.orPlaceholder_nearest, h.siblingsOfKind_eq, ?_, ?_⟩
  · rw [Store.siblings_any, hany]
  · constructor
    · intro hempty p hp
      have hlist := hempty .any
      rwa [hany, hp] at hlist
    · intro hempty k
      rw [h.siblingsOfKind_eq]
      cases hp : s.parent? n with
      | none => rfl
      | some p =>
        have hlist : s.childList p = [] := hempty p hp
        rw [Option.elim_some, Store.children, hlist, List.filter_nil]

/-- A run that puts two nodes under a third one and takes the first of them out again. -/
def removing : List Step :=
  [.node (.create { kind := .document }) (some "a"), .node (.create { kind := .paragraph }) (some "b"),
    .node (.create { kind := .paragraph }) (some "c"), .change (.insert .last "a" "b"),
    .change (.insert .last "a" "c"), .change (.remove "b")]

theorem siblings_of_detached_removing :
    let s := (after {} removing).store
    s.Detached 1 ∧ s.scan .after none 1 = [] ∧ s.siblingsOfKind .paragraph 1 = [2] := by
  intro s
  have hdetached : s.Detached 1 := by decide +kernel
  obtain ⟨hscan, -, hkind, -⟩ := siblings_of_detached removing 1 hdetached
  have hchildren : (s.parent? 1).elim [] (s.children .paragraph) = [2] := by decide +kernel
  exact ⟨hdetached, hscan .after none, (hkind .paragraph).trans hchildren⟩

/-- The node that was taken out still finds its former sibling. -/
theorem former_siblings_of_removed :
    let s := (after {} removing).store
    s.Detached 1 ∧ s.siblingsOfKind .any 1 = [2] ∧ s.siblings .any 1 = [2] := by
  intro s
  exact ⟨by decide +kernel, by decide +kernel, by decide +kernel⟩

end MarkTree.Session
