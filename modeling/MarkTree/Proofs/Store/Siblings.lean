import MarkTree.Proofs.Store.Answers

/-!
# Siblings

The family of a node is its parent's list. The walks sideways start from the node's place in that list,
so a node without a place there, be it that its parent is gone or that it was taken out of the list, has
nobody on either side (`Detached.scan_eq_nil`).

The siblings of a kind are read off the same list without a place (`siblingsOfKind_eq`). They pass over
the node itself and ask for no more, so a node that was taken out of the list of a parent that is still
there finds all of that parent's children there (`Detached.siblingsOfKind_eq`).
-/

namespace MarkTree.Store

variable {s : Store} {n p : NodeId} {k : Kind} {side : Side}

/-- No parent of the node lists it. -/
def Detached (s : Store) (n : NodeId) : Prop := ∀ p, s.Under n p → ¬ s.Owns p n

theorem detached_iff : s.Detached n ↔ s.place? n = none := by
  constructor
  · intro h
    cases hq : s.place? n with
    | none => rfl
    | some q =>
      obtain ⟨hp, hi⟩ := place?_eq_some_iff.mp hq
      have hlisted : n ∈ s.childList q.1 := List.isSome_idxOf?.mp (Option.isSome_of_eq_some hi)
      exact absurd hlisted (h q.1 hp)
  · intro h p hp hlisted
    obtain ⟨i, hi⟩ := Option.isSome_iff_exists.mp (List.isSome_idxOf?.mpr hlisted)
    rw [place?_eq_some_iff.mpr ⟨hp, hi⟩] at h
    cases h

instance (s : Store) (n : NodeId) : Decidable (s.Detached n) := decidable_of_iff' _ detached_iff

theorem detached_of_parent?_eq_none (h : s.parent? n = none) : s.Detached n := by
  intro p hp
  rw [Under, h] at hp
  cases hp

/-! ## Walks sideways -/

theorem Detached.scan_eq_nil (h : s.Detached n) (side : Side) (stop : Option Kind) :
    s.scan side stop n = [] := by
  rw [scan, sideOf, detached_iff.mp h]
  rfl

/-- The nearest sibling of such a node is a fresh placeholder. -/
theorem Detached.orPlaceholder_nearest (h : s.Detached n) (side : Side) :
    s.orPlaceholder (s.lookup? n (.nearest side)) = s.addPlaceholder := by
  rw [lookup?, nearest?, h.scan_eq_nil]
  rfl

/-! ## Siblings of a kind -/

theorem siblingsOfKind_of_parent? (h : s.parent? n = some p) (k : Kind) :
    s.siblingsOfKind k n = (s.children k p).filter (· != n) := by
  rw [siblingsOfKind, h, children, List.filter_filter]

theorem siblingsOfKind_of_parent?_eq_none (h : s.parent? n = none) (k : Kind) :
    s.siblingsOfKind k n = [] := by
  rw [siblingsOfKind, h]

/-- A node that its parent does not list finds all children of that parent. -/
theorem Detached.siblingsOfKind_eq (h : s.Detached n) (k : Kind) :
    s.siblingsOfKind k n = (s.parent? n).elim [] (s.children k) := by
  cases hp : s.parent? n with
  | none => rw [siblingsOfKind_of_parent?_eq_none hp, Option.elim_none]
  | some p =>
    rw [siblingsOfKind_of_parent? hp, Option.elim_some]
    refine List.filter_eq_self.mpr fun m hm => ?_
    have hne : m ≠ n := by
      rintro rfl
      exact h p hp (owns_of_mem_children hm)
    exact bne_iff_ne.mpr hne

theorem children_any (s : Store) (p : NodeId) : s.children .any p = s.childList p :=
  List.filter_eq_self.mpr fun _ _ => rfl

theorem siblings_any (s : Store) (n : NodeId) : s.siblings .any n = s.siblingsOfKind .any n := by
  rw [siblings, if_pos rfl]

end MarkTree.Store
