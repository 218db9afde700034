import MarkTree.Proofs.Store.Families
import MarkTree.Proofs.Store.Kinds

/-!
# Lookups of one node

A lookup of one node looks for it among the nodes that a question answers with (`Lookup.among`), and finds
none only if there are none (`lookup?_eq_none_iff`). The answer is then a placeholder, and no answer that was
found is one, of whatever kind it is. So from the answer one can tell whether anything was found
(`Apart.found?_orPlaceholder`).

The first and the last of different nodes are the same only if there is one. Where there is none, two
placeholders are made, one for each lookup, and these are never the same (`Apart.first_eq_last_iff`).
-/

namespace MarkTree

/-- The question whose answers a lookup looks through for one. -/
def Lookup.among : Lookup → Query
  | .firstChild k => .children k
  | .lastChild k => .children k
  | .nearest side => .all side

namespace Store

variable {s : Store} {n c : NodeId} {k : Kind} {q : Lookup}

theorem lookup?_firstChild (s : Store) (n : NodeId) (k : Kind) :
    s.lookup? n (.firstChild k) = (s.query n (.children k)).head? := s.firstChild?_eq_head? k n

theorem lookup?_lastChild (s : Store) (n : NodeId) (k : Kind) :
    s.lookup? n (.lastChild k) = (s.query n (.children k)).getLast? := s.lastChild?_eq_getLast? k n

theorem lookup?_eq_none_iff : s.lookup? n q = none ↔ s.query n q.among = [] := by
  cases q with
  | firstChild k => rw [lookup?_firstChild, List.head?_eq_none_iff, Lookup.among]
  | lastChild k => rw [lookup?_lastChild, List.getLast?_eq_none_iff, Lookup.among]
  | nearest side => exact List.head?_eq_none_iff

/-! ## Placeholders for what was not found -/

theorem isPlaceholder_addPlaceholder (s : Store) : s.addPlaceholder.2.isPlaceholder s.size = true := by
  rw [addPlaceholder, isPlaceholder, payload_add, if_pos rfl]

/-- What was found is told from the placeholder for what was not. -/
theorem Apart.found?_orPlaceholder (ha : s.Apart) (n : NodeId) (q : Lookup) :
    (s.orPlaceholder (s.lookup? n q)).2.found? (s.orPlaceholder (s.lookup? n q)).1 = s.lookup? n q := by
  cases hq : s.lookup? n q with
  | none => exact if_pos s.isPlaceholder_addPlaceholder
  | some m =>
    have hordinary : s.isPlaceholder m = false := ha.ordinary_of_lookup? hq
    rw [orPlaceholder, found?, hordinary]
    rfl

theorem found?_eq_none_iff : s.found? n = none ↔ s.isPlaceholder n = true := by
  rw [found?]
  split <;> simp [*]

/-! ## The first and the last child -/

/-- A placeholder that was added is no child of anything. -/
theorem Sound.children_add (hs : s.Sound) (p : Payload) (k : Kind) (n : NodeId) :
    (s.add p).2.children k n = s.children k n := by
  rw [children, children, childList_add]
  refine List.filter_congr fun c hc => ?_
  have hne : c ≠ s.size := Nat.ne_of_lt (lt_size_of_alive (hs.alive_of_owns hc))
  rw [kind, payload_add, if_neg hne]
  rfl

/-- The first and the last child of a kind are the same node if there is one child of that kind. If there is
none, they are two placeholders. -/
theorem Sound.first_eq_last_iff (hs : s.Sound) (hr : s.NoRepeats) (n : NodeId) (k : Kind) :
    let first := s.orPlaceholder (s.lookup? n (.firstChild k))
    let last := first.2.orPlaceholder (first.2.lookup? n (.lastChild k))
    first.1 = last.1 ↔ (s.query n (.children k)).length = 1 := by
  intro first last
  by_cases hnone : s.children k n = []
  · -- the second placeholder is added to a store that the first one is in already
    have hfirst : first = s.addPlaceholder := by
      have hlookup : s.lookup? n (.firstChild k) = none := lookup?_eq_none_iff.mpr hnone
      simp only [first, hlookup, orPlaceholder]
    have hlast : last = s.addPlaceholder.2.addPlaceholder := by
      have hlookup : s.addPlaceholder.2.lookup? n (.lastChild k) = none :=
        lookup?_eq_none_iff.mpr ((hs.children_add _ k n).trans hnone)
      simp only [last, hfirst, hlookup, orPlaceholder]
    have hsize : s.addPlaceholder.2.size = s.size + 1 := s.size_add _
    have hne : first.1 ≠ last.1 := by
      rw [hfirst, hlast]
      change s.size ≠ s.addPlaceholder.2.size
      omega
    simp [hne, query, hnone]
  · have hnodup : (s.children k n).Nodup := (hr n).sublist List.filter_sublist
    have hfirst : first = ((s.children k n).head hnone, s) := by
      simp only [first, lookup?_firstChild, query, List.head?_eq_some_head hnone, orPlaceholder]
    have hlast : last.1 = (s.children k n).getLast hnone := by
      simp only [last, hfirst, lookup?_lastChild, query, List.getLast?_eq_some_getLast hnone,
        orPlaceholder]
    rw [hfirst, hlast, hnodup.head_eq_getLast_iff hnone, query, List.length_eq_one_iff]

end Store

end MarkTree
