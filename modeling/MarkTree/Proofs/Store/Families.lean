import MarkTree.Proofs.Store.Descent
import MarkTree.Proofs.Store.Forest
import MarkTree.Proofs.Store.Scans

/-!
# Families

The family of a node in a list are the listed nodes of the same kind, in the order of the list. The walks
sideways from a node that its parent lists give the family, split at the node (`reverse_scan_append_scan`):
forwards and backwards look at the two parts of one list, and pass over the same nodes.

Where no list repeats a node, the family can be split at the node in one way only. So a step forwards leads
from one member to the next, and a step backwards undoes it (`nearest?_after_iff`, `nearest?_before_iff`);
and the other nodes of the family are the siblings of the node's kind
(`siblingsOfKind_kind`). Counted from the first child of a kind, the steps forwards are the places in the
list of those children (`Coherent.iterate_nearest?`).
-/

namespace MarkTree.Store

variable {s : Store} {n p a b c : NodeId} {k : Kind}

/-- The nodes of the kind of `n` that `p` lists, in their order. -/
def family (s : Store) (p n : NodeId) : List NodeId :=
  (s.childList p).filter fun m => s.kind m = s.kind n

/-! ## The two sides of a node -/

/-- The walks from a node go through its parent's list from the node's first listing on, in both
directions. -/
theorem exists_sides (hp : s.Under n p) (ho : s.Owns p n) :
    ∃ front back, s.childList p = front ++ n :: back ∧
      s.scan .before none n = (front.filter fun m => s.kind m = s.kind n).reverse ∧
      s.scan .after none n = back.filter fun m => s.kind m = s.kind n := by
  obtain ⟨front, back, hlist, -, hside⟩ := exists_sideOf hp ho
  refine ⟨front, back, hlist, ?_, ?_⟩
  · rw [scan_none, hside, Side.outward, List.filter_reverse]
  · rw [scan_none, hside, Side.outward]

/-- Who comes before a node, the node, and who comes after it make up the family. -/
theorem reverse_scan_append_scan (hp : s.Under n p) (ho : s.Owns p n) :
    (s.scan .before none n).reverse ++ n :: s.scan .after none n = s.family p n := by
  obtain ⟨front, back, hlist, hbefore, hafter⟩ := exists_sides hp ho
  rw [hbefore, hafter, List.reverse_reverse, family, hlist, List.filter_append,
    List.filter_cons_of_pos (by simp)]

theorem NoRepeats.nodup_family (h : s.NoRepeats) (p n : NodeId) : (s.family p n).Nodup :=
  (h p).sublist List.filter_sublist

/-- A step forwards leads to the next of the family. -/
theorem nearest?_after_iff (h : s.NoRepeats) (hp : s.Under a p) (ho : s.Owns p a) :
    s.nearest? .after a = some b ↔ ∃ u v, s.family p a = u ++ a :: b :: v := by
  have hfamily := reverse_scan_append_scan hp ho
  rw [nearest?, List.head?_eq_some_iff]
  constructor
  · rintro ⟨v, hv⟩
    exact ⟨_, v, hv ▸ hfamily.symm⟩
  · rintro ⟨u, v, huv⟩
    have hnodup := h.nodup_family p a
    rw [← hfamily] at huv hnodup
    exact ⟨v, (split_unique hnodup huv).2⟩

/-- A step backwards leads to the one before in the family. -/
theorem nearest?_before_iff (h : s.NoRepeats) (hp : s.Under b p) (ho : s.Owns p b) :
    s.nearest? .before b = some a ↔ ∃ u v, s.family p b = u ++ a :: b :: v := by
  have hfamily := reverse_scan_append_scan hp ho
  rw [nearest?, List.head?_eq_some_iff]
  constructor
  · rintro ⟨u, hu⟩
    rw [hu, List.reverse_cons, List.append_assoc] at hfamily
    exact ⟨u.reverse, _, hfamily.symm⟩
  · rintro ⟨u, v, huv⟩
    have hnodup := h.nodup_family p b
    have hsplit : (s.scan .before none b).reverse ++ b :: s.scan .after none b =
        (u ++ [a]) ++ b :: v := by
      rw [hfamily, huv, List.append_assoc]
      rfl
    rw [← hfamily] at hnodup
    refine ⟨u.reverse, ?_⟩
    rw [← List.reverse_reverse (s.scan .before none b), (split_unique hnodup hsplit).1,
      List.reverse_append]
    rfl

/-! ## Where lists and links agree -/

/-- A nearest sibling has the same parent and the same family. -/
theorem Coherent.family_of_nearest? (h : s.Coherent) {side : Side}
    (hb : s.nearest? side a = some b) :
    ∃ p, (s.Under a p ∧ s.Owns p a) ∧ (s.Under b p ∧ s.Owns p b) ∧ s.family p b = s.family p a := by
  have hscan : b ∈ s.scan side none a := List.mem_of_head? hb
  by_cases hdetached : s.Detached a
  · rw [hdetached.scan_eq_nil] at hscan
    exact absurd hscan List.not_mem_nil
  · simp only [Detached, not_forall, not_not] at hdetached
    obtain ⟨p, hp, ho⟩ := hdetached
    have hmem : b ∈ s.family p a := by
      rw [← reverse_scan_append_scan hp ho]
      cases side <;> simp [hscan]
    obtain ⟨hlisted, hkind⟩ := List.mem_filter.mp hmem
    refine ⟨p, ⟨hp, ho⟩, ⟨h p b hlisted, hlisted⟩, ?_⟩
    rw [family, family, of_decide_eq_true hkind]

/-- Steps forwards and backwards undo each other. -/
theorem Coherent.nearest?_after_iff_before (h : s.Coherent) (hr : s.NoRepeats) :
    s.nearest? .after a = some b ↔ s.nearest? .before b = some a := by
  constructor
  · intro hb
    obtain ⟨p, ⟨hpa, hoa⟩, ⟨hpb, hob⟩, hfamily⟩ := h.family_of_nearest? hb
    rw [nearest?_before_iff hr hpb hob, hfamily]
    exact (nearest?_after_iff hr hpa hoa).mp hb
  · intro ha
    obtain ⟨p, ⟨hpb, hob⟩, ⟨hpa, hoa⟩, hfamily⟩ := h.family_of_nearest? ha
    rw [nearest?_after_iff hr hpa hoa, hfamily]
    exact (nearest?_before_iff hr hpb hob).mp ha

theorem firstChild?_eq_head? (s : Store) (k : Kind) (p : NodeId) :
    s.firstChild? k p = (s.children k p).head? := by
  rw [firstChild?, children, List.head?_filter]

theorem lastChild?_eq_getLast? (s : Store) (k : Kind) (p : NodeId) :
    s.lastChild? k p = (s.children k p).getLast? := by
  rw [lastChild?, children, List.getLast?_filter, List.findRev?_eq_find?_reverse]

/-- The children of a kind are the family of each of them. -/
theorem family_of_mem_children (hk : k ≠ .any) (ha : a ∈ s.children k p) :
    s.family p a = s.children k p := by
  have hka : s.kind a = k := (accepts_iff_of_ne_any hk _).mp (List.mem_filter.mp ha).2
  rw [family, children, hka]
  refine List.filter_congr fun m _ => Bool.eq_iff_iff.mpr ?_
  rw [decide_eq_true_eq, accepts_iff_of_ne_any hk]

/-- Steps forwards lead through the children of a kind in their order. -/
theorem Coherent.isChain_children (h : s.Coherent) (hr : s.NoRepeats) (hk : k ≠ .any) (p : NodeId) :
    List.IsChain (fun a b => s.nearest? .after a = some b) (s.children k p) := by
  rw [List.isChain_iff_forall_rel_of_append_cons_cons]
  intro a b u v huv
  have ha : a ∈ s.children k p := by simp [huv]
  have ho := owns_of_mem_children ha
  rw [nearest?_after_iff hr (h p a ho) ho, family_of_mem_children hk ha]
  exact ⟨u, v, huv⟩

/-- There is no step forwards from the last child of a kind. -/
theorem Coherent.nearest?_of_lastChild? (h : s.Coherent) (hr : s.NoRepeats) (hk : k ≠ .any)
    (hc : s.lastChild? k p = some c) : s.nearest? .after c = none := by
  rw [lastChild?_eq_getLast?, List.getLast?_eq_some_iff] at hc
  obtain ⟨u, hu⟩ := hc
  have hmem : c ∈ s.children k p := by simp [hu]
  have ho := owns_of_mem_children hmem
  have hnodup := hr.nodup_family p c
  refine Option.eq_none_iff_forall_ne_some.mpr fun d hd => ?_
  obtain ⟨u', v, huv⟩ := (nearest?_after_iff hr (h p c ho) ho).mp hd
  rw [family_of_mem_children hk hmem, hu] at huv hnodup
  cases (split_unique hnodup huv).2

/-- So many steps forwards from the first child of a kind lead to the child at that place, and to nobody
after the last. -/
theorem Coherent.iterate_nearest? (h : s.Coherent) (hr : s.NoRepeats) (hk : k ≠ .any) (p : NodeId)
    (i : Nat) : (fun found => found.bind (s.nearest? .after))^[i] (s.firstChild? k p) =
      (s.children k p)[i]? := by
  rw [firstChild?_eq_head?]
  refine iterate_bind_head? (h.isChain_children hr hk p) (fun c hc => ?_) i
  exact h.nearest?_of_lastChild? hr hk (s.lastChild?_eq_getLast? k p ▸ hc)

/-- The other nodes of the family are the siblings of the node's kind. -/
theorem siblingsOfKind_kind (hr : s.NoRepeats) (hp : s.Under n p) (ho : s.Owns p n)
    (hk : s.kind n ≠ .any) :
    s.siblingsOfKind (s.kind n) n = (s.scan .before none n).reverse ++ s.scan .after none n := by
  have hmem : n ∈ s.children (s.kind n) p :=
    List.mem_filter.mpr ⟨ho, (accepts_iff_of_ne_any hk _).mpr rfl⟩
  have hfamily := reverse_scan_append_scan hp ho
  have hnodup := hr.nodup_family p n
  rw [siblingsOfKind_of_parent? hp, ← family_of_mem_children hk hmem, ← hfamily]
  rw [← hfamily, List.nodup_append, List.nodup_cons] at hnodup
  obtain ⟨-, ⟨hafter, -⟩, hdisjoint⟩ := hnodup
  have hbefore : ∀ m ∈ (s.scan .before none n).reverse, (m != n) = true := fun m hm =>
    bne_iff_ne.mpr (hdisjoint m hm n List.mem_cons_self)
  have hbehind : ∀ m ∈ s.scan .after none n, (m != n) = true := fun m hm =>
    bne_iff_ne.mpr fun he => hafter (he ▸ hm)
  rw [List.filter_append, List.filter_eq_self.mpr hbefore, List.filter_cons_of_neg (by simp),
    List.filter_eq_self.mpr hbehind]

end MarkTree.Store
