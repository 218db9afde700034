import MarkTree.Proofs.Store.Trees

/-!
# Lineages

Two independent data say who stands above whom: links lead up, and lists lead down. In a coherent store
whatever the lists lead down from is met on the way up, and the nodes that are passed over are the same,
in the opposite order (`Coherent.leadsDown_iff`). So there is one way down only.

The other direction fails for nodes that were taken out of a list. Where every node on the way up is listed
by its parent, the way up leads back down (`Coherent.mem_search_of_mem_ancestors`).

* `ancestorsWhile_eq_takeWhile`: a walk upwards with a test is the longest accepted start of the whole one.
-/

namespace MarkTree.Store

open Relation (TransGen ReflTransGen)

variable {s : Store} {n p : NodeId} {l : List NodeId} {k : Kind}

/-- The lists lead from `p` down to `n`, over the nodes of `l` in their order. -/
def LeadsDown (s : Store) (p : NodeId) (l : List NodeId) (n : NodeId) : Prop :=
  List.IsChain s.Owns (p :: (l ++ [n]))

theorem exists_leadsDown (h : TransGen s.Owns p n) : ∃ l, s.LeadsDown p l n := by
  induction h using TransGen.head_induction_on with
  | single ho => exact ⟨[], .cons_cons ho (.singleton n)⟩
  | @head q c ho _ ih =>
    obtain ⟨l, hl⟩ := ih
    exact ⟨c :: l, .cons_cons ho hl⟩

/-! ## The whole way up -/

theorem climb_eq_takeWhile (s : Store) (k : Kind) (steps : Nat) (n : NodeId) :
    s.climb k steps n = (s.climb .any steps n).takeWhile fun m => k.accepts (s.kind m) := by
  induction steps generalizing n with
  | zero => rfl
  | succ steps ih =>
    rw [climb, climb]
    cases s.parent? n with
    | none => rfl
    | some p =>
      have hany : Kind.any.accepts (s.kind p) = true := rfl
      simp only [hany, if_true, List.takeWhile_cons, ih]

theorem ancestorsWhile_eq_takeWhile (s : Store) (k : Kind) (n : NodeId) :
    s.ancestorsWhile k n = (s.ancestors n).takeWhile fun m => k.accepts (s.kind m) :=
  s.climb_eq_takeWhile k s.size n

theorem LoopFree.ancestors_of_under (h : s.LoopFree) (hp : s.Under n p) :
    s.ancestors n = p :: s.ancestors p :=
  ((h.climbs_iff _).mp (.up hp rfl (h.climbs_ancestorsWhile .any p))).symm

/-- The ancestors of a node are those up to any one of them, and the ancestors of that one. -/
theorem LoopFree.ancestors_of_isChain (h : s.LoopFree)
    (hup : List.IsChain s.Under (n :: (l ++ [p]))) : s.ancestors n = l ++ p :: s.ancestors p := by
  induction l generalizing n with
  | nil => exact h.ancestors_of_under (List.isChain_cons_cons.mp hup).1
  | cons q rest ih =>
    obtain ⟨hq, hrest⟩ := List.isChain_cons_cons.mp hup
    rw [h.ancestors_of_under hq, ih hrest, List.cons_append]

theorem Climbs.parent?_getLastD (h : Climbs s .any n l) : s.parent? (l.getLastD n) = none := by
  induction h with
  | top hn => exact hn
  | stop _ hk => cases hk
  | up _ _ _ ih => rwa [List.getLastD_cons]

/-! ## Up and down -/

theorem Coherent.isChain_of_leadsDown (h : s.Coherent) (hd : s.LeadsDown p l n) :
    List.IsChain s.Under (n :: (l.reverse ++ [p])) := by
  have hback : n :: (l.reverse ++ [p]) = (p :: (l ++ [n])).reverse := by simp
  rw [hback, List.isChain_reverse]
  exact hd.imp fun q m ho => h q m ho

/-- A way down is passed over backwards on the way up. -/
theorem Coherent.ancestors_of_leadsDown (h : s.Coherent) (hl : s.LoopFree)
    (hd : s.LeadsDown p l n) : s.ancestors n = l.reverse ++ p :: s.ancestors p :=
  hl.ancestors_of_isChain (h.isChain_of_leadsDown hd)

theorem Coherent.takeWhile_ancestors (h : s.Coherent) (hl : s.LoopFree) (hd : s.LeadsDown p l n) :
    (s.ancestors n).takeWhile (· != p) = l.reverse := by
  have hup := h.ancestors_of_leadsDown hl hd
  have hnodup : (s.ancestors n).Nodup := (List.nodup_cons.mp (hl.nodup_cons_climb .any s.size n)).2
  rw [hup, List.nodup_append] at hnodup
  have hbefore : ∀ m ∈ l.reverse, (m != p) = true := fun m hm =>
    bne_iff_ne.mpr (hnodup.2.2 m hm p List.mem_cons_self)
  rw [hup, List.takeWhile_append_of_pos hbefore, List.takeWhile_cons_of_neg (by simp),
    List.append_nil]

/-- The one way down from `p` to `n` is the way up from `n` to `p`, walked backwards. -/
theorem Coherent.leadsDown_iff (h : s.Coherent) (hl : s.LoopFree) (hpath : TransGen s.Owns p n) :
    s.LeadsDown p l n ↔ (s.ancestors n).takeWhile (· != p) = l.reverse := by
  refine ⟨h.takeWhile_ancestors hl, fun hup => ?_⟩
  obtain ⟨l', hd⟩ := exists_leadsDown hpath
  rw [h.takeWhile_ancestors hl hd] at hup
  rwa [← List.reverse_injective hup]

theorem transGen_of_mem_search (hne : p ≠ n) (h : n ∈ s.search k p) : TransGen s.Owns p n := by
  rcases Relation.reflTransGen_iff_eq_or_transGen.mp (owns_of_mem_search h) with he | hpath
  · exact absurd he.symm hne
  · exact hpath

theorem Coherent.mem_ancestors_of_owns (h : s.Coherent) (hl : s.LoopFree)
    (hpath : TransGen s.Owns p n) : p ∈ s.ancestors n :=
  (h.mem_ancestors_iff hl).mpr (.inl hpath)

/-- Where everybody on the way up is listed by the parent, the way up leads back down. -/
theorem Coherent.mem_search_of_mem_ancestors (h : s.Coherent) (hr : s.NoRepeats) (hs : s.Sound)
    (hlisted : ∀ m ∈ n :: s.ancestors n, ∀ q, s.parent? m = some q → m ∈ s.childList q)
    (hp : p ∈ s.ancestors n) : n ∈ s.search .any p := by
  have hdown : TransGen s.Owns p n := by
    rcases owns_or_detached_of_path (hs.loopFree.mem_ancestors_iff.mp hp) with
      hdown | ⟨m, q, hm, hq, hnot, -⟩
    · exact hdown
    · refine absurd (hlisted m ?_ q hq) hnot
      rcases Relation.reflTransGen_iff_eq_or_transGen.mp hm with rfl | hm
      · exact List.mem_cons_self
      · exact List.mem_cons_of_mem _ (hs.loopFree.mem_ancestors_iff.mpr hm)
  have htree : s.IsTree p := h.isTree hr (alive_of_mem_climb hp)
  exact (htree.mem_search_iff hs).mpr ⟨hdown.to_reflTransGen, rfl⟩

end MarkTree.Store
