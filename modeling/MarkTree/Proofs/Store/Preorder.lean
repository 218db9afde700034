import MarkTree.Proofs.Store.Trees
import Mathlib.Data.List.Basic

/-!
# The order of the document

A search passes over a node before the nodes below it, and over the children of a node in their order. No
count of steps belongs to it (`Visits`). Where no way down comes back to a node that it passed over, the
search ends by itself, with what the search that counts its steps gives (`Ends.visits_iff`).

What a search finds below a node stands next to each other, as one block, in every search from further up
(`Ends.search_block`), and the block of a node is made up of the node and the blocks of its children
(`Ends.search_any_eq`). Which kind is asked for only decides what is kept (`Ends.search_eq_filter`).

* `IsTree.parent_first`: in a tree every node but the top comes after its parent.
* `Ends.acyclic`: where all ways down end, nothing stands below itself.
-/

namespace MarkTree.Store

open Relation (TransGen ReflTransGen)

variable {s : Store} {root n m : NodeId} {k : Kind} {l : List NodeId}

mutual

/-- The search from `n` without a count of its steps: it has found the nodes of `l` when it ends. -/
inductive Visits (s : Store) (k : Kind) : NodeId → List NodeId → Prop
  | node {n : NodeId} {l : List NodeId} (below : VisitsAll s k (s.childList n) l) :
      Visits s k n ((if k.accepts (s.kind n) then [n] else []) ++ l)

/-- The searches from the nodes of a list, one after the other. -/
inductive VisitsAll (s : Store) (k : Kind) : List NodeId → List NodeId → Prop
  | nil : VisitsAll s k [] []
  | cons {c : NodeId} {rest l l' : List NodeId} (top : Visits s k c l)
      (others : VisitsAll s k rest l') : VisitsAll s k (c :: rest) (l ++ l')

end

/-! ## Searches end -/

theorem visitsAll_flatMap {f : NodeId → List NodeId} {ns : List NodeId}
    (h : ∀ c ∈ ns, s.Visits k c (f c)) : s.VisitsAll k ns (ns.flatMap f) := by
  induction ns with
  | nil => exact .nil
  | cons c rest ih =>
    exact .cons (h c List.mem_cons_self) (ih fun c' hc' => h c' (List.mem_cons_of_mem _ hc'))

/-- If the search from each node of a list can end in one way only, so can the searches one after the
other. -/
theorem VisitsAll.eq_flatMap {f : NodeId → List NodeId} {ns : List NodeId} (h : s.VisitsAll k ns l)
    (hf : ∀ c ∈ ns, ∀ l, s.Visits k c l → l = f c) : l = ns.flatMap f := by
  induction ns generalizing l with
  | nil =>
    cases h
    rfl
  | cons c rest ih =>
    cases h with
    | cons top others =>
      rw [hf c List.mem_cons_self _ top,
        ih others fun c' hc' => hf c' (List.mem_cons_of_mem _ hc'), List.flatMap_cons]

theorem Ends.visits_search (h : s.Ends n) (k : Kind) : s.Visits k n (s.search k n) := by
  refine Ends.induction (P := fun n => s.Visits k n (s.search k n)) (fun n h ih => ?_) h
  rw [h.search_eq]
  exact .node (visitsAll_flatMap ih)

theorem Ends.eq_search_of_visits (h : s.Ends n) (hl : s.Visits k n l) : l = s.search k n := by
  refine Ends.induction (P := fun n => ∀ l, s.Visits k n l → l = s.search k n)
    (fun n h ih l hl => ?_) h l hl
  cases hl with
  | node below => rw [below.eq_flatMap ih, h.search_eq]

/-- The search ends, and with the same list as the one that counts its steps. -/
theorem Ends.visits_iff (h : s.Ends n) : s.Visits k n l ↔ l = s.search k n := by
  constructor
  · exact h.eq_search_of_visits
  · rintro rfl
    exact h.visits_search k

theorem Ends.acyclic (h : s.Ends n) : ¬ TransGen s.Owns n n := by
  refine Ends.induction (P := fun n => ¬ TransGen s.Owns n n) (fun n _ ih hloop => ?_) h
  -- a loop through `n` is a loop through the child that it passes over first
  obtain ⟨c, hc, hback⟩ := TransGen.head'_iff.mp hloop
  exact ih c hc (TransGen.tail' hback hc)

/-! ## Blocks -/

/-- What is found below a node stands next to each other in a search from further up. -/
theorem Ends.search_block (h : s.Ends n) (hm : ReflTransGen s.Owns n m) (k : Kind) :
    s.search k m <:+: s.search k n := by
  induction hm with
  | refl => exact List.infix_rfl
  | @tail p c hp hc ih =>
    refine List.IsInfix.trans ?_ ih
    rw [(h.below hp).search_eq]
    exact (List.infix_flatMap_of_mem hc (s.search k)).trans (List.suffix_append _ _).isInfix

theorem IsTree.parent_first (ht : s.IsTree root) (hs : s.Sound) (hn : n ∈ s.search .any root)
    (hne : n ≠ root) : ∃ p, s.Under n p ∧ [p, n].Sublist (s.search .any root) := by
  obtain ⟨hpath, -⟩ := (ht.mem_search_iff hs).mp hn
  rcases Relation.ReflTransGen.cases_tail hpath with he | ⟨p, hp, ho⟩
  · exact absurd he hne
  · -- the block of `p` starts with `p`, and the block of its child `n` holds `n`
    have hends := (ht.below hs hp).ends hs
    have hbelow : n ∈ (s.childList p).flatMap (s.search .any) :=
      List.mem_flatMap.mpr ⟨n, ho, (hends.child ho).mem_search_iff.mpr ⟨.refl, rfl⟩⟩
    have hblock : [p, n].Sublist (s.search .any p) := by
      rw [hends.search_any_eq]
      exact (List.singleton_sublist.mpr hbelow).cons_cons p
    exact ⟨p, ht.linked hp ho, hblock.trans ((ht.ends hs).search_block hp .any).sublist⟩

/-! ## What is kept -/

theorem Ends.search_eq_filter (h : s.Ends n) (k : Kind) :
    s.search k n = s.filter k (s.search .any n) := by
  refine Ends.induction (P := fun n => s.search k n = s.filter k (s.search .any n))
    (fun n h ih => ?_) h
  rw [h.search_eq, h.search_any_eq, filter, List.filter_cons, List.filter_flatMap,
    List.flatMap_congr ih]
  split <;> rfl

end MarkTree.Store
