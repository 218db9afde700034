import MarkTree.Proofs.Store.Siblings
import Mathlib.Data.List.TakeWhile

/-!
# Walks sideways

A walk looks at the siblings on one side of a node, nearest first. For a node that its parent lists these
are what stands behind the node's first listing, or what stands before it, backwards (`exists_sideOf`).

A walk without a bound gives those of the node's kind (`scan_none`). A walk with a bound stops where the
first sibling of the bound's kind stands, and looks at its kind before anything else. So it is an unbounded
walk over the siblings before that place (`scan_some`), a first part of the unbounded walk
(`scan_some_prefix`), without a node of the bound's kind (`kind_ne_of_mem_scan_some`), and empty if the bound
is the node's own kind (`scan_own`). It is the whole of the unbounded walk only if nothing that would be
collected stands at or behind that place (`scan_some_eq_scan_none_iff`).
-/

namespace MarkTree

/-- The nodes on one side of a place in a list, nearest first, where `front` stands before the place and
`back` behind it. -/
def Side.outward (front back : List NodeId) : Side → List NodeId
  | .before => front.reverse
  | .after => back

namespace Store

variable {s : Store} {n p q m : NodeId} {side : Side} {stop : Kind} {l near far : List NodeId}

/-! ## What a walk collects -/

theorem collect_none (s : Store) (own : Kind) (l : List NodeId) :
    s.collect own none l = l.filter fun m => s.kind m = own := by
  induction l with
  | nil => rfl
  | cons m rest ih =>
    rw [collect, if_neg (by simp), ih, List.filter_cons]
    simp only [decide_eq_true_eq]

/-- The bound ends the list before anything is collected. -/
theorem collect_some (s : Store) (own stop : Kind) (l : List NodeId) :
    s.collect own (some stop) l = s.collect own none (l.takeWhile fun m => s.kind m ≠ stop) := by
  induction l with
  | nil => rfl
  | cons m rest ih =>
    rw [collect]
    by_cases hm : s.kind m = stop
    · rw [if_pos (congrArg some hm), List.takeWhile_cons_of_neg (by simpa using hm)]
      rfl
    · have hnever : ¬ some (s.kind m) = none := by simp
      rw [if_neg (by simpa using hm), List.takeWhile_cons_of_pos (by simpa using hm), collect,
        if_neg hnever, ih]

theorem scan_none (s : Store) (side : Side) (n : NodeId) :
    s.scan side none n = (s.sideOf side n).filter fun m => s.kind m = s.kind n :=
  s.collect_none _ _

theorem scan_some (s : Store) (side : Side) (stop : Kind) (n : NodeId) :
    s.scan side (some stop) n =
      ((s.sideOf side n).takeWhile fun m => s.kind m ≠ stop).filter fun m => s.kind m = s.kind n := by
  rw [scan, collect_some, collect_none]

/-! ## Where the bound stands -/

/-- The walk ends at the first sibling of the bound's kind. -/
theorem scan_some_of_split (hside : s.sideOf side n = near ++ q :: far)
    (hnear : ∀ m ∈ near, s.kind m ≠ stop) (hq : s.kind q = stop) :
    s.scan side (some stop) n = near.filter fun m => s.kind m = s.kind n := by
  rw [scan_some, hside, List.takeWhile_append_of_pos (by simpa using hnear),
    List.takeWhile_cons_of_neg (by simpa using hq), List.append_nil]

/-- The walk goes through all siblings if the bound's kind is not among them. -/
theorem scan_some_of_absent (h : ∀ m ∈ s.sideOf side n, s.kind m ≠ stop) :
    s.scan side (some stop) n = s.scan side none n := by
  rw [scan_some, scan_none, List.takeWhile_eq_self_iff.mpr (by simpa using h)]

theorem scan_some_prefix (s : Store) (side : Side) (stop : Kind) (n : NodeId) :
    s.scan side (some stop) n <+: s.scan side none n := by
  rw [scan_some, scan_none]
  exact (List.takeWhile_prefix _).filter _

/-- What the bound takes from a walk stands at or behind the first sibling of its kind. -/
theorem scan_none_eq_append (s : Store) (side : Side) (stop : Kind) (n : NodeId) :
    s.scan side none n = s.scan side (some stop) n ++
      ((s.sideOf side n).dropWhile fun m => s.kind m ≠ stop).filter fun m => s.kind m = s.kind n := by
  rw [scan_none, scan_some, ← List.filter_append, List.takeWhile_append_dropWhile]

/-- A bound does nothing if no node of the walked kind stands at or behind the first sibling of its kind. -/
theorem scan_some_eq_scan_none_iff :
    s.scan side (some stop) n = s.scan side none n ↔
      ∀ m ∈ (s.sideOf side n).dropWhile fun m => s.kind m ≠ stop, s.kind m ≠ s.kind n := by
  rw [scan_none_eq_append s side stop n, List.self_eq_append_right, List.filter_eq_nil_iff]
  simp only [decide_eq_true_eq]

theorem kind_ne_of_mem_scan_some (h : m ∈ s.scan side (some stop) n) : s.kind m ≠ stop := by
  rw [scan_some] at h
  have hm := List.mem_takeWhile_imp (List.mem_filter.mp h).1
  exact of_decide_eq_true hm

/-- Whoever stands before the first sibling of the node's kind is of another kind. -/
theorem scan_own (s : Store) (side : Side) (n : NodeId) : s.scan side (some (s.kind n)) n = [] := by
  refine List.eq_nil_iff_forall_not_mem.mpr fun m hm => ?_
  apply kind_ne_of_mem_scan_some hm
  rw [scan_some] at hm
  exact of_decide_eq_true (List.mem_filter.mp hm).2

/-! ## The two sides of a node -/

/-- The siblings of a node are what stands on the two sides of its first listing. -/
theorem exists_sideOf (hp : s.Under n p) (ho : s.Owns p n) :
    ∃ front back, s.childList p = front ++ n :: back ∧ n ∉ front ∧
      ∀ side, s.sideOf side n = side.outward front back := by
  obtain ⟨i, hi⟩ := Option.isSome_iff_exists.mp (List.isSome_idxOf?.mpr ho)
  have hplace : s.place? n = some (p, i) := place?_eq_some_iff.mpr ⟨hp, hi⟩
  obtain ⟨front, back, hlist, hfront, rfl⟩ := split_of_place? hplace
  refine ⟨front, back, hlist, hfront, fun side => ?_⟩
  rw [sideOf, hplace]
  cases side with
  | before => simp only [hlist, List.take_left, Side.outward]
  | after =>
    simp only [hlist, List.drop_length_add_append, List.drop_succ_cons, List.drop_zero, Side.outward]

end Store

end MarkTree
