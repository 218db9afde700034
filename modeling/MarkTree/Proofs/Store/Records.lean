import MarkTree.Proofs.Document.Sketch

/-!
# Records of insertions

A record lists, in order, which node was put under which target. A store follows a record if the link of
every node leads to the target that the node was put under last, and a node that was not put anywhere has
the link that it had (`Follows`).

Reading a document puts every node of the new tree, but for its top, under the one node that lists it. So
the listings among the new nodes are a record of it, in any order (`Added.follows`).
-/

namespace MarkTree

open Relation (ReflTransGen)

/-- The target that a record puts a node under last. -/
def lastTarget? (record : List (NodeId × NodeId)) (n : NodeId) : Option NodeId :=
  (record.findRev? (·.2 == n)).map Prod.fst

section lastTarget

variable {record : List (NodeId × NodeId)} {n t : NodeId}

theorem lastTarget?_append (earlier later : List (NodeId × NodeId)) (n : NodeId) :
    lastTarget? (earlier ++ later) n = (lastTarget? later n).or (lastTarget? earlier n) := by
  simp only [lastTarget?, List.findRev?_eq_find?_reverse, List.reverse_append, List.find?_append,
    Option.map_or]

theorem mem_of_lastTarget? (h : lastTarget? record n = some t) : (t, n) ∈ record := by
  obtain ⟨q, hq, rfl⟩ := Option.map_eq_some_iff.mp h
  rw [List.findRev?_eq_find?_reverse] at hq
  obtain rfl : q.2 = n := by simpa using List.find?_some hq
  exact List.mem_reverse.mp (List.mem_of_find?_eq_some hq)

theorem lastTarget?_eq_none_iff : lastTarget? record n = none ↔ ∀ q ∈ record, q.2 ≠ n := by
  simp [lastTarget?, List.findRev?_eq_find?_reverse]

theorem lastTarget?_singleton (t n m : NodeId) :
    lastTarget? [(t, n)] m = if n = m then some t else none := by
  by_cases h : n = m <;> simp [lastTarget?, List.findRev?_eq_find?_reverse, h]

end lastTarget

namespace Store

variable {s s' s'' : Store} {n p : NodeId} {b : Nat} {record : List (NodeId × NodeId)}

/-- The links of `s'` are those of `s` but for what the record puts anew. -/
def Follows (s : Store) (record : List (NodeId × NodeId)) (s' : Store) : Prop :=
  ∀ n, s'.under? n = (lastTarget? record n).or (s.under? n)

/-- What the nodes numbered from `b` on list, each with the node that lists it. -/
def listings (s : Store) (b : Nat) : List (NodeId × NodeId) :=
  (List.range' b (s.size - b)).flatMap fun p => (s.childList p).map (Prod.mk p)

theorem mem_listings_iff : (p, n) ∈ s.listings b ↔ b ≤ p ∧ s.Owns p n := by
  simp only [listings, List.mem_flatMap, List.mem_range'_1, List.mem_map, Prod.mk.injEq]
  constructor
  · rintro ⟨q, ⟨hle, -⟩, m, hm, rfl, rfl⟩
    exact ⟨hle, hm⟩
  · rintro ⟨hle, ho⟩
    have hlt : p < b + (s.size - b) := by
      rw [Nat.add_sub_cancel' (Nat.le_trans hle (Nat.le_of_lt (lt_size_of_owns ho)))]
      exact lt_size_of_owns ho
    exact ⟨p, ⟨hle, hlt⟩, n, ho, rfl, rfl⟩

/-- Nodes from `b` on that list nothing have nothing to record. -/
theorem listings_eq_nil (h : ∀ p n, s.Owns p n → p < b) : s.listings b = [] := by
  refine List.eq_nil_iff_forall_not_mem.mpr fun ⟨p, n⟩ hmem => ?_
  obtain ⟨hle, ho⟩ := mem_listings_iff.mp hmem
  exact Nat.not_lt_of_le hle (h p n ho)

/-! ## Changes that put nothing -/

theorem follows_nil (h : ∀ n, s'.under? n = s.under? n) : s.Follows [] s' := h

theorem follows_same (s : Store) : s.Follows (s.listings s.size) s := by
  rw [listings_eq_nil fun _ _ => lt_size_of_owns]
  exact follows_nil fun _ => rfl

theorem follows_add (s : Store) (q : Payload) :
    s.Follows ((s.add q).2.listings s.size) (s.add q).2 := by
  have hnone : (s.add q).2.listings s.size = [] := by
    refine listings_eq_nil fun p n ho => ?_
    rw [Owns, childList_add] at ho
    exact lt_size_of_owns ho
  rw [hnone]
  exact follows_nil fun n => under?_add s q n

theorem follows_putAt {t : NodeId} {i : Nat} (hn : s.alive n) :
    s.Follows [(t, n)] (s.putAt t i n) := by
  intro m
  rw [lastTarget?_singleton, putAt]
  by_cases hm : n = m
  · subst hm
    rw [if_pos rfl, under?_link_self hn, Option.some_or]
  · rw [if_neg hm, under?_link_of_ne (Ne.symm hm), Option.none_or]

end Store

/-! ## Reading a document -/

namespace Document

open Store (Follows)

variable {s s' : Store} {t : Rose Payload} {n p : NodeId}

/-- The nodes of the new tree are the new nodes. -/
theorem Added.below_iff (h : Added t s s') :
    ReflTransGen s'.Owns s.size n ↔ s.size ≤ n ∧ n < s'.size := by
  have hends : s'.Ends s.size := h.ends
  have hall : ReflTransGen s'.Owns s.size n ↔ n ∈ s'.search .any s.size := by
    rw [hends.mem_search_iff]
    exact (and_iff_left rfl).symm
  rw [hall, Store.Holds.search t h.holds hends, List.mem_range'_1, h.size]

/-- A new node that lists another one is that one's parent. -/
theorem Added.under?_of_mem (h : Added t s s') (hmem : (p, n) ∈ s'.listings s.size) :
    s'.under? n = some p := by
  obtain ⟨hle, ho⟩ := Store.mem_listings_iff.mp hmem
  have hbelow := h.below_iff.mpr ⟨hle, Store.lt_size_of_owns ho⟩
  exact (Store.parent?_eq_some_iff.mp (h.holds.isTree.linked hbelow ho)).1

/-- A new node with a parent is listed by a new node. -/
theorem Added.exists_mem_listings (h : Added t s s') (hn : s.size ≤ n)
    (hu : s'.under? n = some p) : ∃ q, (q, n) ∈ s'.listings s.size := by
  have hlt := Store.lt_size_of_alive (Store.alive_of_under? hu)
  rcases Relation.ReflTransGen.cases_tail (h.below_iff.mpr ⟨hn, hlt⟩) with rfl | ⟨q, hq, ho⟩
  · -- the top of the tree was put nowhere
    rw [h.holds.under?] at hu
    cases hu
  · exact ⟨q, Store.mem_listings_iff.mpr ⟨(h.below_iff.mp hq).1, ho⟩⟩

/-- The listings among the new nodes are a record of the reading. -/
theorem Added.follows (h : Added t s s') : s.Follows (s'.listings s.size) s' := by
  intro n
  cases hlast : lastTarget? (s'.listings s.size) n with
  | some p => rw [h.under?_of_mem (mem_of_lastTarget? hlast), Option.some_or]
  | none =>
    rw [Option.none_or]
    by_cases hn : n < s.size
    · rw [Store.under?, Store.under?, h.kept n hn]
    · have hold : s.under? n = none :=
        Store.under?_eq_none_of_not_alive fun ha => hn (Store.lt_size_of_alive ha)
      rw [hold, Option.eq_none_iff_forall_ne_some]
      intro p hu
      obtain ⟨q, hq⟩ := h.exists_mem_listings (Nat.le_of_not_lt hn) hu
      exact lastTarget?_eq_none_iff.mp hlast _ hq rfl

end Document

end MarkTree
