import MarkTree.Proofs.Lists
import MarkTree.Proofs.Store.Cells
import MarkTree.Store.Lookup
import Mathlib.Data.List.Chain
import Mathlib.Logic.Relation

/-!
# Paths through a store

Two relations lead through a store: `Under` goes from a node up to its parent, `Owns` from a node down
to the nodes that it lists. They are independent data, and may disagree.

* `climbs_ancestorsWhile`: where no path of parents comes back to its start, the walk upwards, which
  counts its steps, is the walk without a count.
* `mem_ancestors_iff`: there, the ancestors of a node are exactly what paths of parents lead to.
* `Climbs.ancestorsWhile_eq`: a walk without a count that ends is the walk with one, whatever the other
  paths do.
* `owns_of_mem_search`, `owns_of_mem_find`: what a search finds, paths of lists lead to.
-/

namespace MarkTree

open Relation (TransGen ReflTransGen)

/-- A path through one more edge, from `x` to `y`, is an old path or passes over that edge; it then
comes to `x` and goes on from `y` by old edges. -/
theorem transGen_through {α : Type} {r r' : α → α → Prop} {x y a b : α}
    (hr : ∀ a b, r' a b → r a b ∨ a = x ∧ b = y) (h : TransGen r' a b) :
    TransGen r a b ∨ ReflTransGen r a x ∧ ReflTransGen r y b := by
  induction h with
  | single hab =>
    rcases hr _ _ hab with h | ⟨rfl, rfl⟩
    · exact .inl (.single h)
    · exact .inr ⟨.refl, .refl⟩
  | tail _ hbc ih =>
    rcases hr _ _ hbc with h | ⟨rfl, rfl⟩
    · rcases ih with ih | ⟨hx, hy⟩
      · exact .inl (ih.tail h)
      · exact .inr ⟨hx, hy.tail h⟩
    · rcases ih with ih | ⟨hx, _⟩
      · exact .inr ⟨ih.to_reflTransGen, .refl⟩
      · exact .inr ⟨hx, .refl⟩

namespace Store

variable {s : Store} {n m p c : NodeId} {k : Kind}

/-- The parent of `n` is `p`. -/
def Under (s : Store) (n p : NodeId) : Prop := s.parent? n = some p

/-- `p` lists `n`. -/
def Owns (s : Store) (p n : NodeId) : Prop := n ∈ s.childList p

instance (s : Store) (n p : NodeId) : Decidable (s.Under n p) :=
  inferInstanceAs (Decidable (s.parent? n = some p))

instance (s : Store) (p n : NodeId) : Decidable (s.Owns p n) :=
  inferInstanceAs (Decidable (n ∈ s.childList p))

/-- No way up comes back to where it started. -/
def LoopFree (s : Store) : Prop := ∀ n, ¬ TransGen s.Under n n

/-- The nodes that list `n`. -/
def owners (s : Store) (n : NodeId) : List NodeId :=
  (List.range s.size).filter fun p => n ∈ s.childList p

theorem lt_size_of_owns (h : s.Owns p n) : p < s.size := lt_size_of_alive (alive_of_mem_childList h)

theorem mem_owners_iff : p ∈ s.owners n ↔ s.Owns p n := by
  simp only [owners, List.mem_filter, List.mem_range, decide_eq_true_eq, Owns]
  exact ⟨fun h => h.2, fun h => ⟨lt_size_of_owns h, h⟩⟩

theorem owners_eq_nil_iff : s.owners n = [] ↔ ∀ p, ¬ s.Owns p n := by
  simp only [List.eq_nil_iff_forall_not_mem, mem_owners_iff]

/-! ## The way up -/

/-- The walk upwards from `n` without a count of its steps: it goes on while `k` accepts the next
parent, and has passed over the nodes of `l` when it ends. -/
inductive Climbs (s : Store) (k : Kind) : NodeId → List NodeId → Prop
  | top {n : NodeId} (h : s.parent? n = none) : Climbs s k n []
  | stop {n p : NodeId} (h : s.Under n p) (hk : k.accepts (s.kind p) = false) : Climbs s k n []
  | up {n p : NodeId} {l : List NodeId} (h : s.Under n p) (hk : k.accepts (s.kind p) = true)
      (rest : Climbs s k p l) : Climbs s k n (p :: l)

theorem climb_of_parent?_eq_none (h : s.parent? n = none) (steps : Nat) : s.climb k steps n = [] := by
  cases steps with
  | zero => rfl
  | succ steps => simp [climb, h]

theorem climb_congr {s' : Store} (hp : s'.parent? = s.parent?) (hk : s'.kind = s.kind)
    (steps : Nat) (n : NodeId) : s'.climb k steps n = s.climb k steps n := by
  induction steps generalizing n with
  | zero => rfl
  | succ steps ih =>
    rw [climb, climb, hp, hk]
    split
    · rfl
    · rw [ih]

/-- What a node lists does not matter on the way up. -/
theorem ancestorsWhile_relist (s : Store) (p : NodeId) (f : List NodeId → List NodeId) (k : Kind)
    (n : NodeId) : (s.relist p f).ancestorsWhile k n = s.ancestorsWhile k n := by
  have hkind : (s.relist p f).kind = s.kind := by
    funext m
    simp [kind]
  rw [ancestorsWhile, size_relist, climb_congr (funext (s.parent?_relist p f)) hkind]
  rfl

theorem climb_isChain (s : Store) (k : Kind) (steps : Nat) (n : NodeId) :
    List.IsChain s.Under (n :: s.climb k steps n) := by
  induction steps generalizing n with
  | zero => exact .singleton n
  | succ steps ih =>
    rw [climb]
    split
    · exact .singleton n
    · rename_i p hp
      split
      · exact .cons_cons hp (ih p)
      · exact .singleton n

/-- A walk that did not use up its steps ended by itself. -/
theorem climbs_of_length_lt {steps : Nat} (h : (s.climb k steps n).length < steps) :
    Climbs s k n (s.climb k steps n) := by
  induction steps generalizing n with
  | zero => simp at h
  | succ steps ih =>
    rw [climb] at h ⊢
    split
    · exact .top ‹_›
    · rename_i p hp
      split
      · rename_i hk
        simp only [hp, hk, if_true, List.length_cons] at h
        exact .up hp hk (ih (by omega))
      · rename_i hk
        exact .stop hp (Bool.eq_false_iff.mpr hk)

theorem pairwise_cons_climb (s : Store) (k : Kind) (steps : Nat) (n : NodeId) :
    List.Pairwise (TransGen s.Under) (n :: s.climb k steps n) :=
  ((s.climb_isChain k steps n).imp fun _ _ => TransGen.single).pairwise

theorem LoopFree.nodup_cons_climb (h : s.LoopFree) (k : Kind) (steps : Nat) (n : NodeId) :
    (n :: s.climb k steps n).Nodup :=
  (s.pairwise_cons_climb k steps n).imp fun {a b} (hab : TransGen s.Under a b) he => by
    subst he
    exact h a hab

theorem transGen_of_mem_climb {steps : Nat} (h : m ∈ s.climb k steps n) : TransGen s.Under n m :=
  List.rel_of_pairwise_cons (s.pairwise_cons_climb k steps n) h

theorem alive_of_mem_climb {steps : Nat} (h : m ∈ s.climb k steps n) : s.alive m := by
  obtain ⟨q, -, hq⟩ := TransGen.tail'_iff.mp (transGen_of_mem_climb h)
  exact parent?_alive hq

/-- Where no way up comes back, the count of steps does not cut the walk short. -/
theorem LoopFree.climbs_ancestorsWhile (h : s.LoopFree) (k : Kind) (n : NodeId) :
    Climbs s k n (s.ancestorsWhile k n) := by
  by_cases hn : s.alive n
  · -- `n` and the nodes passed over are different and there, so one step at least was not used
    refine climbs_of_length_lt (Nat.lt_of_succ_le ?_)
    refine length_le_of_nodup_lt (h.nodup_cons_climb k s.size n) fun m hm => ?_
    rcases List.mem_cons.mp hm with rfl | hm
    · exact lt_size_of_alive hn
    · exact lt_size_of_alive (alive_of_mem_climb hm)
  · have hnone : s.parent? n = none := by
      simp [parent?, get?_eq_none_of_not_alive hn]
    rw [ancestorsWhile, climb_of_parent?_eq_none hnone]
    exact .top hnone

theorem Climbs.mem_of_transGen {l : List NodeId} (hl : Climbs s .any n l)
    (h : TransGen s.Under n m) : m ∈ l := by
  induction hl with
  | top hn =>
    obtain ⟨q, hq, -⟩ := TransGen.head'_iff.mp h
    rw [Under, hn] at hq
    cases hq
  | stop _ hk => cases hk
  | @up n p l hp _ _ ih =>
    obtain ⟨q, hq, hrest⟩ := TransGen.head'_iff.mp h
    obtain rfl : p = q := Option.some.inj (hp.symm.trans hq)
    rcases Relation.reflTransGen_iff_eq_or_transGen.mp hrest with rfl | hrest
    · exact List.mem_cons_self
    · exact List.mem_cons_of_mem _ (ih hrest)

/-- The walk can end in one way only. -/
theorem Climbs.unique {l l' : List NodeId} (h : Climbs s k n l) (h' : Climbs s k n l') : l = l' := by
  induction h generalizing l' with
  | top hn =>
    cases h' with
    | top _ => rfl
    | stop hp _ => cases hn.symm.trans hp
    | up hp _ _ => cases hn.symm.trans hp
  | stop hp hk =>
    cases h' with
    | top hn => cases hn.symm.trans hp
    | stop _ _ => rfl
    | up hp' hk' _ =>
      obtain rfl := Option.some.inj (hp.symm.trans hp')
      cases hk.symm.trans hk'
  | up hp hk _ ih =>
    cases h' with
    | top hn => cases hn.symm.trans hp
    | stop hp' hk' =>
      obtain rfl := Option.some.inj (hp.symm.trans hp')
      cases hk.symm.trans hk'
    | up hp' _ rest =>
      obtain rfl := Option.some.inj (hp.symm.trans hp')
      rw [ih rest]

/-- From each node that a walk passes over the walk goes on, over fewer nodes. -/
theorem Climbs.exists_of_mem {l : List NodeId} (h : Climbs s k n l) (hm : m ∈ l) :
    ∃ l', Climbs s k m l' ∧ l'.length < l.length := by
  induction h with
  | top _ => exact absurd hm List.not_mem_nil
  | stop _ _ => exact absurd hm List.not_mem_nil
  | @up n p l _ _ rest ih =>
    rw [List.length_cons]
    rcases List.mem_cons.mp hm with rfl | hm
    · exact ⟨l, rest, Nat.lt_succ_self _⟩
    · obtain ⟨l', hl', hlt⟩ := ih hm
      exact ⟨l', hl', by omega⟩

/-- A walk that ends does not come back to its start, from where it would be as long as it was. -/
theorem Climbs.notMem {l : List NodeId} (h : Climbs s k n l) : n ∉ l := by
  intro hn
  obtain ⟨l', hl', hlt⟩ := h.exists_of_mem hn
  rw [h.unique hl'] at hlt
  exact Nat.lt_irrefl _ hlt

theorem Climbs.nodup {l : List NodeId} (h : Climbs s k n l) : l.Nodup := by
  induction h with
  | top _ => exact .nil
  | stop _ _ => exact .nil
  | up _ _ rest ih => exact List.nodup_cons.mpr ⟨rest.notMem, ih⟩

theorem Climbs.alive_of_mem {l : List NodeId} (h : Climbs s k n l) : ∀ m ∈ l, s.alive m := by
  induction h with
  | top _ => simp
  | stop _ _ => simp
  | up hp _ _ ih => exact List.forall_mem_cons.mpr ⟨parent?_alive hp, ih⟩

theorem Climbs.climb_eq {l : List NodeId} (h : Climbs s k n l) {steps : Nat} (hle : l.length ≤ steps) :
    s.climb k steps n = l := by
  induction h generalizing steps with
  | top hn => exact climb_of_parent?_eq_none hn steps
  | stop hp hk =>
    cases steps with
    | zero => rfl
    | succ steps => simp [climb, show s.parent? _ = some _ from hp, hk]
  | up hp hk _ ih =>
    cases steps with
    | zero => simp at hle
    | succ steps =>
      have hrest := ih (Nat.le_of_succ_le_succ hle)
      simp [climb, show s.parent? _ = some _ from hp, hk, hrest]

/-- The count of steps does not cut short a walk that ends, whatever the rest of the store is. -/
theorem Climbs.ancestorsWhile_eq {l : List NodeId} (h : Climbs s k n l) : s.ancestorsWhile k n = l :=
  h.climb_eq (length_le_of_nodup_lt h.nodup fun m hm => lt_size_of_alive (h.alive_of_mem m hm))

theorem LoopFree.climbs_iff (h : s.LoopFree) (l : List NodeId) :
    Climbs s k n l ↔ l = s.ancestorsWhile k n := by
  constructor
  · intro hl
    exact hl.unique (h.climbs_ancestorsWhile k n)
  · rintro rfl
    exact h.climbs_ancestorsWhile k n

theorem LoopFree.mem_ancestors_iff (h : s.LoopFree) :
    m ∈ s.ancestors n ↔ TransGen s.Under n m :=
  ⟨transGen_of_mem_climb, (h.climbs_ancestorsWhile .any n).mem_of_transGen⟩

/-! ## The way down -/

theorem owns_of_mem_searchTo {depth : Nat} (h : m ∈ s.searchTo k depth n) :
    ReflTransGen s.Owns n m := by
  induction depth generalizing n with
  | zero => simp [searchTo] at h
  | succ depth ih =>
    rw [searchTo] at h
    have hbelow : m ∈ (s.childList n).flatMap (s.searchTo k depth) → ReflTransGen s.Owns n m := by
      intro hm
      obtain ⟨c, hc, hm⟩ := List.mem_flatMap.mp hm
      exact .head hc (ih hm)
    split at h
    · rcases List.mem_cons.mp h with rfl | hm
      · exact .refl
      · exact hbelow hm
    · exact hbelow h

theorem owns_of_mem_search (h : m ∈ s.search k n) : ReflTransGen s.Owns n m := owns_of_mem_searchTo h

theorem owns_of_mem_findTo {depth : Nat} (h : m ∈ s.findTo k depth n) : ReflTransGen s.Owns n m := by
  induction depth generalizing n with
  | zero => simp [findTo] at h
  | succ depth ih =>
    rw [findTo] at h
    obtain ⟨c, hc, hm⟩ := List.mem_flatMap.mp h
    split at hm
    · rcases List.mem_cons.mp hm with rfl | hm
      · exact .single hc
      · exact .head hc (ih hm)
    · exact .head hc (ih hm)

theorem owns_of_mem_children (h : m ∈ s.children k n) : s.Owns n m := (List.mem_filter.mp h).1

theorem owns_of_mem_find (h : m ∈ s.find k n) : ReflTransGen s.Owns n m := by
  rw [find] at h
  split at h
  · exact .single (owns_of_mem_children h)
  · exact owns_of_mem_findTo h

end Store

end MarkTree
