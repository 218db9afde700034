import MarkTree.Proofs.Store.Paths

/-!
# The way down

The searches below a node count their steps. Where no way down from a node comes back to a node that
it passed over, no way down is longer than the store, and the count cuts nothing short: a search is
what the same search gives below the children, behind the node itself (`Ends.search_eq`). A property
of such a node then follows from the same property of its children (`Ends.induction`).

* `EndsWithin.stable`: any walk that looks at the children alone gives the same from some count on.
* `Ends.mem_search_iff`, `Ends.find_eq`: what the two searches find, in terms of paths and of each
  other.
-/

namespace MarkTree.Store

open Relation (TransGen ReflTransGen)

variable {s : Store} {n m : NodeId} {k : Kind} {depth depth' : Nat}

/-- Every way down from `n` has fewer than `depth` steps. -/
def EndsWithin (s : Store) : Nat → NodeId → Prop
  | 0, _ => False
  | depth + 1, n => ∀ c ∈ s.childList n, EndsWithin s depth c

/-- Every way down from `n` ends before it has passed over more nodes than there are. -/
def Ends (s : Store) (n : NodeId) : Prop := s.EndsWithin s.size n

instance EndsWithin.decidable (s : Store) :
    (depth : Nat) → (n : NodeId) → Decidable (s.EndsWithin depth n)
  | 0, _ => .isFalse id
  | depth + 1, n =>
    have := EndsWithin.decidable s depth
    inferInstanceAs (Decidable (∀ c ∈ s.childList n, s.EndsWithin depth c))

instance (s : Store) (n : NodeId) : Decidable (s.Ends n) :=
  inferInstanceAs (Decidable (s.EndsWithin s.size n))

/-! ## Counting steps -/

theorem EndsWithin.mono (h : s.EndsWithin depth n) (hd : depth ≤ depth') :
    s.EndsWithin depth' n := by
  induction depth generalizing n depth' with
  | zero => exact h.elim
  | succ depth ih =>
    cases depth' with
    | zero => omega
    | succ depth' => exact fun c hc => ih (h c hc) (by omega)

/-- A walk that looks no further than at what it gives below the children does not depend on a count
of steps that is large enough. -/
theorem EndsWithin.stable {α : Type} {f : Nat → NodeId → α}
    (hf : ∀ d d' n, (∀ c ∈ s.childList n, f d c = f d' c) → f (d + 1) n = f (d' + 1) n)
    (h : s.EndsWithin depth n) (hd : depth ≤ depth') : f depth n = f depth' n := by
  induction depth generalizing n depth' with
  | zero => exact h.elim
  | succ depth ih =>
    cases depth' with
    | zero => omega
    | succ depth' => exact hf depth depth' n fun c hc => ih (h c hc) (by omega)

/-- A way down that takes all its steps. -/
theorem exists_chain_of_not_endsWithin (h : ¬ s.EndsWithin depth n) :
    ∃ l : List NodeId, l.length = depth ∧ List.IsChain s.Owns (n :: l) := by
  induction depth generalizing n with
  | zero => exact ⟨[], rfl, .singleton n⟩
  | succ depth ih =>
    simp only [EndsWithin, not_forall] at h
    obtain ⟨c, hc, h⟩ := h
    obtain ⟨l, hl, hchain⟩ := ih h
    exact ⟨c :: l, by simp [hl], .cons_cons hc hchain⟩

/-- Where nothing below a node stands below itself, a way down passes over different nodes. -/
theorem ends_of_acyclic (halive : ∀ m, ReflTransGen s.Owns n m → s.alive m)
    (hacyclic : ∀ m, ReflTransGen s.Owns n m → ¬ TransGen s.Owns m m) : s.Ends n := by
  by_contra hnot
  obtain ⟨l, hl, hchain⟩ := exists_chain_of_not_endsWithin hnot
  have hpair : List.Pairwise (TransGen s.Owns) (n :: l) :=
    (hchain.imp fun _ _ => TransGen.single).pairwise
  have hbelow : ∀ m ∈ n :: l, ReflTransGen s.Owns n m := by
    intro m hm
    rcases List.mem_cons.mp hm with rfl | hm
    · exact .refl
    · exact (List.rel_of_pairwise_cons hpair hm).to_reflTransGen
  have hnodup : (n :: l).Nodup := by
    refine hpair.imp_of_mem fun {a b} ha _ hab he => ?_
    subst he
    exact hacyclic a (hbelow a ha) hab
  have hlen := length_le_of_nodup_lt hnodup fun m hm => lt_size_of_alive (halive m (hbelow m hm))
  rw [List.length_cons, hl] at hlen
  omega

/-! ## From the children to the node -/

theorem Ends.child (h : s.Ends n) (hm : m ∈ s.childList n) : s.Ends m := by
  unfold Ends at h ⊢
  cases hsize : s.size with
  | zero =>
    rw [hsize] at h
    exact h.elim
  | succ size =>
    rw [hsize] at h
    exact (h m hm).mono (Nat.le_succ size)

theorem Ends.below (h : s.Ends n) (hm : ReflTransGen s.Owns n m) : s.Ends m := by
  induction hm with
  | refl => exact h
  | tail _ ho ih => exact ih.child ho

theorem Ends.induction {P : NodeId → Prop}
    (hstep : ∀ n, s.Ends n → (∀ c ∈ s.childList n, P c) → P n) (h : s.Ends n) : P n := by
  suffices H : ∀ depth n, s.EndsWithin depth n → s.Ends n → P n from H _ n h h
  intro depth
  induction depth with
  | zero => exact fun n hn _ => hn.elim
  | succ depth ih => exact fun n hn he => hstep n he fun c hc => ih c (hn c hc) (he.child hc)

/-- One step more than the store is large is one step too many. -/
theorem Ends.stable {α : Type} {f : Nat → NodeId → α}
    (hf : ∀ d d' n, (∀ c ∈ s.childList n, f d c = f d' c) → f (d + 1) n = f (d' + 1) n)
    (h : s.Ends n) : f s.size n = f (s.size + 1) n :=
  EndsWithin.stable hf h (Nat.le_succ _)

/-! ## The searches -/

theorem Ends.search_eq (h : s.Ends n) (k : Kind) :
    s.search k n =
      (if k.accepts (s.kind n) then [n] else []) ++ (s.childList n).flatMap (s.search k) := by
  have hstable : s.search k n = s.searchTo k (s.size + 1) n :=
    h.stable (f := s.searchTo k) fun d d' n hc => by
      rw [searchTo, searchTo, List.flatMap_congr hc]
  rw [hstable, searchTo]
  split <;> rfl

/-- The wildcard takes the node in. -/
theorem Ends.search_any_eq (h : s.Ends n) :
    s.search .any n = n :: (s.childList n).flatMap (s.search .any) := by
  rw [h.search_eq, if_pos (by rfl), List.singleton_append]

theorem Ends.levelsTo_eq (h : s.Ends n) (level : Nat) :
    s.levelsTo s.size level n =
      (level, n) :: (s.childList n).flatMap (s.levelsTo s.size (level + 1)) := by
  have hstable := h.stable (f := fun d n => fun level => s.levelsTo d level n) fun d d' n hc => by
    funext level
    rw [levelsTo, levelsTo, List.flatMap_congr fun c hm => congrFun (hc c hm) (level + 1)]
  rw [congrFun hstable level, levelsTo]

/-- The wildcard finds the nodes that have a level. -/
theorem map_snd_levelsTo (s : Store) (depth level : Nat) (n : NodeId) :
    (s.levelsTo depth level n).map Prod.snd = s.searchTo .any depth n := by
  induction depth generalizing level n with
  | zero => rfl
  | succ depth ih =>
    rw [levelsTo, searchTo, List.map_cons, List.map_flatMap, List.flatMap_congr fun c _ => ih (level + 1) c]
    rfl

theorem accepts_iff_of_ne_any (hk : k ≠ .any) (own : Kind) : k.accepts own = true ↔ own = k := by
  simp [Kind.accepts, hk]

theorem find_of_ne_any (hk : k ≠ .any) (n : NodeId) : s.find k n = s.findTo k s.size n := by
  rw [find, if_neg hk]

theorem find_any (s : Store) (n : NodeId) : s.find .any n = s.childList n := by
  rw [find, if_pos rfl, children]
  exact List.filter_eq_self.mpr fun _ _ => rfl

theorem Ends.find_eq_self_find (h : s.Ends n) (hk : k ≠ .any) :
    s.find k n =
      (s.childList n).flatMap fun c => (if s.kind c = k then [c] else []) ++ s.find k c := by
  have hstable := h.stable (f := s.findTo k) fun d d' n hc => by
    rw [findTo, findTo, List.flatMap_congr fun c hm => by rw [hc c hm]]
  rw [find_of_ne_any hk, hstable, findTo]
  refine List.flatMap_congr fun c _ => ?_
  rw [find_of_ne_any hk]
  split <;> rfl

/-- A search for a kind gives the node itself, if it is of that kind, and what is found below it. -/
theorem Ends.search_eq_self_find (h : s.Ends n) (hk : k ≠ .any) :
    s.search k n = (if s.kind n = k then [n] else []) ++ s.find k n := by
  refine Ends.induction (P := fun n => s.search k n = (if s.kind n = k then [n] else []) ++ s.find k n)
    (fun n h ih => ?_) h
  rw [h.search_eq, h.find_eq_self_find hk, List.flatMap_congr ih]
  simp only [accepts_iff_of_ne_any hk]

theorem Ends.find_eq (h : s.Ends n) (hk : k ≠ .any) :
    s.find k n = (s.childList n).flatMap (s.search k) := by
  rw [h.find_eq_self_find hk]
  exact List.flatMap_congr fun c hc => ((h.child hc).search_eq_self_find hk).symm

theorem Ends.mem_search_iff (h : s.Ends n) :
    m ∈ s.search k n ↔ ReflTransGen s.Owns n m ∧ k.accepts (s.kind m) = true := by
  revert m
  refine Ends.induction (P := fun n => ∀ {m},
    m ∈ s.search k n ↔ ReflTransGen s.Owns n m ∧ k.accepts (s.kind m) = true) (fun n h ih m => ?_) h
  have hself : m ∈ (if k.accepts (s.kind n) = true then [n] else []) ↔
      m = n ∧ k.accepts (s.kind m) = true := by
    split
    · rw [List.mem_singleton]
      exact ⟨fun he => ⟨he, by rwa [he]⟩, fun hm => hm.1⟩
    · rename_i hk
      exact ⟨fun hm => absurd hm List.not_mem_nil, fun ⟨he, hm⟩ => absurd (he ▸ hm) hk⟩
  rw [h.search_eq, List.mem_append, hself, List.mem_flatMap, Relation.ReflTransGen.cases_head_iff,
    or_and_right, eq_comm (a := n)]
  refine or_congr Iff.rfl ⟨?_, ?_⟩
  · rintro ⟨c, hc, hm⟩
    obtain ⟨hpath, hk⟩ := (ih c hc).mp hm
    exact ⟨⟨c, hc, hpath⟩, hk⟩
  · rintro ⟨⟨c, hc, hpath⟩, hk⟩
    exact ⟨c, hc, (ih c hc).mpr ⟨hpath, hk⟩⟩

end MarkTree.Store
