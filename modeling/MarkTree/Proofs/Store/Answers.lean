import MarkTree.Proofs.Store.Moves

/-!
# Where answers come from

Every node that answers a question about a node stands below it, above it, or in its parent's list.
In a sound store such nodes are there.
-/

namespace MarkTree.Store

open Relation (TransGen ReflTransGen)

variable {s : Store} {n m p : NodeId} {k : Kind} {side : Side} {stop : Option Kind}

theorem Sound.alive_of_owns_path (hs : s.Sound) (hn : s.alive n) (h : ReflTransGen s.Owns n m) :
    s.alive m := by
  induction h with
  | refl => exact hn
  | tail _ hown _ => exact hs.alive_of_owns hown

theorem collect_sublist (s : Store) (own : Kind) (stop : Option Kind) (l : List NodeId) :
    (s.collect own stop l).Sublist l := by
  induction l with
  | nil => exact .slnil
  | cons m rest ih =>
    rw [collect]
    split
    · exact List.nil_sublist _
    · split
      · exact ih.cons_cons m
      · exact ih.cons m

/-- Siblings on a side are listed by the node's parent. -/
theorem owns_of_mem_sideOf (h : m ∈ s.sideOf side n) : ∃ p, s.Under n p ∧ s.Owns p m := by
  unfold sideOf at h
  cases hq : s.place? n with
  | none =>
    rw [hq] at h
    exact absurd h List.not_mem_nil
  | some q =>
    obtain ⟨p, i⟩ := q
    rw [hq] at h
    refine ⟨p, (place?_eq_some_iff.mp hq).1, ?_⟩
    cases side with
    | after => exact List.mem_of_mem_drop h
    | before => exact List.mem_of_mem_take (List.mem_reverse.mp h)

theorem owns_of_mem_scan (h : m ∈ s.scan side stop n) : ∃ p, s.Under n p ∧ s.Owns p m :=
  owns_of_mem_sideOf ((s.collect_sublist _ _ _).subset h)

theorem owns_of_mem_siblingsOfKind (h : m ∈ s.siblingsOfKind k n) :
    ∃ p, s.Under n p ∧ s.Owns p m := by
  unfold siblingsOfKind at h
  cases hp : s.parent? n with
  | none =>
    rw [hp] at h
    exact absurd h List.not_mem_nil
  | some p =>
    rw [hp] at h
    exact ⟨p, hp, (List.mem_filter.mp h).1⟩

theorem owns_of_mem_siblings (h : m ∈ s.siblings k n) :
    s.Owns n m ∨ ∃ p, s.Under n p ∧ s.Owns p m := by
  unfold siblings at h
  split at h
  · exact .inr (owns_of_mem_siblingsOfKind h)
  · exact .inl (owns_of_mem_children (List.mem_filter.mp h).1)

/-- An answer stands below the node, above it, or in its parent's list. -/
theorem path_of_mem_query {q : Query} (h : m ∈ s.query n q) :
    ReflTransGen s.Owns n m ∨ TransGen s.Under n m ∨ ∃ p, s.Under n p ∧ s.Owns p m := by
  cases q with
  | search k => exact .inl (owns_of_mem_search h)
  | find k => exact .inl (owns_of_mem_find h)
  | children k => exact .inl (.single (owns_of_mem_children h))
  | ancestors => exact .inr (.inl (transGen_of_mem_climb h))
  | ancestorsWhile k => exact .inr (.inl (transGen_of_mem_climb h))
  | siblings k =>
    rcases owns_of_mem_siblings h with hm | hm
    · exact .inl (.single hm)
    · exact .inr (.inr hm)
  | siblingsOfKind k => exact .inr (.inr (owns_of_mem_siblingsOfKind h))
  | all side => exact .inr (.inr (owns_of_mem_scan h))
  | upTo side stop => exact .inr (.inr (owns_of_mem_scan h))

theorem path_of_lookup? {q : Lookup} (h : s.lookup? n q = some m) :
    s.Owns n m ∨ ∃ p, s.Under n p ∧ s.Owns p m := by
  cases q with
  | firstChild k => exact .inl (List.mem_of_find?_eq_some h)
  | lastChild k =>
    rw [lookup?, lastChild?, List.findRev?_eq_find?_reverse] at h
    exact .inl (List.mem_reverse.mp (List.mem_of_find?_eq_some h))
  | nearest side => exact .inr (owns_of_mem_scan (List.mem_of_head? h))

theorem Sound.alive_of_mem_query (hs : s.Sound) (hn : s.alive n) {q : Query} (h : m ∈ s.query n q) :
    s.alive m := by
  rcases path_of_mem_query h with hm | hm | ⟨p, -, hm⟩
  · exact hs.alive_of_owns_path hn hm
  · obtain ⟨p, -, hp⟩ := TransGen.tail'_iff.mp hm
    exact parent?_alive hp
  · exact hs.alive_of_owns hm

theorem Sound.alive_of_lookup? (hs : s.Sound) {q : Lookup} (h : s.lookup? n q = some m) :
    s.alive m := by
  rcases path_of_lookup? h with hm | ⟨p, -, hm⟩
  · exact hs.alive_of_owns hm
  · exact hs.alive_of_owns hm

end MarkTree.Store
