import MarkTree.Proofs.Store.Answers
import MarkTree.Proofs.Store.Descent
import MarkTree.Proofs.Store.Forest

/-!
# Trees in a store

A node is the top of a tree if below it every list repeats no node and every listed node has the node
that lists it as its parent. What the rest of the store looks like does not matter, nor whether the top
itself has a parent.

Ways down a tree are ways up walked backwards, and a node has one parent; so the trees of two children
of a node share nothing (`IsTree.eq_of_paths`), and a search visits every node of a tree once
(`IsTree.nodup_search`).

* `IsTree.mem_search_iff`: a search finds what stands below its start and is of the kind asked for.
* `Coherent.isTree`: if lists and links agree throughout and no list repeats a node, every node that is
  there is the top of a tree.
-/

namespace MarkTree.Store

open Relation (TransGen ReflTransGen)

variable {s : Store} {root n m p c : NodeId} {k w : Kind}

/-- `root` is there, and below it every node is listed once, by its parent. -/
structure IsTree (s : Store) (root : NodeId) : Prop where
  alive : s.alive root
  once : ∀ {p}, ReflTransGen s.Owns root p → (s.childList p).Nodup
  linked : ∀ {p n}, ReflTransGen s.Owns root p → s.Owns p n → s.Under n p

theorem Coherent.isTree (h : s.Coherent) (hr : s.NoRepeats) (ha : s.alive root) : s.IsTree root :=
  ⟨ha, fun _ => hr _, fun _ ho => h _ _ ho⟩

theorem under_unique (s : Store) : Relator.RightUnique s.Under :=
  fun _ _ _ hp hq => Option.some.inj (hp.symm.trans hq)

namespace IsTree

theorem below (ht : s.IsTree root) (hs : s.Sound) (h : ReflTransGen s.Owns root n) :
    s.IsTree n where
  alive := hs.alive_of_owns_path ht.alive h
  once hp := ht.once (h.trans hp)
  linked hp ho := ht.linked (h.trans hp) ho

theorem child (ht : s.IsTree root) (hs : s.Sound) (h : c ∈ s.childList root) : s.IsTree c :=
  ht.below hs (.single h)

/-! ## One way up -/

theorem path_up (ht : s.IsTree root) (h : ReflTransGen s.Owns root n) :
    ReflTransGen s.Under n root := by
  induction h with
  | refl => exact .refl
  | tail hpath ho ih => exact .head (ht.linked hpath ho) ih

theorem transGen_up (ht : s.IsTree root) (h : TransGen s.Owns root n) : TransGen s.Under n root := by
  obtain ⟨p, hpath, ho⟩ := TransGen.tail'_iff.mp h
  exact .head' (ht.linked hpath ho) (ht.path_up hpath)

theorem acyclic (ht : s.IsTree root) (hs : s.Sound) (h : ReflTransGen s.Owns root n) :
    ¬ TransGen s.Owns n n :=
  fun hloop => hs.loopFree n ((ht.below hs h).transGen_up hloop)

theorem ends (ht : s.IsTree root) (hs : s.Sound) : s.Ends root :=
  ends_of_acyclic (fun _ h => hs.alive_of_owns_path ht.alive h) fun _ h => ht.acyclic hs h

/-- A node of the tree has at most one ancestor among the children of the top. -/
theorem eq_of_paths (ht : s.IsTree root) (hs : s.Sound) {c' : NodeId} (hc : c ∈ s.childList root)
    (hc' : c' ∈ s.childList root) (h : ReflTransGen s.Owns c m) (h' : ReflTransGen s.Owns c' m) :
    c = c' := by
  have hup := (ht.child hs hc).path_up h
  have hup' := (ht.child hs hc').path_up h'
  -- of two nodes on one way up, the lower has the upper as `root` or above `root`
  have hone : ∀ {a b}, a ∈ s.childList root → b ∈ s.childList root → ReflTransGen s.Under a b →
      a = b := by
    intro a b ha hb hab
    rcases Relation.ReflTransGen.cases_head hab with he | ⟨q, hq, hqb⟩
    · exact he
    · obtain rfl : q = root := under_unique s hq (ht.linked .refl ha)
      exact absurd (TransGen.tail' hqb (ht.linked .refl hb)) (hs.loopFree q)
  rcases Relation.ReflTransGen.total_of_right_unique (under_unique s) hup hup' with hcc | hcc
  · exact hone hc hc' hcc
  · exact (hone hc' hc hcc).symm

/-! ## What searches find -/

theorem mem_search_iff (ht : s.IsTree root) (hs : s.Sound) :
    n ∈ s.search k root ↔ ReflTransGen s.Owns root n ∧ k.accepts (s.kind n) = true :=
  (ht.ends hs).mem_search_iff

theorem mem_find_iff (ht : s.IsTree root) (hs : s.Sound) (hk : k ≠ .any) :
    n ∈ s.find k root ↔ TransGen s.Owns root n ∧ k.accepts (s.kind n) = true := by
  rw [(ht.ends hs).find_eq hk, List.mem_flatMap]
  constructor
  · rintro ⟨c, hc, hn⟩
    obtain ⟨hpath, hkn⟩ := ((ht.child hs hc).mem_search_iff hs).mp hn
    exact ⟨.head' hc hpath, hkn⟩
  · rintro ⟨hpath, hkn⟩
    obtain ⟨c, hc, hpath⟩ := TransGen.head'_iff.mp hpath
    exact ⟨c, hc, ((ht.child hs hc).mem_search_iff hs).mpr ⟨hpath, hkn⟩⟩

theorem disjoint_searches (ht : s.IsTree root) (hs : s.Sound) {k' : Kind} {c' : NodeId}
    (hc : c ∈ s.childList root) (hc' : c' ∈ s.childList root) (hne : c ≠ c') :
    (s.search k c).Disjoint (s.search k' c') := by
  intro m hm hm'
  have hpath := ((ht.child hs hc).mem_search_iff hs).mp hm
  have hpath' := ((ht.child hs hc').mem_search_iff hs).mp hm'
  exact hne (ht.eq_of_paths hs hc hc' hpath.1 hpath'.1)

theorem pairwise_disjoint_searches (ht : s.IsTree root) (hs : s.Sound) (k : Kind) :
    List.Pairwise (Function.onFun List.Disjoint (s.search k)) (s.childList root) :=
  (ht.once .refl).imp_of_mem fun hc hc' hne => ht.disjoint_searches hs hc hc' hne

/-- A search visits no node of a tree twice. -/
theorem nodup_search (ht : s.IsTree root) (hs : s.Sound) (k : Kind) : (s.search k root).Nodup := by
  refine Ends.induction (P := fun n => s.IsTree n → (s.search k n).Nodup) (fun n hn ih ht => ?_)
    (ht.ends hs) ht
  have hbelow : ((s.childList n).flatMap (s.search k)).Nodup := by
    rw [List.nodup_flatMap]
    exact ⟨fun c hc => ih c hc (ht.child hs hc), ht.pairwise_disjoint_searches hs k⟩
  rw [hn.search_eq]
  split
  · refine List.nodup_cons.mpr ⟨fun hmem => ?_, hbelow⟩
    -- `n` would stand below one of its children
    obtain ⟨c, hc, hm⟩ := List.mem_flatMap.mp hmem
    have hpath := (((ht.child hs hc).mem_search_iff hs).mp hm).1
    exact ht.acyclic hs .refl (.head' hc hpath)
  · exact hbelow

theorem nodup_find (ht : s.IsTree root) (hs : s.Sound) (hk : k ≠ .any) : (s.find k root).Nodup := by
  have hsearch := ht.nodup_search hs k
  rw [(ht.ends hs).search_eq_self_find hk] at hsearch
  exact hsearch.of_append_right

end IsTree

end MarkTree.Store
