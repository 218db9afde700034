import MarkTree.Proofs.Store.Preorder

/-!
# Levels

A node stands on the level that the lists take steps to lead down to it (`Level`). Below a node that lists
each node once there is one way down to each, whatever the links say; so no way comes back
(`ListedOnce.acyclic`), every node has one level (`ListedOnce.level_unique`), and the walk that counts levels
finds it (`level_of_mem_levelsTo`).

That walk passes over the nodes in the order of a search (`map_snd_levelsTo`). Where it comes to a node, it
goes through what stands below the node as a walk from there would, only so much deeper
(`Ends.levelsTo_block`, `levelsTo_add`).
-/

namespace MarkTree.Store

open Relation (TransGen ReflTransGen)

variable {s : Store} {root n m p c : NodeId} {level level' : Nat}

/-! ## Ways down -/

/-- The lists lead from `root` down to a node in so many steps. -/
inductive Level (s : Store) (root : NodeId) : Nat → NodeId → Prop
  | top : Level s root 0 root
  | child {level : Nat} {p n : NodeId} (h : Level s root level p) (ho : s.Owns p n) :
      Level s root (level + 1) n

theorem Level.reaches (h : s.Level root level n) : ReflTransGen s.Owns root n := by
  induction h with
  | top => exact .refl
  | child _ ho ih => exact ih.tail ho

theorem Level.head (ho : s.Owns root c) (h : s.Level c level n) : s.Level root (level + 1) n := by
  induction h with
  | top => exact .child .top ho
  | child _ ho' ih => exact .child ih ho'

/-- `root` and all nodes below it are there, each of these is listed once below `root`, and `root` is not. -/
structure ListedOnce (s : Store) (root : NodeId) : Prop where
  alive : ∀ {n}, ReflTransGen s.Owns root n → s.alive n
  once : ∀ {p}, ReflTransGen s.Owns root p → (s.childList p).Nodup
  owner : ∀ {p q n}, ReflTransGen s.Owns root p → ReflTransGen s.Owns root q → s.Owns p n → s.Owns q n →
    p = q
  top : ∀ {p}, ReflTransGen s.Owns root p → ¬ s.Owns p root

theorem IsTree.listedOnce (ht : s.IsTree root) (hs : s.Sound) : s.ListedOnce root where
  alive := hs.alive_of_owns_path ht.alive
  once := ht.once
  owner hp hq ho ho' := under_unique s (ht.linked hp ho) (ht.linked hq ho')
  top hp ho := ht.acyclic hs .refl (.tail' hp ho)

namespace ListedOnce

/-- A loop would pass over the one node that lists its start, and so back to the top. -/
theorem acyclic (ht : s.ListedOnce root) (hn : ReflTransGen s.Owns root n) : ¬ TransGen s.Owns n n := by
  induction hn with
  | refl =>
    intro hloop
    obtain ⟨p, hp, ho⟩ := TransGen.tail'_iff.mp hloop
    exact ht.top hp ho
  | @tail p n hp ho ih =>
    intro hloop
    obtain ⟨q, hq, ho'⟩ := TransGen.tail'_iff.mp hloop
    obtain rfl : q = p := ht.owner ((hp.tail ho).trans hq) hp ho' ho
    exact ih (.head' ho hq)

theorem ends (ht : s.ListedOnce root) : s.Ends root :=
  ends_of_acyclic (fun _ => ht.alive) fun _ => ht.acyclic

theorem level_unique (ht : s.ListedOnce root) (h : s.Level root level n) (h' : s.Level root level' n) :
    level = level' := by
  induction h generalizing level' with
  | top =>
    cases h' with
    | top => rfl
    | child h' ho => exact absurd ho (ht.top h'.reaches)
  | child h ho ih =>
    cases h' with
    | top => exact absurd ho (ht.top h.reaches)
    | child h' ho' =>
      obtain rfl := ht.owner h.reaches h'.reaches ho ho'
      rw [ih h']

end ListedOnce

/-! ## The walk that counts levels -/

/-- What stands below a node is counted on from the level of the node. -/
theorem levelsTo_add (s : Store) (depth base level : Nat) (n : NodeId) :
    s.levelsTo depth (base + level) n = (s.levelsTo depth level n).map fun q => (base + q.1, q.2) := by
  induction depth generalizing level n with
  | zero => rfl
  | succ depth ih =>
    rw [levelsTo, levelsTo, List.map_cons, List.map_flatMap]
    exact congrArg _ (List.flatMap_congr fun c _ => ih (level + 1) c)

theorem level_of_mem_levelsTo {depth base : Nat} {q : Nat × NodeId}
    (h : q ∈ s.levelsTo depth base n) : ∃ level, q.1 = base + level ∧ s.Level n level q.2 := by
  induction depth generalizing base n with
  | zero => exact absurd h List.not_mem_nil
  | succ depth ih =>
    rcases List.mem_cons.mp h with rfl | h
    · exact ⟨0, rfl, .top⟩
    · obtain ⟨c, hc, h⟩ := List.mem_flatMap.mp h
      obtain ⟨level, hlevel, hbelow⟩ := ih h
      exact ⟨level + 1, by omega, hbelow.head hc⟩

/-- Where the walk comes to a node, it first goes through what stands below it. -/
theorem Ends.levelsTo_block (h : s.Ends root) {base i : Nat}
    (hi : (s.levelsTo s.size base root)[i]? = some (level, n)) :
    s.levelsTo s.size level n <+: (s.levelsTo s.size base root).drop i := by
  refine Ends.induction (P := fun root => ∀ base i,
    (s.levelsTo s.size base root)[i]? = some (level, n) →
      s.levelsTo s.size level n <+: (s.levelsTo s.size base root).drop i)
    (fun root h ih base i hi => ?_) h base i hi
  cases i with
  | zero =>
    rw [h.levelsTo_eq] at hi
    cases hi
    exact List.prefix_rfl
  | succ i =>
    rw [h.levelsTo_eq, List.getElem?_cons_succ] at hi
    obtain ⟨c, hc, j, hj, hdrop⟩ := exists_drop_flatMap hi
    rw [h.levelsTo_eq base, List.drop_succ_cons]
    exact (ih c hc (base + 1) j hj).trans hdrop

/-- A node that a search for everything finds has one level. Where the search finds it, the walk with levels
goes through what stands below it, so much deeper than a walk from there. -/
theorem ListedOnce.exists_levels_block (ht : s.ListedOnce root) {i : Nat}
    (hi : (s.search .any root)[i]? = some n) :
    ∃ level, (∀ k, s.Level root k n ↔ k = level) ∧
      ((s.levels root).drop i).take (s.search .any n).length =
        (s.levels n).map fun q => (level + q.1, q.2) := by
  rw [search, ← s.map_snd_levelsTo s.size 0 root, List.getElem?_map, Option.map_eq_some_iff] at hi
  obtain ⟨⟨level, n'⟩, hi, rfl⟩ := hi
  obtain ⟨k, hk, hlevel⟩ := level_of_mem_levelsTo (List.mem_of_getElem? hi)
  obtain rfl : level = k := hk.trans (Nat.zero_add k)
  refine ⟨level, fun k => ⟨fun h => ht.level_unique h hlevel, ?_⟩, ?_⟩
  · rintro rfl
    exact hlevel
  · have hlength : (s.search .any n').length = (s.levelsTo s.size level n').length := by
      rw [search, ← s.map_snd_levelsTo s.size level n', List.length_map]
    have hblock := List.prefix_iff_eq_take.mp (ht.ends.levelsTo_block hi)
    rw [hlength, levels, ← hblock, levels, ← levelsTo_add, Nat.add_zero]

end MarkTree.Store
