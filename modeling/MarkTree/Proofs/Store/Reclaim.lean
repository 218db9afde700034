import MarkTree.Proofs.Store.Answers
import Mathlib.Data.Fintype.EquivFin

/-!
# What reclaiming leaves

Reclaiming sweeps until every node that is there is held or listed (`settled_reclaim`): each round empties
a cell, so there are enough rounds. No round touches a node that the held ones lead down to
(`get?_reclaim_of_reaches`), and where nothing owns itself a way from owner to owner ends at a held node
(`Settled.reaches`). So of a store in which nothing owns itself exactly the nodes are left that the held
ones lead down to, with all they said and listed (`alive_reclaim_iff`).

What is gone stays gone: identities are given out once (`Moves.gone`).
-/

namespace MarkTree.Store

open Relation (TransGen ReflTransGen)

variable {s s' : Store} {held : List NodeId} {n m p : NodeId}

/-- Nothing owns itself. -/
def Acyclic (s : Store) : Prop := ∀ n, ¬ TransGen s.Owns n n

/-- A held node leads down to `n`. -/
def Reaches (s : Store) (held : List NodeId) (n : NodeId) : Prop :=
  ∃ h ∈ held, ReflTransGen s.Owns h n

/-- Every node that is there is held or listed. -/
def Settled (s : Store) (held : List NodeId) : Prop := ∀ n, s.alive n → s.kept held n

/-- The node was there once and is not there any more. -/
def Gone (s : Store) (n : NodeId) : Prop := n < s.size ∧ ¬ s.alive n

theorem kept_iff : s.kept held n ↔ n ∈ held ∨ ∃ p, s.Owns p n := by
  rw [kept, Bool.or_eq_true, List.contains_iff_mem, listed_iff]
  rfl

/-! ## Enough rounds -/

theorem hasGarbage_eq_false_iff : s.hasGarbage held = false ↔ s.Settled held := by
  simp only [hasGarbage, List.any_eq_false, List.mem_range, Bool.and_eq_true, Bool.not_eq_true',
    not_and, Bool.not_eq_false]
  constructor
  · exact fun h n hn => h n (lt_size_of_alive hn) hn
  · exact fun h n _ hn => h n hn

/-- The number of nodes that are there. -/
def population (s : Store) : Nat := ((List.range s.size).filter s.alive).length

theorem population_le_size (s : Store) : s.population ≤ s.size := by
  have hle := List.length_filter_le s.alive (List.range s.size)
  rwa [List.length_range] at hle

theorem population_pos (h : s.alive n) : 0 < s.population :=
  List.length_pos_of_mem (List.mem_filter.mpr ⟨List.mem_range.mpr (lt_size_of_alive h), h⟩)

/-- A round of sweeping that has something to do empties a cell. -/
theorem population_sweep_lt (h : ¬ s.Settled held) : (s.sweep held).population < s.population := by
  have hfilter : (List.range s.size).filter (s.sweep held).alive =
      ((List.range s.size).filter s.alive).filter (s.kept held) := by
    rw [List.filter_filter]
    refine List.filter_congr fun n _ => Bool.eq_iff_iff.mpr ?_
    rw [alive_sweep, Bool.and_eq_true, and_comm]
  rw [population, population, size_sweep, hfilter, List.length_filter_lt_length_iff_exists]
  simp only [Settled, not_forall] at h
  obtain ⟨n, hn, hkept⟩ := h
  exact ⟨n, List.mem_filter.mpr ⟨List.mem_range.mpr (lt_size_of_alive hn), hn⟩, hkept⟩

theorem settled_sweepTimes {rounds : Nat} (h : s.population ≤ rounds) :
    (sweepTimes held rounds s).Settled held := by
  induction rounds generalizing s with
  | zero =>
    intro n hn
    have hpos := population_pos hn
    rw [sweepTimes] at hpos
    omega
  | succ rounds ih =>
    rw [sweepTimes]
    split
    · rename_i hgarbage
      refine ih ?_
      have hnot : ¬ s.Settled held := by
        rw [← hasGarbage_eq_false_iff, hgarbage]
        exact Bool.noConfusion
      have hlt := population_sweep_lt hnot
      omega
    · rename_i hclean
      exact hasGarbage_eq_false_iff.mp (Bool.eq_false_iff.mpr hclean)

theorem settled_reclaim (s : Store) (held : List NodeId) : (s.reclaim held).Settled held :=
  settled_sweepTimes s.population_le_size

/-- A settled store is left as it is. -/
theorem Settled.reclaim_eq (h : s.Settled held) : s.reclaim held = s := by
  rw [reclaim]
  cases s.size with
  | zero => rfl
  | succ rounds => rw [sweepTimes, hasGarbage_eq_false_iff.mpr h, if_neg Bool.false_ne_true]

/-! ## What the held nodes lead down to -/

theorem Reaches.of_held (h : n ∈ held) : s.Reaches held n := ⟨n, h, .refl⟩

theorem Reaches.owns (h : s.Reaches held p) (ho : s.Owns p n) : s.Reaches held n := by
  obtain ⟨m, hm, hpath⟩ := h
  exact ⟨m, hm, hpath.tail ho⟩

theorem Reaches.mono {held' : List NodeId} (h : s.Reaches held n) (hsub : held ⊆ held') :
    s.Reaches held' n := by
  obtain ⟨m, hm, hpath⟩ := h
  exact ⟨m, hsub hm, hpath⟩

theorem Reaches.kept (h : s.Reaches held n) : s.kept held n := by
  obtain ⟨m, hm, hpath⟩ := h
  rcases Relation.ReflTransGen.cases_tail hpath with rfl | ⟨p, -, ho⟩
  · exact kept_iff.mpr (.inl hm)
  · exact kept_iff.mpr (.inr ⟨p, ho⟩)

theorem Sound.alive_of_reaches (hs : s.Sound) (hheld : ∀ m ∈ held, s.alive m)
    (h : s.Reaches held n) : s.alive n := by
  obtain ⟨m, hm, hpath⟩ := h
  exact hs.alive_of_owns_path (hheld m hm) hpath

/-- Ways down stay where the cells on them do. -/
theorem Reaches.congr (hcells : ∀ n, s.Reaches held n → s'.get? n = s.get? n)
    (h : s.Reaches held n) : s'.Reaches held n := by
  obtain ⟨m, hm, hpath⟩ := h
  induction hpath with
  | refl => exact .of_held hm
  | @tail p c hpath ho ih =>
    refine ih.owns ?_
    rw [Owns, childList, hcells p ⟨m, hm, hpath⟩]
    exact ho

/-- Where nothing owns itself, a property that passes from the owners of a node to the node holds of every
node that is there. -/
theorem Acyclic.induction (h : s.Acyclic) {P : NodeId → Prop}
    (hstep : ∀ n, s.alive n → (∀ p, s.Owns p n → P p) → P n) (hn : s.alive n) : P n := by
  have hwf : WellFounded fun a b : Fin s.size => TransGen s.Owns a b := by
    have : IsTrans (Fin s.size) fun a b => TransGen s.Owns a b := ⟨fun _ _ _ => TransGen.trans⟩
    have : Std.Irrefl fun a b : Fin s.size => TransGen s.Owns a b := ⟨fun a => h a⟩
    exact Finite.wellFounded_of_trans_of_irrefl _
  suffices H : ∀ a : Fin s.size, s.alive a → P a from H ⟨n, lt_size_of_alive hn⟩ hn
  intro a
  induction a using hwf.induction with
  | _ a ih =>
    intro ha
    refine hstep a ha fun p hp => ?_
    have hpalive := alive_of_mem_childList hp
    exact ih ⟨p, lt_size_of_alive hpalive⟩ (.single hp) hpalive

theorem Settled.reaches (h : s.Settled held) (hacyclic : s.Acyclic) (hn : s.alive n) :
    s.Reaches held n := by
  refine hacyclic.induction (P := s.Reaches held) (fun m hm ih => ?_) hn
  rcases kept_iff.mp (h m hm) with hheld | ⟨p, hp⟩
  · exact .of_held hheld
  · exact (ih p hp).owns hp

/-! ## Reclaiming -/

theorem get?_sweep_of_reaches (h : s.Reaches held n) : (s.sweep held).get? n = s.get? n := by
  rw [get?_sweep, if_pos h.kept]

theorem get?_sweepTimes_of_reaches (rounds : Nat) (h : s.Reaches held n) :
    (sweepTimes held rounds s).get? n = s.get? n := by
  induction rounds generalizing s with
  | zero => rfl
  | succ rounds ih =>
    rw [sweepTimes]
    split
    · rw [ih (h.congr fun m hm => get?_sweep_of_reaches hm), get?_sweep_of_reaches h]
    · rfl

theorem get?_reclaim_of_reaches (h : s.Reaches held n) : (s.reclaim held).get? n = s.get? n :=
  get?_sweepTimes_of_reaches _ h

/-- What is left of a cell is the whole of it. -/
theorem get?_sweepTimes_of_alive {rounds : Nat} (h : (sweepTimes held rounds s).alive n) :
    (sweepTimes held rounds s).get? n = s.get? n := by
  induction rounds generalizing s with
  | zero => rfl
  | succ rounds ih =>
    rw [sweepTimes] at h ⊢
    split at h
    · rename_i hgarbage
      rw [if_pos hgarbage, ih h, get?_sweep_of_alive]
      rw [alive, ih h] at h
      exact h
    · rename_i hclean
      rw [if_neg hclean]

theorem get?_reclaim_of_alive (h : (s.reclaim held).alive n) :
    (s.reclaim held).get? n = s.get? n := get?_sweepTimes_of_alive h

theorem owns_reclaim (h : (s.reclaim held).Owns p n) : s.Owns p n := by
  rw [Owns, childList, get?_reclaim_of_alive (alive_of_mem_childList h)] at h
  exact h

theorem Acyclic.mono (h : s.Acyclic) (hsub : ∀ p n, s'.Owns p n → s.Owns p n) : s'.Acyclic :=
  fun n hn => h n (TransGen.mono hsub n n hn)

/-- Of a store in which nothing owns itself, what the held nodes lead down to is left. -/
theorem alive_reclaim_iff (hs : s.Sound) (hacyclic : s.Acyclic) (hheld : ∀ m ∈ held, s.alive m) :
    (s.reclaim held).alive n ↔ s.Reaches held n := by
  constructor
  · intro hn
    obtain ⟨m, hm, hpath⟩ :=
      (s.settled_reclaim held).reaches (hacyclic.mono fun _ _ => owns_reclaim) hn
    exact ⟨m, hm, ReflTransGen.mono (fun _ _ => owns_reclaim) m n hpath⟩
  · intro hn
    rw [alive, get?_reclaim_of_reaches hn]
    exact hs.alive_of_reaches hheld hn

/-- `s'` is what the nodes of `held` lead down to in `s`, cell by cell. -/
structure Remnant (s : Store) (held : List NodeId) (s' : Store) : Prop where
  alive_iff : ∀ {n}, s'.alive n ↔ s.Reaches held n
  cell : ∀ {n}, s.Reaches held n → s'.get? n = s.get? n

theorem remnant_reclaim (hs : s.Sound) (hacyclic : s.Acyclic) (hheld : ∀ m ∈ held, s.alive m) :
    s.Remnant held (s.reclaim held) :=
  ⟨alive_reclaim_iff hs hacyclic hheld, get?_reclaim_of_reaches⟩

namespace Remnant

theorem alive (h : s.Remnant held s') (hn : s.Reaches held n) : s.alive n := by
  have hleft := h.alive_iff.mpr hn
  rwa [Store.alive, h.cell hn] at hleft

theorem owns (h : s.Remnant held s') (ho : s'.Owns p n) : s.Owns p n := by
  have hp := h.alive_iff.mp (alive_of_mem_childList ho)
  rw [Owns, childList, h.cell hp] at ho
  exact ho

theorem reaches_iff (h : s.Remnant held s') {held' : List NodeId} (hsub : held' ⊆ held) :
    s'.Reaches held' n ↔ s.Reaches held' n := by
  constructor
  · rintro ⟨m, hm, hpath⟩
    exact ⟨m, hm, ReflTransGen.mono (fun _ _ => h.owns) m n hpath⟩
  · exact Reaches.congr fun m hm => h.cell (hm.mono hsub)

/-- Of what is left, what fewer nodes lead down to is left of the whole. -/
theorem trans (h : s.Remnant held s') {held' : List NodeId} {s'' : Store}
    (h' : s'.Remnant held' s'') (hsub : held' ⊆ held) : s.Remnant held' s'' where
  alive_iff := h'.alive_iff.trans (h.reaches_iff hsub)
  cell hn := (h'.cell ((h.reaches_iff hsub).mpr hn)).trans (h.cell (hn.mono hsub))

theorem acyclic (h : s.Remnant held s') (hacyclic : s.Acyclic) : s'.Acyclic :=
  hacyclic.mono fun _ _ => h.owns

/-- What is left has a parent if that is left as well. -/
theorem parent?_eq_some_iff (h : s.Remnant held s') (hn : s.Reaches held n) :
    s'.parent? n = some p ↔ s.parent? n = some p ∧ s.Reaches held p := by
  have hunder : s'.under? n = s.under? n := by rw [under?, under?, h.cell hn]
  rw [Store.parent?_eq_some_iff, Store.parent?_eq_some_iff, hunder, h.alive_iff]
  constructor
  · rintro ⟨hu, hp⟩
    exact ⟨⟨hu, h.alive hp⟩, hp⟩
  · rintro ⟨⟨hu, -⟩, hp⟩
    exact ⟨hu, hp⟩

end Remnant

/-! ## What is gone -/

theorem Move.gone {may : Store → NodeId → NodeId → Prop} (hmove : Move may s s') (h : s.Gone n) :
    s'.Gone n := by
  refine ⟨Nat.lt_of_lt_of_le h.1 hmove.size_le, fun hn => ?_⟩
  cases hmove with
  | add q =>
    rcases (alive_add q).mp hn with hn | rfl
    · exact h.2 hn
    · exact Nat.lt_irrefl _ h.1
  | write m what =>
    rw [alive_edit] at hn
    exact h.2 hn
  | put _ _ _ _ _ =>
    rw [putAt, alive_link] at hn
    exact h.2 hn
  | cut q _ =>
    rw [alive_relist] at hn
    exact h.2 hn
  | sweep held => exact h.2 (alive_sweep held |>.mp hn).1

theorem Moves.gone {may : Store → NodeId → NodeId → Prop} (hmoves : Moves may s s')
    (h : s.Gone n) : s'.Gone n := by
  induction hmoves with
  | refl => exact h
  | tail _ hmove ih => exact hmove.gone ih

end MarkTree.Store
