import MarkTree.Proofs.Store.Moves

/-!
# Agreement of lists and links

A store is *coherent* if every node that lists another one is that one's parent. Insertion takes a
node out of no list, so it keeps coherence only if no other node lists what is inserted
(`UnlistedElsewhere`); then a node has one owner at most. If what is inserted is listed by nobody
(`Unlisted`), no list repeats a node either.

Where lists and links agree, a way down is a way up walked backwards. The way up has no loops, so
nothing owns itself (`Coherent.acyclic`), and the check, which follows links alone, refuses whatever
would come to stand below itself (`LoopFree.insert_below_itself`).

The converse fails for nodes that were taken out of a list: they keep their link. A refusal is
justified by the lists, or the way up from the target passes over such a node
(`owns_or_detached_of_path`).
-/

namespace MarkTree.Store

open Relation (TransGen ReflTransGen)

variable {s s' : Store} {n m p t on : NodeId} {i : Nat} {place : Place}

/-- Every node that lists another one is that one's parent. -/
def Coherent (s : Store) : Prop := ∀ p n, s.Owns p n → s.Under n p

/-- No list of children repeats a node. -/
def NoRepeats (s : Store) : Prop := ∀ p, (s.childList p).Nodup

/-- No node but `t` lists `n`. -/
def UnlistedElsewhere (s : Store) (t n : NodeId) : Prop := ∀ p ∈ s.owners n, p = t

/-- No node lists `n`; what it is to be put under does not matter. -/
def Unlisted (s : Store) (_ n : NodeId) : Prop := s.owners n = []

instance (s : Store) (t n : NodeId) : Decidable (s.UnlistedElsewhere t n) :=
  inferInstanceAs (Decidable (∀ p ∈ s.owners n, p = t))

instance (s : Store) (t n : NodeId) : Decidable (s.Unlisted t n) :=
  inferInstanceAs (Decidable (s.owners n = []))

theorem Unlisted.elsewhere (h : s.Unlisted t n) : s.UnlistedElsewhere t n := by
  intro p hp
  rw [h] at hp
  exact absurd hp List.not_mem_nil

/-- `p` lists `n` and is its parent. -/
def OwnsLinked (s : Store) (p n : NodeId) : Prop := s.Owns p n ∧ s.Under n p

/-- The node under which a place seen from `on` lies. -/
def target? (s : Store) (place : Place) (on : NodeId) : Option NodeId :=
  (s.slot? place on).map Prod.fst

theorem target?_eq_some_iff : s.target? place on = some t ↔ ∃ i, s.slot? place on = some (t, i) := by
  simp [target?]

/-! ## Moves keep coherence -/

theorem coherent_empty : Coherent {} := fun p _ h =>
  absurd (alive_of_mem_childList h) (not_alive_empty p)

theorem noRepeats_empty : NoRepeats {} := by
  intro p
  rw [childList_eq_nil_of_not_alive (not_alive_empty p)]
  exact .nil

theorem Coherent.putAt (h : s.Coherent) (ht : s.alive t) (hn : s.alive n)
    (hi : i ≤ (s.childList t).length) (hm : s.UnlistedElsewhere t n) :
    (s.putAt t i n).Coherent := by
  intro p c hown
  rw [under_putAt_iff ht hn]
  rcases (owns_putAt_iff ht hi).mp hown with hold | ⟨rfl, rfl⟩
  · split
    · -- only `t` may have listed `n` before
      rename_i hc
      subst hc
      exact hm p (mem_owners_iff.mpr hold)
    · exact h p c hold
  · simp

theorem Coherent.move (hs : s.Sound) (hmove : Move UnlistedElsewhere s s') (h : s.Coherent) :
    s'.Coherent := by
  cases hmove with
  | add q =>
    intro p n hown
    rw [Owns, childList_add] at hown
    rw [Under, hs.parent?_add]
    exact h p n hown
  | write m what =>
    intro p n hown
    rw [Owns, childList_edit] at hown
    rw [Under, parent?_edit]
    exact h p n hown
  | put ht hn hi _ hm => exact h.putAt ht hn hi hm
  | cut q hf =>
    intro p n hown
    rw [Under, parent?_relist]
    exact h p n (owns_relist hf hown)
  | sweep held =>
    intro p n hown
    have hp := alive_of_mem_childList hown
    exact under_sweep_iff.mpr ⟨h p n (owns_sweep hown), alive_sweep_of_owns hs hown, hp⟩

theorem NoRepeats.move (hmove : Move Unlisted s s') (h : s.NoRepeats) : s'.NoRepeats := by
  intro p
  cases hmove with
  | add q =>
    rw [childList_add]
    exact h p
  | write m what =>
    rw [childList_edit]
    exact h p
  | @put t n i ht hn hi _ hm =>
    by_cases hp : p = t
    · subst hp
      have hnot : n ∉ s.childList p := owners_eq_nil_iff.mp hm p
      rw [Store.putAt, childList_link_self ht, (List.perm_insertIdx n _ hi).nodup_iff]
      exact List.nodup_cons.mpr ⟨hnot, h p⟩
    · rw [Store.putAt, childList_link_of_ne hp]
      exact h p
  | @cut q f hf =>
    by_cases ha : s.alive p
    · by_cases hp : p = q
      · subst hp
        rw [childList_relist_self ha]
        exact (h p).sublist hf
      · rw [childList_relist_of_ne hp]
        exact h p
    · rw [childList_eq_nil_of_not_alive (by simpa using ha)]
      exact .nil
  | sweep held =>
    by_cases ha : (s.sweep held).alive p
    · rw [childList_sweep_of_alive ha]
      exact h p
    · rw [childList_eq_nil_of_not_alive ha]
      exact .nil

/-! ## Ways down and ways up -/

theorem OwnsLinked.path_up (h : ReflTransGen s.OwnsLinked p n) : ReflTransGen s.Under n p := by
  induction h with
  | refl => exact .refl
  | tail _ hedge ih => exact .head hedge.2 ih

theorem OwnsLinked.transGen_up (h : TransGen s.OwnsLinked p n) : TransGen s.Under n p := by
  obtain ⟨m, hm, hedge⟩ := TransGen.tail'_iff.mp h
  exact .head' hedge.2 (OwnsLinked.path_up hm)

/-- Along listings that the links agree with, nothing owns itself. -/
theorem LoopFree.ownsLinked_acyclic (h : s.LoopFree) (n : NodeId) :
    ¬ TransGen s.OwnsLinked n n :=
  fun hn => h n (OwnsLinked.transGen_up hn)

theorem Coherent.ownsLinked (h : s.Coherent) : s.OwnsLinked = s.Owns := by
  ext p n
  exact ⟨fun ho => ho.1, fun ho => ⟨ho, h p n ho⟩⟩

theorem Coherent.acyclic (h : s.Coherent) (hl : s.LoopFree) (n : NodeId) :
    ¬ TransGen s.Owns n n := by
  rw [← h.ownsLinked]
  exact hl.ownsLinked_acyclic n

theorem Coherent.owner_unique (h : s.Coherent) {q : NodeId} (hp : s.Owns p n) (hq : s.Owns q n) :
    p = q :=
  Option.some.inj ((h p n hp).symm.trans (h q n hq))

theorem Coherent.target?_of_owns (h : s.Coherent) (ho : s.Owns p on) :
    s.target? .after on = some p ∧ s.target? .before on = some p := by
  obtain ⟨i, hi⟩ : ∃ i, (s.childList p).idxOf? on = some i := by
    rw [← Option.isSome_iff_exists, List.isSome_idxOf?]
    exact ho
  have hplace : s.place? on = some (p, i) := place?_eq_some_iff.mpr ⟨h p on ho, hi⟩
  simp [target?, slot?, hplace]

/-! ## What the check refuses -/

theorem insert_eq_error_iff_of_target? {e : EditError} (ht : s.target? place on = some t) :
    s.insert place on n = .error e ↔ s.checkInsert t n = .error e := by
  obtain ⟨i, hslot⟩ := target?_eq_some_iff.mp ht
  exact insert_eq_error_iff_of_slot? hslot

/-- Nodes that are no placeholders are refused if they stand on the way up from the target, and for no
other reason. -/
theorem insert_eq_cycle_iff_mem_ancestors (ht : s.target? place on = some t)
    (hpt : s.isPlaceholder t = false) (hpn : s.isPlaceholder n = false) :
    s.insert place on n = .error .cycle ↔ n = t ∨ n ∈ s.ancestors t := by
  rw [insert_eq_error_iff_of_target? ht, checkInsert_eq_cycle_iff]
  exact and_iff_right ⟨hpt, hpn⟩

theorem insert_of_placeholder (ht : s.target? place on = some t)
    (hp : s.isPlaceholder t = true ∨ s.isPlaceholder n = true) :
    s.insert place on n = .error .placeholder :=
  (insert_eq_error_iff_of_target? ht).mpr (checkInsert_of_placeholder hp)

/-- A node that listings and links lead down from, to the target, is refused. -/
theorem LoopFree.insert_below_itself (h : s.LoopFree) (ht : s.target? place on = some t)
    (hpath : ReflTransGen s.OwnsLinked n t) :
    s.insert place on n = .error .cycle ∨
      (s.isPlaceholder t = true ∨ s.isPlaceholder n = true) ∧
        s.insert place on n = .error .placeholder := by
  rcases s.ordinary_or_placeholder t n with ⟨hpt, hpn⟩ | hp
  · refine .inl ((insert_eq_cycle_iff_mem_ancestors ht hpt hpn).mpr ?_)
    rw [h.mem_ancestors_iff]
    exact Relation.reflTransGen_iff_eq_or_transGen.mp (OwnsLinked.path_up hpath)
  · exact .inr ⟨hp, insert_of_placeholder ht hp⟩

/-- A way up is a way down walked backwards, or passes over a node that its parent does not list. -/
theorem owns_or_detached_of_path (h : TransGen s.Under t n) :
    TransGen s.Owns n t ∨
      ∃ m q, ReflTransGen s.Under t m ∧ s.Under m q ∧ ¬ s.Owns q m ∧ ReflTransGen s.Under q n := by
  induction h with
  | @single q hq =>
    by_cases ho : s.Owns q t
    · exact .inl (.single ho)
    · exact .inr ⟨t, q, .refl, hq, ho, .refl⟩
  | @tail m q hpath hq ih =>
    rcases ih with hdown | ⟨m', q', hm', hq', ho, hup⟩
    · by_cases ho : s.Owns q m
      · exact .inl (.head ho hdown)
      · exact .inr ⟨m, q, hpath.to_reflTransGen, hq, ho, .refl⟩
    · exact .inr ⟨m', q', hm', hq', ho, hup.tail hq⟩

/-- In a coherent store the ancestors of a node are the nodes that it stands below, and those that it
stood below until a node on the way was taken out of a list. -/
theorem Coherent.mem_ancestors_iff (h : s.Coherent) (hl : s.LoopFree) :
    n ∈ s.ancestors t ↔ TransGen s.Owns n t ∨
      ∃ m q, (m = t ∨ m ∈ s.ancestors t) ∧ s.parent? m = some q ∧ m ∉ s.childList q ∧
        (n = q ∨ n ∈ s.ancestors q) := by
  simp only [hl.mem_ancestors_iff, ← Relation.reflTransGen_iff_eq_or_transGen]
  constructor
  · intro hn
    rcases owns_or_detached_of_path hn with hdown | ⟨m, q, hm, hq, ho, hup⟩
    · exact .inl hdown
    · exact .inr ⟨m, q, hm, hq, ho, hup⟩
  · rintro (hdown | ⟨m, q, hm, hq, -, hup⟩)
    · rw [← h.ownsLinked] at hdown
      exact OwnsLinked.transGen_up hdown
    · exact (TransGen.tail' hm hq).trans_left hup

end MarkTree.Store
