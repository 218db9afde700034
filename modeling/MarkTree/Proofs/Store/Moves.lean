import MarkTree.Proofs.Store.Insertion

/-!
# Moves of a store

Whatever happens to a store is a sequence of five kinds of moves: a node is added, a payload is
written, a node is put under another one, a list of children loses entries, and a sweep empties
cells. A property that every move keeps holds throughout.

`Sound` is such a property: listed nodes are there, parent links lead to identities that were given
out, and no way up comes back. A sweep keeps it because what a node that stays lists is kept as
well; putting a node under a target keeps it because the check refuses whatever the target's way up
leads to, and by `mem_ancestors_iff` the check sees the whole of that way.

* `Move.sound`, `Moves.sound`: moves keep `Sound`.
-/

namespace MarkTree.Store

open Relation (TransGen ReflTransGen)

variable {s s' : Store} {n m p t : NodeId} {i : Nat}

/-- The links of a store can be followed. -/
structure Sound (s : Store) : Prop where
  alive_of_owns : ∀ {p n}, s.Owns p n → s.alive n
  under_lt : ∀ {n p}, s.under? n = some p → p < s.size
  loopFree : s.LoopFree

/-- One move; `may s t n` has to allow that `n` is put under `t`. -/
inductive Move (may : Store → NodeId → NodeId → Prop) : Store → Store → Prop
  | add {s : Store} (q : Payload) : Move may s (s.add q).2
  | write {s : Store} (n : NodeId) (what : PayloadWrite) : Move may s (s.edit n what.apply)
  | put {s : Store} {t n : NodeId} {i : Nat} (ht : s.alive t) (hn : s.alive n)
      (hi : i ≤ (s.childList t).length) (hc : s.checkInsert t n = .ok ()) (hm : may s t n) :
      Move may s (s.putAt t i n)
  | cut {s : Store} (p : NodeId) {f : List NodeId → List NodeId}
      (hf : (f (s.childList p)).Sublist (s.childList p)) : Move may s (s.relist p f)
  | sweep {s : Store} (held : List NodeId) : Move may s (s.sweep held)

/-- Any number of moves. -/
abbrev Moves (may : Store → NodeId → NodeId → Prop) : Store → Store → Prop := ReflTransGen (Move may)

/-! ## Owners and parents after a move -/

theorem owns_putAt_iff (ht : s.alive t) (hi : i ≤ (s.childList t).length) :
    (s.putAt t i n).Owns p m ↔ s.Owns p m ∨ p = t ∧ m = n := by
  unfold Owns putAt
  by_cases hp : p = t
  · subst hp
    rw [childList_link_self ht, List.mem_insertIdx hi]
    simp [or_comm]
  · rw [childList_link_of_ne hp]
    simp [hp]

theorem under_putAt_iff (ht : s.alive t) (hn : s.alive n) :
    (s.putAt t i n).Under m p ↔ if m = n then p = t else s.Under m p := by
  unfold Under putAt
  split
  · rename_i hm
    subst hm
    rw [parent?_link_self hn ht, Option.some.injEq, eq_comm]
  · rename_i hm
    rw [parent?_link_of_ne hm]

theorem owns_relist {f : List NodeId → List NodeId}
    (hf : (f (s.childList p)).Sublist (s.childList p)) (h : (s.relist p f).Owns m n) :
    s.Owns m n := by
  unfold Owns at h ⊢
  by_cases hm : m = p
  · subst hm
    by_cases ha : s.alive m
    · rw [childList_relist_self ha] at h
      exact hf.subset h
    · rw [childList_eq_nil_of_not_alive (by simpa using ha)] at h
      exact absurd h List.not_mem_nil
  · rwa [childList_relist_of_ne hm] at h

theorem owns_sweep {held : List NodeId} (h : (s.sweep held).Owns p n) : s.Owns p n := by
  unfold Owns at h ⊢
  rwa [childList_sweep_of_alive (alive_of_mem_childList h)] at h

theorem under_sweep_iff {held : List NodeId} :
    (s.sweep held).Under n p ↔
      s.Under n p ∧ (s.sweep held).alive n ∧ (s.sweep held).alive p := by
  unfold Under
  rw [parent?_eq_some_iff, parent?_eq_some_iff]
  constructor
  · rintro ⟨hu, hp⟩
    have hn := alive_of_under? hu
    rw [under?_sweep_of_alive hn] at hu
    exact ⟨⟨hu, (alive_sweep held |>.mp hp).1⟩, hn, hp⟩
  · rintro ⟨⟨hu, -⟩, hn, hp⟩
    rw [under?_sweep_of_alive hn]
    exact ⟨hu, hp⟩

/-- What a node that stays lists is kept as well. -/
theorem alive_sweep_of_owns (hs : s.Sound) {held : List NodeId} (h : (s.sweep held).Owns p n) :
    (s.sweep held).alive n := by
  have hold := owns_sweep h
  have hlisted : s.listed n := listed_iff.mpr ⟨p, hold⟩
  exact alive_sweep held |>.mpr ⟨hs.alive_of_owns hold, by simp [kept, hlisted]⟩

theorem Sound.parent?_add (hs : s.Sound) (q : Payload) (n : NodeId) :
    (s.add q).2.parent? n = s.parent? n := by
  refine Option.ext fun p => ?_
  rw [parent?_eq_some_iff, parent?_eq_some_iff, under?_add, alive_add]
  constructor
  · rintro ⟨hu, hp | rfl⟩
    · exact ⟨hu, hp⟩
    · exact absurd (hs.under_lt hu) (Nat.lt_irrefl _)
  · rintro ⟨hu, hp⟩
    exact ⟨hu, .inl hp⟩

/-! ## Moves keep a store sound -/

theorem LoopFree.mono (h : s.LoopFree) (hsub : ∀ n p, s'.Under n p → s.Under n p) : s'.LoopFree :=
  fun n hn => h n (TransGen.mono hsub n n hn)

theorem sound_empty : Sound {} where
  alive_of_owns h := absurd (alive_of_mem_childList h) (not_alive_empty _)
  under_lt h := absurd (alive_of_under? h) (not_alive_empty _)
  loopFree n h := by
    obtain ⟨p, hp, -⟩ := TransGen.head'_iff.mp h
    exact not_alive_empty n (alive_of_parent? hp)

theorem Sound.add (hs : s.Sound) (q : Payload) : (s.add q).2.Sound where
  alive_of_owns h := by
    rw [Owns, childList_add] at h
    exact (alive_add q).mpr (.inl (hs.alive_of_owns h))
  under_lt h := by
    rw [under?_add] at h
    rw [size_add]
    exact Nat.lt_succ_of_lt (hs.under_lt h)
  loopFree := hs.loopFree.mono fun n p h => by rwa [Under, hs.parent?_add] at h

theorem Sound.edit (hs : s.Sound) (n : NodeId) (f : Payload → Payload) : (s.edit n f).Sound where
  alive_of_owns h := by
    rw [Owns, childList_edit] at h
    rw [alive_edit]
    exact hs.alive_of_owns h
  under_lt h := by
    rw [under?_edit] at h
    rw [size_edit]
    exact hs.under_lt h
  loopFree := hs.loopFree.mono fun m p h => by rwa [Under, parent?_edit] at h

theorem Sound.relist (hs : s.Sound) {f : List NodeId → List NodeId}
    (hf : (f (s.childList p)).Sublist (s.childList p)) : (s.relist p f).Sound where
  alive_of_owns h := by
    rw [alive_relist]
    exact hs.alive_of_owns (owns_relist hf h)
  under_lt h := by
    rw [under?_relist] at h
    rw [size_relist]
    exact hs.under_lt h
  loopFree := hs.loopFree.mono fun m q h => by rwa [Under, parent?_relist] at h

theorem Sound.sweep (hs : s.Sound) (held : List NodeId) : (s.sweep held).Sound where
  alive_of_owns h := alive_sweep_of_owns hs h
  under_lt h := by
    rw [under?_sweep_of_alive (alive_of_under? h)] at h
    rw [size_sweep]
    exact hs.under_lt h
  loopFree := hs.loopFree.mono fun _ _ h => (under_sweep_iff.mp h).1

/-- A new loop would pass over the new link, and then the way up from the target would lead to the
node that is put under it. -/
theorem Sound.loopFree_putAt (hs : s.Sound) (ht : s.alive t) (hn : s.alive n)
    (hc : s.checkInsert t n = .ok ()) : (s.putAt t i n).LoopFree := by
  intro m hm
  have hsplit : ∀ a b, (s.putAt t i n).Under a b → s.Under a b ∨ a = n ∧ b = t := by
    intro a b hab
    rw [under_putAt_iff ht hn] at hab
    split at hab
    · exact .inr ⟨‹_›, hab⟩
    · exact .inl hab
  rcases transGen_through hsplit hm with hold | ⟨hmn, htm⟩
  · exact hs.loopFree m hold
  · -- old links lead from `t` to `m` and from `m` to `n`, all of which the check has seen
    obtain ⟨-, hne, hnot⟩ := checkInsert_eq_ok_iff.mp hc
    rw [hs.loopFree.mem_ancestors_iff] at hnot
    rcases Relation.reflTransGen_iff_eq_or_transGen.mp (htm.trans hmn) with he | hpath
    · exact hne he
    · exact hnot hpath

theorem Sound.putAt (hs : s.Sound) (ht : s.alive t) (hn : s.alive n)
    (hi : i ≤ (s.childList t).length) (hc : s.checkInsert t n = .ok ()) : (s.putAt t i n).Sound where
  alive_of_owns h := by
    rw [Store.putAt, alive_link]
    rcases (owns_putAt_iff ht hi).mp h with hold | ⟨-, rfl⟩
    · exact hs.alive_of_owns hold
    · exact hn
  under_lt {m p} h := by
    rw [Store.putAt] at h ⊢
    rw [size_link]
    by_cases hm : m = n
    · subst hm
      rw [under?_link_self hn] at h
      obtain rfl := Option.some.inj h
      exact lt_size_of_alive ht
    · rw [under?_link_of_ne hm] at h
      exact hs.under_lt h
  loopFree := hs.loopFree_putAt ht hn hc

theorem Move.sound {may : Store → NodeId → NodeId → Prop} (h : Move may s s') (hs : s.Sound) :
    s'.Sound := by
  cases h with
  | add q => exact hs.add q
  | write n what => exact hs.edit n _
  | put ht hn hi hc _ => exact hs.putAt ht hn hi hc
  | cut p hf => exact hs.relist hf
  | sweep held => exact hs.sweep held

/-- No identity is given back. -/
theorem Move.size_le {may : Store → NodeId → NodeId → Prop} (h : Move may s s') :
    s.size ≤ s'.size := by
  cases h with
  | add q => simp
  | write n what => simp
  | put ht hn hi hc _ => simp [Store.putAt]
  | cut p hf => simp
  | sweep held => simp

theorem Moves.size_le {may : Store → NodeId → NodeId → Prop} (h : Moves may s s') :
    s.size ≤ s'.size := by
  induction h with
  | refl => exact Nat.le_refl _
  | tail _ hstep ih => exact Nat.le_trans ih hstep.size_le

/-- What every move from a sound store keeps, any number of moves keeps. -/
theorem Moves.keep {may : Store → NodeId → NodeId → Prop} {I : Store → Prop}
    (hI : ∀ {s s'}, s.Sound → Move may s s' → I s → I s') (h : Moves may s s') (hs : s.Sound)
    (h0 : I s) : s'.Sound ∧ I s' := by
  induction h with
  | refl => exact ⟨hs, h0⟩
  | tail _ hstep ih => exact ⟨hstep.sound ih.1, hI ih.1 hstep ih.2⟩

theorem Moves.sound {may : Store → NodeId → NodeId → Prop} (h : Moves may s s') (hs : s.Sound) :
    s'.Sound :=
  (h.keep (I := fun _ => True) (fun _ _ _ => trivial) hs trivial).1

end MarkTree.Store
