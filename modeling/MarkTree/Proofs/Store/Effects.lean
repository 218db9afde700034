import MarkTree.Proofs.Store.Placeholders

/-!
# What a change does

A change of shape writes one list and at most one link. An insertion beside a node, and a removal, find
their place by the first listing of the node, and find it before anything is written; so it does not
matter whether the inserted node stands in that list already, nor whether it is the very node that the
place is seen from (`insert_effect`, `remove_effect`, `clear_effect`).

All else is as it was (`AsBefore`). Reclaiming afterwards adds nothing to the change: what is left of the
store is left whole, and a parent that is gone is no parent (`AsBefore.reclaim`). After an insertion, or
the removal of a held node, there is nothing to reclaim (`Settled.insert`, `Settled.remove`).
-/

namespace MarkTree

namespace Store

variable {s s' : Store} {n m p t on : NodeId} {i : Nat} {place : Place} {held : List NodeId}
variable {listing : NodeId} {linked : Option NodeId}

/-- The node in whose list a place seen from `on` lies: `on` itself, or its parent. -/
def host? (s : Store) : Place → NodeId → Option NodeId
  | .last, on | .first, on => some on
  | .after, on | .before, on => s.parent? on

/-- The second list is the first with `n` put into a place seen from `on`. A place beside a node is one
beside its first listing. -/
inductive Spliced (on n : NodeId) : Place → List NodeId → List NodeId → Prop
  | last (l : List NodeId) : Spliced on n .last l (l ++ [n])
  | first (l : List NodeId) : Spliced on n .first l (n :: l)
  | after {front back : List NodeId} (h : on ∉ front) :
    Spliced on n .after (front ++ on :: back) (front ++ on :: n :: back)
  | before {front back : List NodeId} (h : on ∉ front) :
    Spliced on n .before (front ++ on :: back) (front ++ n :: on :: back)

/-- What is there in `s'` is as it was in `s`, but for the list of the node `listing` and the link of the
node `linked`. -/
structure AsBefore (s s' : Store) (listing : NodeId) (linked : Option NodeId) : Prop where
  alive : ∀ m, s'.alive m → s.alive m
  lists : ∀ m, s'.alive m → m ≠ listing → s'.childList m = s.childList m
  parents : ∀ m, s'.alive m → linked ≠ some m →
    ∀ q, s'.parent? m = some q ↔ s.parent? m = some q ∧ s'.alive q
  payloads : ∀ m, s'.alive m → s'.payload m = s.payload m

/-! ## The list that is written -/

theorem host?_of_slot? (h : s.slot? place on = some (t, i)) : s.host? place on = some t := by
  cases place with
  | last =>
    cases h
    rfl
  | first =>
    cases h
    rfl
  | after =>
    obtain ⟨⟨q, j⟩, hq, he⟩ := Option.map_eq_some_iff.mp h
    cases he
    exact (place?_eq_some_iff.mp hq).1
  | before => exact (place?_eq_some_iff.mp h).1

/-- Inserting at the position of a slot is putting into the place that the slot was found for. -/
theorem spliced_of_slot? (h : s.slot? place on = some (t, i)) (n : NodeId) :
    Spliced on n place (s.childList t) ((s.childList t).insertIdx i n) := by
  cases place with
  | last =>
    cases h
    rw [List.insertIdx_length_self]
    exact .last _
  | first =>
    cases h
    exact .first _
  | after =>
    obtain ⟨⟨q, j⟩, hq, he⟩ := Option.map_eq_some_iff.mp h
    cases he
    obtain ⟨front, back, hlist, hfront, rfl⟩ := split_of_place? hq
    rw [hlist, insertIdx_length_append]
    exact .after hfront
  | before =>
    obtain ⟨front, back, hlist, hfront, rfl⟩ := split_of_place? h
    have hinsert := insertIdx_length_append front (on :: back) n 0
    rw [Nat.add_zero] at hinsert
    rw [hlist, hinsert]
    exact .before hfront

/-! ## All else -/

theorem asBefore_putAt (s : Store) (t : NodeId) (i : Nat) (n : NodeId) :
    s.AsBefore (s.putAt t i n) t (some n) where
  alive m hm := by rwa [putAt, alive_link] at hm
  lists m _ hne := by rw [putAt, childList_link_of_ne hne]
  parents m hm hne q := by
    have hmn : m ≠ n := fun he => hne (congrArg some he.symm)
    rw [putAt, parent?_link_of_ne hmn, alive_link]
    exact (and_iff_left_of_imp parent?_alive).symm
  payloads m _ := s.payload_link t n _ m

theorem asBefore_relist (s : Store) (p : NodeId) (f : List NodeId → List NodeId) :
    s.AsBefore (s.relist p f) p none where
  alive m hm := by rwa [alive_relist] at hm
  lists m _ hne := childList_relist_of_ne hne f
  parents m _ _ q := by
    rw [parent?_relist, alive_relist]
    exact (and_iff_left_of_imp parent?_alive).symm
  payloads m _ := s.payload_relist p f m

/-- Reclaiming changes nothing but who is there. -/
theorem AsBefore.reclaim (h : s.AsBefore s' listing linked) (held : List NodeId) :
    s.AsBefore (s'.reclaim held) listing linked := by
  have hthere : ∀ m, (s'.reclaim held).alive m → s'.alive m := fun m hm => by
    rwa [Store.alive, get?_reclaim_of_alive hm] at hm
  refine ⟨fun m hm => h.alive m (hthere m hm), fun m hm hne => ?_, fun m hm hne q => ?_,
    fun m hm => ?_⟩
  · rw [childList, get?_reclaim_of_alive hm]
    exact h.lists m (hthere m hm) hne
  · have hunder : (s'.reclaim held).under? m = s'.under? m := by
      rw [under?, under?, get?_reclaim_of_alive hm]
    constructor
    · intro hq
      obtain ⟨hu, halive⟩ := parent?_eq_some_iff.mp hq
      rw [hunder] at hu
      have hold : s'.parent? m = some q := parent?_eq_some_iff.mpr ⟨hu, hthere q halive⟩
      exact ⟨((h.parents m (hthere m hm) hne q).mp hold).1, halive⟩
    · rintro ⟨hq, halive⟩
      have hnew := (h.parents m (hthere m hm) hne q).mpr ⟨hq, hthere q halive⟩
      rw [parent?_eq_some_iff, hunder]
      exact ⟨(parent?_eq_some_iff.mp hnew).1, halive⟩
  · rw [payload_reclaim_of_alive hm]
    exact h.payloads m (hthere m hm)

/-! ## The changes of shape -/

/-- An insertion puts the node into the place in the host's list, points its link to the host, and leaves
all else as it was. -/
theorem insert_effect (hon : s.alive on) (hn : s.alive n) (h : s.insert place on n = .ok s') :
    ∃ t, s.host? place on = some t ∧ Spliced on n place (s.childList t) (s'.childList t) ∧
      s'.parent? n = some t ∧ s.AsBefore s' t (some n) ∧ ∀ m, s'.alive m = s.alive m := by
  obtain ⟨t, i, hslot, -, rfl⟩ := insert_eq_ok_iff.mp h
  have ht : s.alive t := alive_of_slot? hon hslot
  refine ⟨t, host?_of_slot? hslot, ?_, ?_, s.asBefore_putAt t i n, fun m => ?_⟩
  · rw [putAt, childList_link_self ht]
    exact spliced_of_slot? hslot n
  · rw [putAt, parent?_link_self hn ht]
  · rw [putAt, alive_link]

/-- A removal takes the first listing out of the parent's list and leaves all else as it was. -/
theorem remove_effect (h : s.remove n = .ok s') :
    ∃ p front back, s.parent? n = some p ∧ s.childList p = front ++ n :: back ∧ n ∉ front ∧
      s'.childList p = front ++ back ∧ s.AsBefore s' p none ∧ ∀ m, s'.alive m = s.alive m := by
  obtain ⟨p, i, hplace, rfl⟩ := remove_eq_ok_iff.mp h
  obtain ⟨front, back, hlist, hfront, rfl⟩ := split_of_place? hplace
  have hparent : s.parent? n = some p := (place?_eq_some_iff.mp hplace).1
  refine ⟨p, front, back, hparent, hlist, hfront, ?_, s.asBefore_relist p _, s.alive_relist p _⟩
  rw [childList_relist_self (parent?_alive hparent), hlist, eraseIdx_length_append]

theorem clear_effect (hn : s.alive n) :
    (s.clear n).childList n = [] ∧ s.AsBefore (s.clear n) n none := by
  rw [clear_eq]
  exact ⟨childList_relist_self hn _, s.asBefore_relist n _⟩

/-! ## Nothing to reclaim -/

theorem Settled.mono (h : s.Settled held) (halive : ∀ m, s'.alive m = s.alive m)
    (howns : ∀ p m, s.Owns p m → m ∈ held ∨ ∃ q, s'.Owns q m) : s'.Settled held := by
  intro m hm
  rw [halive] at hm
  rcases kept_iff.mp (h m hm) with hheld | ⟨p, hp⟩
  · exact kept_iff.mpr (.inl hheld)
  · exact kept_iff.mpr (howns p m hp)

theorem Settled.insert (h : s.Settled held) (hon : s.alive on) (hins : s.insert place on n = .ok s') :
    s'.Settled held := by
  obtain ⟨t, i, hslot, -, rfl⟩ := insert_eq_ok_iff.mp hins
  refine h.mono (fun m => by rw [putAt, alive_link]) fun p m hp => .inr ⟨p, ?_⟩
  exact (owns_putAt_iff (alive_of_slot? hon hslot) (slot?_le_length hslot)).mpr (.inl hp)

/-- A node that is taken out while it is held takes nobody along. -/
theorem Settled.remove (h : s.Settled held) (hheld : n ∈ held) (hrem : s.remove n = .ok s') :
    s'.Settled held := by
  obtain ⟨t, front, back, -, hlist, -, hlist', hsame, halive⟩ := remove_effect hrem
  refine h.mono halive fun p m hp => ?_
  by_cases hm : m = n
  · exact .inl (hm ▸ hheld)
  · refine .inr ⟨p, ?_⟩
    by_cases hpt : p = t
    · subst hpt
      rw [Owns, hlist] at hp
      rw [Owns, hlist']
      simpa [hm] using hp
    · have hpalive : s'.alive p := by
        rw [halive]
        exact alive_of_mem_childList hp
      rw [Owns, hsame.lists p hpalive hpt]
      exact hp

end Store

end MarkTree
