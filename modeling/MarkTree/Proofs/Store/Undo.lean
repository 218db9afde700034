import MarkTree.Proofs.Store.Effects
import MarkTree.Proofs.Store.Families
import MarkTree.Proofs.Store.Refusals

/-!
# Undoing a change of shape

An insertion and a removal write one list, and an insertion one link besides. Two writes of one list are one
write (`relist_relist`), so an insertion at the position that a removal has left gives the list back, and a
removal at the position of an insertion does the same. The link differs: a removal keeps it, and an insertion
under the old parent writes what it says already (`relink_of_under?`).

* `Stands.insert_of_remove`: a node that was taken out is put back from each of the places that it stood in.
  The check lets it pass, since the way up from the parent cannot lead to the node.
* `remove_of_insert`: of an insertion that is taken back, the link is left.
-/

namespace MarkTree.Store

variable {s s' : Store} {n p t o : NodeId} {i : Nat} {place : Place} {front back : List NodeId}

/-- Where `n` stands among the children of `p`: a place, and the node from which it is seen. -/
inductive Stands (s : Store) (p n : NodeId) : Place → NodeId → Prop
  | last {front : List NodeId} (h : s.childList p = front ++ [n]) : Stands s p n .last p
  | first {back : List NodeId} (h : s.childList p = n :: back) : Stands s p n .first p
  | after {front back : List NodeId} {o : NodeId} (h : s.childList p = front ++ o :: n :: back) :
    Stands s p n .after o
  | before {front back : List NodeId} {o : NodeId} (h : s.childList p = front ++ n :: o :: back) :
    Stands s p n .before o

/-! ## Writes that meet -/

theorem relist_relist (s : Store) (p : NodeId) (f g : List NodeId → List NodeId) :
    (s.relist p f).relist p g = s.relist p (g ∘ f) := by
  refine ext_get? (by simp) fun m => ?_
  simp only [relist, get?_modify]
  split
  · rw [Option.map_map]
    rfl
  · rfl

theorem relist_of_eq {f : List NodeId → List NodeId} (h : f (s.childList p) = s.childList p) :
    s.relist p f = s := by
  refine ext_get? (s.size_relist p f) fun m => ?_
  rw [relist, get?_modify]
  split
  · rename_i hm
    subst hm
    cases hc : s.get? p with
    | none => rfl
    | some cell =>
      have hchildren : s.childList p = cell.children := by simp [childList, hc]
      rw [hchildren] at h
      simp [h]
  · rfl

theorem relink_of_under? (h : s.under? n = some t) : s.relink n t = s := by
  refine ext_get? (s.size_relink n t) fun m => ?_
  rw [relink, get?_modify]
  split
  · rename_i hm
    subst hm
    obtain ⟨cell, hc⟩ := alive_iff.mp (alive_of_under? h)
    have hparent : cell.parent = some t := by simpa [under?, hc] using h
    simp [hc, ← hparent]
  · rfl

/-- A list and a link are written in any order. -/
theorem relink_relist (s : Store) (p : NodeId) (f : List NodeId → List NodeId) (n t : NodeId) :
    (s.relist p f).relink n t = (s.relink n t).relist p f := by
  refine ext_get? (by simp) fun m => ?_
  simp only [relist, relink, get?_modify]
  by_cases hn : n = m <;> by_cases hp : p = m <;> simp [hn, hp, Function.comp_def]

/-! ## A node that was taken out -/

theorem place?_of_split (hp : s.Under n p) (hlist : s.childList p = front ++ n :: back)
    (hn : n ∉ front) : s.place? n = some (p, front.length) := by
  refine place?_eq_some_iff.mpr ⟨hp, List.idxOf?_eq_some_iff.mpr ⟨?_, ?_, ?_⟩⟩
  · simp [hlist]
  · simp [hlist]
  · intro j hj he
    simp only [hlist, List.getElem_append_left hj] at he
    exact hn (he ▸ List.getElem_mem hj)

/-- A node may always be put under the parent that it has. -/
theorem LoopFree.checkInsert_of_under (h : s.LoopFree) (ha : s.Apart) (hp : s.Under n p) :
    s.checkInsert p n = .ok () := by
  refine checkInsert_eq_ok_iff.mpr ⟨ha.ordinary_of_under hp, ?_, ?_⟩
  · rintro rfl
    exact h n (.single hp)
  · intro habove
    exact h n (.head hp (h.mem_ancestors_iff.mp habove))

theorem checkInsert_relist (s : Store) (q : NodeId) (f : List NodeId → List NodeId) (p n : NodeId) :
    (s.relist q f).checkInsert p n = s.checkInsert p n := by
  have habove : (s.relist q f).ancestors p = s.ancestors p := s.ancestorsWhile_relist q f .any p
  rw [checkInsert, checkInsert, isPlaceholder_relist, isPlaceholder_relist, habove]

/-- Putting a node back where its list had it undoes its removal. -/
theorem putAt_relist (hu : s.under? n = some p) (hlist : s.childList p = front ++ n :: back) :
    (s.relist p (·.eraseIdx front.length)).putAt p front.length n = s := by
  rw [putAt, link_eq, relink_relist, relink_of_under? hu, relist_relist]
  refine relist_of_eq ?_
  have hmore := insertIdx_length_append front back n 0
  rw [Nat.add_zero, List.insertIdx_zero] at hmore
  rw [hlist, Function.comp_apply, eraseIdx_length_append, hmore]

theorem childList_relist_eraseIdx (hp : s.alive p) (hlist : s.childList p = front ++ n :: back) :
    (s.relist p (·.eraseIdx front.length)).childList p = front ++ back := by
  rw [childList_relist_self hp, hlist, eraseIdx_length_append]

/-- When a node has been taken out, the places that it stood in are seen to be where it stood. -/
theorem Stands.slot? (hstands : s.Stands p n place o) (h : s.Coherent) (hr : s.NoRepeats)
    (hlist : s.childList p = front ++ n :: back) :
    (s.relist p (·.eraseIdx front.length)).slot? place o = some (p, front.length) := by
  have hnodup : (front ++ n :: back).Nodup := hlist ▸ hr p
  have hp : s.alive p := alive_of_mem_childList (c := n) (by simp [hlist])
  have hrest := childList_relist_eraseIdx hp hlist
  have hplace : ∀ {u v}, front ++ back = u ++ o :: v → o ∈ s.childList p →
      (s.relist p (·.eraseIdx front.length)).place? o = some (p, u.length) := by
    intro u v hsplit ho
    have hunder : (s.relist p (·.eraseIdx front.length)).Under o p := by
      rw [Under, parent?_relist]
      exact h p o ho
    refine place?_of_split hunder (hrest.trans hsplit) fun hu => ?_
    have hsub : (front ++ back).Sublist (front ++ n :: back) := by simp
    have hfew : (u ++ o :: v).Nodup := hsplit ▸ hnodup.sublist hsub
    exact (List.nodup_append.mp hfew).2.2 o hu o List.mem_cons_self rfl
  cases hstands with
  | @last u he =>
    obtain ⟨rfl, rfl⟩ := split_unique hnodup (hlist.symm.trans he)
    rw [Store.slot?, hrest, List.append_nil]
  | @first v he =>
    have hsplit : front ++ n :: back = [] ++ n :: v := hlist.symm.trans he
    obtain ⟨rfl, rfl⟩ := split_unique hnodup hsplit
    rfl
  | @after u v _ he =>
    have hsplit : front ++ n :: back = (u ++ [o]) ++ n :: v := by
      rw [← hlist, he, List.append_assoc, List.singleton_append]
    obtain ⟨rfl, rfl⟩ := split_unique hnodup hsplit
    rw [Store.slot?, hplace (u := u) (v := back) (by simp) (by simp [hlist]), Option.map_some,
      List.length_append, List.length_singleton]
  | @before u v _ he =>
    obtain ⟨rfl, rfl⟩ := split_unique hnodup (hlist.symm.trans he)
    exact hplace (u := front) (v := v) rfl (by simp [hlist])

/-- A listed node can be taken out once. It is put back from each of the places that it stood in, and then
the store is as it was. -/
theorem exists_remove_of_owns (hs : s.Sound) (ha : s.Apart) (h : s.Coherent) (hr : s.NoRepeats)
    (hn : s.Owns p n) :
    ∃ s', s.remove n = .ok s' ∧ s'.remove n = .error .notListed ∧
      ∀ place o, s.Stands p n place o → s'.insert place o n = .ok s := by
  have hp : s.Under n p := h p n hn
  obtain ⟨front, back, hlist⟩ := List.append_of_mem hn
  have hnodup : (front ++ n :: back).Nodup := hlist ▸ hr p
  have hfront : n ∉ front := fun hmem =>
    (List.nodup_append.mp hnodup).2.2 n hmem n List.mem_cons_self rfl
  have hback : n ∉ back := (List.nodup_cons.mp (List.nodup_append.mp hnodup).2.1).1
  have hrest := childList_relist_eraseIdx (parent?_alive hp) hlist
  refine ⟨s.relist p (·.eraseIdx front.length), ?_, ?_, ?_⟩
  · exact remove_eq_ok_iff.mpr ⟨p, _, place?_of_split hp hlist hfront, rfl⟩
  · rw [remove_eq_error_iff, attached_eq_notListed_iff]
    refine ⟨p, by rwa [Under, parent?_relist], ?_⟩
    rw [Owns, hrest, List.mem_append]
    rintro (hmem | hmem)
    · exact hfront hmem
    · exact hback hmem
  · intro place o hstands
    refine insert_eq_ok_iff.mpr ⟨p, _, hstands.slot? h hr hlist, ?_, ?_⟩
    · rw [checkInsert_relist]
      exact hs.loopFree.checkInsert_of_under ha hp
    · exact (putAt_relist (parent?_eq_some_iff.mp hp).1 hlist).symm

/-! ## A node that was put in -/

/-- A node that nobody listed can be taken out again, and then its link alone has changed. -/
theorem remove_of_insert (ho : s.alive o) (hn : s.alive n) (hnew : ∀ q, ¬ s.Owns q n)
    (hins : s.insert place o n = .ok s') :
    ∃ t, s.host? place o = some t ∧ s'.remove n = .ok (s.relink n t) := by
  obtain ⟨t, i, hslot, -, rfl⟩ := insert_eq_ok_iff.mp hins
  have ht : s.alive t := alive_of_slot? ho hslot
  have hi := slot?_le_length hslot
  refine ⟨t, host?_of_slot? hslot, remove_eq_ok_iff.mpr ⟨t, i, ?_, ?_⟩⟩
  · have hlist : (s.putAt t i n).childList t =
        (s.childList t).take i ++ n :: (s.childList t).drop i := by
      have hmore := insertIdx_length_append ((s.childList t).take i) ((s.childList t).drop i) n 0
      rw [List.take_append_drop, List.length_take_of_le hi, Nat.add_zero, List.insertIdx_zero] at hmore
      rw [putAt, childList_link_self ht, hmore]
    have hfront : n ∉ (s.childList t).take i := fun hmem => hnew t (List.mem_of_mem_take hmem)
    have hplace := place?_of_split (parent?_link_self hn ht _) hlist hfront
    rwa [List.length_take_of_le hi] at hplace
  · rw [putAt, link_eq, relist_relist]
    refine (relist_of_eq ?_).symm
    exact List.eraseIdx_insertIdx_self n

end MarkTree.Store
