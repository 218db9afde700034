import MarkTree.Proofs.Store.Paths

/-!
# Insertion and removal

An insertion first finds a slot, a node together with a position in its list, then checks whether
the inserted node may stand under that node, and then links the two. The four places differ in how
they find the slot and in nothing else.

* `insert_of_slot?`, `insert_of_slot?_eq_none`: an insertion in terms of its slot.
* `checkInsert_eq_ok_iff`, `checkInsert_eq_cycle_iff`, `checkInsert_eq_placeholder_iff`: when an
  insertion is accepted, and why it is refused.
-/

namespace MarkTree.Store

variable {s s' : Store} {n m p t on : NodeId} {i : Nat} {place : Place}

/-- A store is known by its size and its cells. -/
theorem ext_get? (hsize : s'.size = s.size) (h : ∀ n, s'.get? n = s.get? n) : s' = s := by
  obtain ⟨cells⟩ := s
  obtain ⟨cells'⟩ := s'
  have hcells : cells' = cells := by
    refine Array.ext hsize fun i hi hi' => ?_
    simpa [get?, hi, hi'] using h i
  rw [hcells]

theorem link_congr {f g : List NodeId → List NodeId} (h : f (s.childList t) = g (s.childList t))
    (n : NodeId) : s.link t n f = s.link t n g := by
  refine ext_get? (by simp) fun m => ?_
  rw [link_eq, link_eq, relist, relist, get?_modify, get?_modify]
  split
  · rename_i hm
    subst hm
    rw [← childList_relink s n t t] at h
    cases hc : (s.relink n t).get? t with
    | none => rfl
    | some cell =>
      have hl : (s.relink n t).childList t = cell.children := by simp [childList, hc]
      rw [hl] at h
      simp [h]
  · rfl

/-! ## Places -/

theorem place?_eq_some_iff :
    s.place? n = some (p, i) ↔ s.parent? n = some p ∧ (s.childList p).idxOf? n = some i := by
  simp only [place?, Option.bind_eq_bind, Option.bind_eq_some_iff, Option.pure_def,
    Option.some.injEq, Prod.mk.injEq]
  constructor
  · rintro ⟨q, hq, j, hj, rfl, rfl⟩
    exact ⟨hq, hj⟩
  · rintro ⟨hp, hi⟩
    exact ⟨p, hp, i, hi, rfl, rfl⟩

theorem lt_length_of_place? (h : s.place? n = some (p, i)) : i < (s.childList p).length := by
  obtain ⟨-, hi⟩ := place?_eq_some_iff.mp h
  rw [List.idxOf?_eq_some_iff] at hi
  exact hi.1

/-- A node stands in its family at its first listing. -/
theorem split_of_place? (h : s.place? n = some (p, i)) :
    ∃ front back, s.childList p = front ++ n :: back ∧ n ∉ front ∧ i = front.length := by
  obtain ⟨hi, he, hbefore⟩ := List.idxOf?_eq_some_iff.mp (place?_eq_some_iff.mp h).2
  refine ⟨(s.childList p).take i, (s.childList p).drop (i + 1), ?_, fun hmem => ?_, ?_⟩
  · conv_rhs => rw [← he]
    rw [List.getElem_cons_drop, List.take_append_drop]
  · obtain ⟨j, hj, hn⟩ := List.mem_take_iff_getElem.mp hmem
    exact hbefore j (by omega) hn
  · rw [List.length_take_of_le (Nat.le_of_lt hi)]

theorem attached_of_place? (h : s.place? n = some (p, i)) : s.attached n = .ok (p, i) := by
  obtain ⟨hp, hi⟩ := place?_eq_some_iff.mp h
  simp [attached, hp, hi]

theorem attached_of_place?_eq_none (h : s.place? n = none) :
    s.attached n = .error .noParent ∨ s.attached n = .error .notListed := by
  unfold attached
  cases hp : s.parent? n with
  | none => exact .inl rfl
  | some p =>
    cases hi : (s.childList p).idxOf? n with
    | none => exact .inr (by simp [hi])
    | some i =>
      rw [place?_eq_some_iff.mpr ⟨hp, hi⟩] at h
      cases h

theorem slot?_le_length (h : s.slot? place on = some (t, i)) : i ≤ (s.childList t).length := by
  cases place with
  | last =>
    cases h
    exact Nat.le_refl _
  | first =>
    cases h
    exact Nat.zero_le _
  | after =>
    obtain ⟨⟨q, j⟩, hq, he⟩ := Option.map_eq_some_iff.mp h
    cases he
    exact lt_length_of_place? hq
  | before => exact Nat.le_of_lt (lt_length_of_place? h)

theorem alive_of_slot? (hon : s.alive on) (h : s.slot? place on = some (t, i)) : s.alive t := by
  cases place with
  | last =>
    cases h
    exact hon
  | first =>
    cases h
    exact hon
  | after =>
    obtain ⟨⟨q, j⟩, hq, he⟩ := Option.map_eq_some_iff.mp h
    cases he
    exact parent?_alive (place?_eq_some_iff.mp hq).1
  | before => exact parent?_alive (place?_eq_some_iff.mp h).1

/-! ## The check -/

theorem checkInsert_of_placeholder (h : s.isPlaceholder t = true ∨ s.isPlaceholder n = true) :
    s.checkInsert t n = .error .placeholder := by
  rw [checkInsert, if_pos (by simpa using h)]

theorem checkInsert_of_ordinary (ht : s.isPlaceholder t = false) (hn : s.isPlaceholder n = false) :
    s.checkInsert t n = if n = t ∨ n ∈ s.ancestors t then .error .cycle else .ok () := by
  rw [checkInsert, if_neg (by simp [ht, hn])]
  simp

/-- Whether two nodes are placeholders decides which rule of the check applies. -/
theorem ordinary_or_placeholder (s : Store) (t n : NodeId) :
    (s.isPlaceholder t = false ∧ s.isPlaceholder n = false) ∨
      (s.isPlaceholder t = true ∨ s.isPlaceholder n = true) := by
  cases s.isPlaceholder t <;> cases s.isPlaceholder n <;> simp

theorem checkInsert_eq_ok_iff :
    s.checkInsert t n = .ok () ↔
      (s.isPlaceholder t = false ∧ s.isPlaceholder n = false) ∧ n ≠ t ∧ n ∉ s.ancestors t := by
  rcases s.ordinary_or_placeholder t n with ⟨ht, hn⟩ | h
  · rw [checkInsert_of_ordinary ht hn, and_iff_right ⟨ht, hn⟩, ne_eq, ← not_or]
    split <;> simp [*]
  · rw [checkInsert_of_placeholder h]
    rcases h with h | h <;> simp [h]

theorem checkInsert_eq_cycle_iff :
    s.checkInsert t n = .error .cycle ↔
      (s.isPlaceholder t = false ∧ s.isPlaceholder n = false) ∧ (n = t ∨ n ∈ s.ancestors t) := by
  rcases s.ordinary_or_placeholder t n with ⟨ht, hn⟩ | h
  · rw [checkInsert_of_ordinary ht hn, and_iff_right ⟨ht, hn⟩]
    split <;> simp [*]
  · rw [checkInsert_of_placeholder h]
    rcases h with h | h <;> simp [h]

theorem checkInsert_eq_placeholder_iff :
    s.checkInsert t n = .error .placeholder ↔
      s.isPlaceholder t = true ∨ s.isPlaceholder n = true := by
  rcases s.ordinary_or_placeholder t n with ⟨ht, hn⟩ | h
  · rw [checkInsert_of_ordinary ht hn]
    split <;> simp [ht, hn]
  · exact iff_of_true (checkInsert_of_placeholder h) h

/-! ## The insertion as a whole -/

theorem insert_of_slot? (h : s.slot? place on = some (t, i)) (n : NodeId) :
    s.insert place on n = (s.checkInsert t n).map fun _ => s.putAt t i n := by
  have hmap : ∀ (x : Except EditError Unit) (r : Store), (do x; return r) = x.map fun _ => r := by
    intro x r
    cases x <;> rfl
  cases place with
  | last =>
    cases h
    have hl : s.link t n (· ++ [n]) = s.putAt t (s.childList t).length n :=
      link_congr (by simp) n
    rw [insert, append, hmap, hl]
  | first =>
    cases h
    exact hmap _ _
  | after =>
    obtain ⟨⟨q, j⟩, hq, he⟩ := Option.map_eq_some_iff.mp h
    cases he
    rw [insert, insertAfter, attached_of_place? hq]
    exact hmap _ _
  | before =>
    rw [insert, insertBefore, attached_of_place? h]
    exact hmap _ _

theorem insert_of_slot?_eq_none (h : s.slot? place on = none) (n : NodeId) :
    s.insert place on n = .error .noParent ∨ s.insert place on n = .error .notListed := by
  cases place with
  | last => cases h
  | first => cases h
  | after =>
    have hq : s.place? on = none := Option.map_eq_none_iff.mp h
    rw [insert, insertAfter]
    rcases attached_of_place?_eq_none hq with he | he
    · exact .inl (by rw [he]; rfl)
    · exact .inr (by rw [he]; rfl)
  | before =>
    rw [insert, insertBefore]
    rcases attached_of_place?_eq_none h with he | he
    · exact .inl (by rw [he]; rfl)
    · exact .inr (by rw [he]; rfl)

/-- An insertion that is carried out has a slot, and the check has been passed. -/
theorem insert_eq_ok_iff :
    s.insert place on n = .ok s' ↔
      ∃ t i, s.slot? place on = some (t, i) ∧ s.checkInsert t n = .ok () ∧ s' = s.putAt t i n := by
  cases h : s.slot? place on with
  | none => rcases insert_of_slot?_eq_none h n with he | he <;> simp [he]
  | some q =>
    obtain ⟨t, i⟩ := q
    rw [insert_of_slot? h]
    cases hc : s.checkInsert t n with
    | error e => simp [Except.map, hc]
    | ok u => simp [Except.map, hc, eq_comm]

/-- With a slot there is only the check to refuse an insertion. -/
theorem insert_eq_error_iff_of_slot? {e : EditError} (h : s.slot? place on = some (t, i)) :
    s.insert place on n = .error e ↔ s.checkInsert t n = .error e := by
  rw [insert_of_slot? h]
  cases s.checkInsert t n with
  | error e' => simp [Except.map]
  | ok u => simp [Except.map]

/-! ## Removal -/

theorem remove_eq_ok_iff :
    s.remove n = .ok s' ↔ ∃ p i, s.place? n = some (p, i) ∧ s' = s.relist p (·.eraseIdx i) := by
  unfold remove
  cases h : s.place? n with
  | none => rcases attached_of_place?_eq_none h with he | he <;> simp [he, bind, Except.bind]
  | some q =>
    obtain ⟨p, i⟩ := q
    rw [attached_of_place? h]
    simp [bind, Except.bind, pure, Except.pure, relist, eq_comm]

end MarkTree.Store
