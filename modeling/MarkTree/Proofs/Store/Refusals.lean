import MarkTree.Proofs.Results
import MarkTree.Proofs.Store.Forest

/-!
# Why a change is refused

A change of shape asks its questions in one order. A change beside a node, or of the node's own place,
first asks where the node stands (`attached_eq_noParent_iff`, `attached_eq_notListed_iff`), and what is to
be put there plays no part in that. Once the target is known, only the check is left: whether a placeholder
is concerned, and then whether the node stands on the way up from the target.

* `target?_beside_iff`: the target of a place beside a node.
* `LoopFree.insert_eq_cycle_iff`, `LoopFree.insert_isOk_iff`: refusals and acceptance in terms of the way up.
-/

namespace MarkTree

namespace Store

open Relation (TransGen)

variable {s s' : Store} {n p t on : NodeId} {place : Place} {e : EditError}

/-! ## Where a node stands -/

theorem attached_eq_noParent_iff : s.attached n = .error .noParent ↔ s.parent? n = none := by
  unfold attached
  cases s.parent? n with
  | none => simp
  | some p => cases hi : (s.childList p).idxOf? n <;> simp [hi]

theorem attached_eq_notListed_iff :
    s.attached n = .error .notListed ↔ ∃ p, s.Under n p ∧ ¬ s.Owns p n := by
  unfold attached Under Owns
  cases s.parent? n with
  | none => simp
  | some p =>
    simp only [Option.some.injEq, exists_eq_left', ← List.isSome_idxOf?]
    cases hi : (s.childList p).idxOf? n <;> simp

theorem place?_eq_some_iff_of_owns : (∃ i, s.place? n = some (p, i)) ↔ s.Under n p ∧ s.Owns p n := by
  simp only [place?_eq_some_iff, exists_and_left, ← Option.isSome_iff_exists, List.isSome_idxOf?]
  rfl

/-- A place beside a node lies under the node's parent, provided that lists the node. -/
theorem target?_beside_iff (hplace : place = .after ∨ place = .before) :
    s.target? place on = some t ↔ s.Under on t ∧ s.Owns t on := by
  have htarget : s.target? place on = (s.place? on).map Prod.fst := by
    rcases hplace with rfl | rfl
    · simp [target?, slot?, Function.comp_def]
    · rfl
  rw [htarget, ← place?_eq_some_iff_of_owns]
  simp

/-! ## The order of the questions -/

/-- The check never says that a node stands nowhere. -/
theorem checkInsert_ne_of_attached (he : e = .noParent ∨ e = .notListed) (t n : NodeId) :
    s.checkInsert t n ≠ .error e := by
  unfold checkInsert
  rcases he with rfl | rfl
  · split <;> [skip; split] <;> simp
  · split <;> [skip; split] <;> simp

/-- An insertion beside a node is refused for where that node stands, whatever is inserted. -/
theorem insert_eq_error_iff_attached (hplace : place = .after ∨ place = .before)
    (he : e = .noParent ∨ e = .notListed) (n : NodeId) :
    s.insert place on n = .error e ↔ s.attached on = .error e := by
  have hcourse : ∀ f : NodeId × Nat → List NodeId → List NodeId,
      (do let q ← s.attached on; s.checkInsert q.1 n; return s.link q.1 n (f q)) = .error e ↔
        s.attached on = .error e := by
    intro f
    rw [bind_eq_error_iff]
    refine or_iff_left ?_
    rintro ⟨q, -, h⟩
    rcases bind_eq_error_iff.mp h with h | ⟨u, -, h⟩
    · exact checkInsert_ne_of_attached he q.1 n h
    · cases h
  rcases hplace with rfl | rfl
  · exact hcourse fun q l => l.insertIdx (q.2 + 1) n
  · exact hcourse fun q l => l.insertIdx q.2 n

theorem remove_eq_error_iff : s.remove n = .error e ↔ s.attached n = .error e := by
  rw [remove, bind_eq_error_iff]
  refine or_iff_left ?_
  rintro ⟨q, -, h⟩
  cases h

theorem remove_isOk_iff : (∃ s', s.remove n = .ok s') ↔ ∃ p, s.Under n p ∧ s.Owns p n := by
  simp only [remove_eq_ok_iff, ← place?_eq_some_iff_of_owns]
  exact ⟨fun ⟨_, p, i, h, _⟩ => ⟨p, i, h⟩, fun ⟨p, i, h⟩ => ⟨_, p, i, h, rfl⟩⟩

/-! ## The check at a known target -/

theorem insert_eq_placeholder_iff (ht : s.target? place on = some t) :
    s.insert place on n = .error .placeholder ↔
      s.isPlaceholder t = true ∨ s.isPlaceholder n = true := by
  rw [insert_eq_error_iff_of_target? ht, checkInsert_eq_placeholder_iff]

theorem LoopFree.insert_eq_cycle_iff (h : s.LoopFree) (ht : s.target? place on = some t) :
    s.insert place on n = .error .cycle ↔
      (s.isPlaceholder t = false ∧ s.isPlaceholder n = false) ∧ (n = t ∨ TransGen s.Under t n) := by
  rw [insert_eq_error_iff_of_target? ht, checkInsert_eq_cycle_iff, h.mem_ancestors_iff]

theorem LoopFree.insert_isOk_iff (h : s.LoopFree) (ht : s.target? place on = some t) :
    (∃ s', s.insert place on n = .ok s') ↔
      (s.isPlaceholder t = false ∧ s.isPlaceholder n = false) ∧ ¬ (n = t ∨ TransGen s.Under t n) := by
  have hcheck : (∃ s', s.insert place on n = .ok s') ↔ s.checkInsert t n = .ok () := by
    obtain ⟨i, hslot⟩ := target?_eq_some_iff.mp ht
    simp [insert_eq_ok_iff, hslot]
  rw [hcheck, checkInsert_eq_ok_iff, h.mem_ancestors_iff, not_or]

end Store

end MarkTree
