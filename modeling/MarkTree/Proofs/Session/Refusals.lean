import MarkTree.Proofs.Session.Settled
import MarkTree.Proofs.Store.InPlace
import MarkTree.Proofs.Store.Refusals

/-!
# Refusals after a run

A change of shape that is refused leaves everything as it was. For the change as a whole that is a matter
of its type; a change in place is written cell by cell, and there it holds because all questions come before
the first write. A step that fails leaves the session as it was, since the step before it has let go of
everything that no name keeps.

The refusals come in one order, whatever links and lists look like after the run: where the node stands
that the place is seen from, whether a placeholder is concerned, whether the node stands on the way up
from the target (`refusals_after`).
-/

namespace MarkTree.Session

open Relation (TransGen)

/-- After every run a refused change has changed nothing, neither in place nor as a step. A change beside
a node, or of its own place, is refused for where the node stands and for that alone, whatever node is put
there; the target is the parent then. An insertion with a target is refused for a placeholder, else as a
cycle, and else it is done. -/
theorem refusals_after (sts : List Step) :
    let ses := after {} sts
    let s := ses.store
    (∀ c e s', (InPlace.change c).run s = (.error e, s') ↔ s.apply c = .error e ∧ s' = s) ∧
    (∀ c e, (ses.step (.change c)).2 = .error e → (ses.step (.change c)).1 = ses) ∧
    (∀ n, (s.remove n = .error .noParent ↔ s.parent? n = none) ∧
      (s.remove n = .error .notListed ↔ ∃ p, s.parent? n = some p ∧ n ∉ s.childList p) ∧
      ((∃ s', s.remove n = .ok s') ↔ ∃ p, s.parent? n = some p ∧ n ∈ s.childList p)) ∧
    (∀ place on, place = .after ∨ place = .before →
      (∀ n, (s.insert place on n = .error .noParent ↔ s.parent? on = none) ∧
        (s.insert place on n = .error .notListed ↔
          ∃ p, s.parent? on = some p ∧ on ∉ s.childList p)) ∧
      ∀ t, s.target? place on = some t ↔ s.parent? on = some t ∧ on ∈ s.childList t) ∧
    (∀ on, s.target? .last on = some on ∧ s.target? .first on = some on) ∧
    ∀ place on t n, s.target? place on = some t →
      (s.insert place on n = .error .placeholder ↔
        s.isPlaceholder t = true ∨ s.isPlaceholder n = true) ∧
      (s.insert place on n = .error .cycle ↔
        (s.isPlaceholder t = false ∧ s.isPlaceholder n = false) ∧ (n = t ∨ TransGen s.Under t n)) ∧
      ((∃ s', s.insert place on n = .ok s') ↔
        (s.isPlaceholder t = false ∧ s.isPlaceholder n = false) ∧
          ¬ (n = t ∨ TransGen s.Under t n)) := by
  intro ses s
  have hfree : s.LoopFree := (sound_after sts).store.loopFree
  refine ⟨fun c e s' => ?_, fun c e => (settled_after sts).step_of_error, fun n => ⟨?_, ?_, ?_⟩, ?_,
    fun on => ⟨rfl, rfl⟩, ?_⟩
  · rw [InPlace.run_change]
    exact InPlace.leaving_eq_error_iff
  · rw [Store.remove_eq_error_iff]
    exact Store.attached_eq_noParent_iff
  · rw [Store.remove_eq_error_iff]
    exact Store.attached_eq_notListed_iff
  · exact Store.remove_isOk_iff
  · intro place on hplace
    refine ⟨fun n => ⟨?_, ?_⟩, fun t => Store.target?_beside_iff hplace⟩
    · rw [Store.insert_eq_error_iff_attached hplace (.inl rfl)]
      exact Store.attached_eq_noParent_iff
    · rw [Store.insert_eq_error_iff_attached hplace (.inr rfl)]
      exact Store.attached_eq_notListed_iff
  · intro place on t n ht
    exact ⟨Store.insert_eq_placeholder_iff ht, hfree.insert_eq_cycle_iff ht,
      hfree.insert_isOk_iff ht⟩

/-- A run that leaves a node under a parent that lists it twice, a node with a parent that does not list
it, and a placeholder. -/
def refusing : List Step :=
  [.node (.create {}) (some "a"), .node (.create {}) (some "b"), .node (.create {}) (some "c"),
    .change (.insert .last "a" "b"), .change (.insert .before "b" "b"),
    .change (.insert .last "b" "c"), .change (.remove "c"),
    .node (.lookup "c" (.firstChild .any)) (some "p")]

theorem refusals_after_refusing :
    let ses := after {} refusing
    let s := ses.store
    s.childList 0 = [1, 1] ∧ s.parent? 2 = some 1 ∧ 2 ∉ s.childList 1 ∧ s.isPlaceholder 3 = true ∧
      s.insert .before 2 3 = .error .notListed ∧
      (InPlace.change (.insert .before 2 3)).run s = (.error .notListed, s) ∧
      (ses.step (.change (.insert .before "c" "p"))).1 = ses ∧
      s.insert .after 1 3 = .error .placeholder ∧
      s.insert .last 2 0 = .error .cycle ∧
      ∃ s', s.insert .after 1 2 = .ok s' := by
  intro ses s
  have hlist : s.childList 0 = [1, 1] := by decide +kernel
  have hlist₁ : 2 ∉ s.childList 1 := by decide +kernel
  have hparent₁ : s.parent? 1 = some 0 := by decide +kernel
  have hparent₂ : s.parent? 2 = some 1 := by decide +kernel
  have hplaceholder : s.isPlaceholder 3 = true := by decide +kernel
  have hordinary : s.isPlaceholder 0 = false ∧ s.isPlaceholder 2 = false := by decide +kernel
  obtain ⟨hinPlace, hstep, -, hbeside, htarget, hinsert⟩ := refusals_after refusing
  have hnotListed : s.insert .before 2 3 = .error .notListed :=
    ((hbeside .before 2 (.inr rfl)).1 3).2.mpr ⟨1, hparent₂, hlist₁⟩
  have hafter : s.target? .after 1 = some 0 := by
    refine ((hbeside .after 1 (.inl rfl)).2 0).mpr ⟨hparent₁, ?_⟩
    rw [hlist]
    exact List.mem_cons_self
  have hup : TransGen s.Under 2 0 := .tail (.single hparent₂) hparent₁
  have hnotUp : ¬ (2 = 0 ∨ TransGen s.Under 0 2) := by
    rw [← ((sound_after refusing).store.loopFree).mem_ancestors_iff]
    have habove : 2 ∉ s.ancestors 0 := by decide +kernel
    simpa using habove
  refine ⟨hlist, hparent₂, hlist₁, hplaceholder, hnotListed, ?_, ?_, ?_, ?_, ?_⟩
  · exact (hinPlace _ _ _).mpr ⟨hnotListed, rfl⟩
  · exact hstep (.insert .before "c" "p") (.edit .notListed) rfl
  · exact (hinsert .after 1 0 3 hafter).1.mpr (.inr hplaceholder)
  · refine (hinsert .last 2 2 0 (htarget 2).1).2.1.mpr ⟨⟨hordinary.2, hordinary.1⟩, .inr hup⟩
  · exact (hinsert .after 1 0 2 hafter).2.2.mpr ⟨hordinary, hnotUp⟩

end MarkTree.Session
