import MarkTree.Proofs.Session.Ownership
import MarkTree.Proofs.Session.Placeholders
import MarkTree.Proofs.Store.Lookups

/-!
# Lookups after a run

After every run a lookup of one node gives the first, or for the last child the last, of what the question for
all of them gives. If that is nothing it gives a placeholder, and otherwise it does not, whatever kinds the
nodes are of. If no inserted node was listed when it was inserted, the first and the last child of a kind are
the same node just if there is one child of that kind (`lookups_after`).
-/

namespace MarkTree.Session

open Store (Unlisted)

/-- The first and the last child are the ends of the list of children, the nearest siblings the nearest of all
siblings on their side. What a lookup gives is a placeholder exactly if the question for all has no answer;
told from a placeholder, it is what was found. If every inserted node is listed by no node when it is
inserted, the first child of a kind is the last one exactly if there is one child of that kind. -/
theorem lookups_after (sts : List Step) :
    let s := (after {} sts).store
    (∀ n k,
      s.lookup? n (.firstChild k) = (s.query n (.children k)).head? ∧
        s.lookup? n (.lastChild k) = (s.query n (.children k)).getLast?) ∧
    (∀ n side, s.lookup? n (.nearest side) = (s.query n (.all side)).head?) ∧
    (∀ n q,
      let given := s.orPlaceholder (s.lookup? n q)
      (given.2.isPlaceholder given.1 = true ↔ s.query n q.among = []) ∧
        given.2.found? given.1 = s.lookup? n q ∧
        ((given.2.found? given.1).isSome ↔ s.query n q.among ≠ [])) ∧
    (Heeds Unlisted {} sts → ∀ n k,
      let first := s.orPlaceholder (s.lookup? n (.firstChild k))
      let last := first.2.orPlaceholder (first.2.lookup? n (.lastChild k))
      first.1 = last.1 ↔ (s.query n (.children k)).length = 1) := by
  intro s
  have hs : s.Sound := (sound_after sts).store
  have hapart : s.Apart := apart_after sts
  refine ⟨fun n k => ⟨s.lookup?_firstChild n k, s.lookup?_lastChild n k⟩, fun n side => rfl,
    fun n q => ?_, fun h n k => hs.first_eq_last_iff (noRepeats_after h) n k⟩
  intro given
  have hfound : given.2.found? given.1 = s.lookup? n q := hapart.found?_orPlaceholder n q
  refine ⟨?_, hfound, ?_⟩
  · rw [← Store.found?_eq_none_iff, hfound, Store.lookup?_eq_none_iff]
  · rw [hfound, Option.isSome_iff_ne_none, Ne, Store.lookup?_eq_none_iff]

/-- A run that makes a tree of nodes of the wildcard's kind, and of nodes without a kind. -/
def unsorted : List Step :=
  [.node (.create { kind := .any }) (some "a"), .node (.create {}) (some "b"),
    .node (.create { kind := .any }) (some "c"), .node (.create {}) (some "d"),
    .change (.insert .last "a" "b"), .change (.insert .first "a" "c"), .change (.insert .after "b" "d")]

theorem lookups_after_unsorted :
    let s := (after {} unsorted).store
    Heeds Unlisted {} unsorted ∧ s.query 0 (.children .any) = [2, 1, 3] ∧
      s.query 0 (.children .unset) = [1, 3] ∧ s.query 0 (.children .document) = [] ∧
      s.lookup? 0 (.firstChild .unset) = some 1 ∧ s.lookup? 0 (.lastChild .unset) = some 3 ∧
      s.lookup? 1 (.nearest .after) = (s.query 1 (.all .after)).head? ∧ s.query 1 (.all .after) = [3] ∧
      (s.addPlaceholder.2.isPlaceholder 4 = true ↔ s.query 0 (.children .document) = []) ∧
      s.found? 1 = some 1 ∧
      ((s.orPlaceholder (s.lookup? 0 (.firstChild .document))).1 ≠
        (s.addPlaceholder.2.orPlaceholder (s.addPlaceholder.2.lookup? 0 (.lastChild .document))).1) := by
  intro s
  have hheeds : Heeds Unlisted {} unsorted := by decide +kernel
  have hkinds : s.query 0 (.children .unset) = [1, 3] := by decide +kernel
  have hnone : s.query 0 (.children .document) = [] := by decide +kernel
  have hmissed : s.lookup? 0 (.firstChild .document) = none := by decide +kernel
  obtain ⟨hends, hnearest, hgiven, hone⟩ := lookups_after unsorted
  obtain ⟨hfirst, hlast⟩ := hends 0 .unset
  rw [hkinds] at hfirst hlast
  obtain ⟨hplaceholder, -, -⟩ := hgiven 0 (.firstChild .document)
  obtain ⟨-, hfound, -⟩ := hgiven 0 (.firstChild .unset)
  have hsame := hone hheeds 0 .document
  rw [hmissed, hnone] at hsame
  rw [hmissed] at hplaceholder
  rw [hfirst] at hfound
  refine ⟨hheeds, by decide +kernel, hkinds, hnone, hfirst, hlast, hnearest 1 .after, by decide +kernel,
    hplaceholder, hfound, ?_⟩
  rw [hmissed]
  exact fun he => absurd (hsame.mp he) (by decide)

end MarkTree.Session
