import MarkTree.Proofs.Session.Runs
import MarkTree.Proofs.Store.Forest

/-!
# Ownership after a run

Insertion takes a node out of no list, and the check follows parent links only. A node that two nodes
list has one link, so the check cannot see one of its owners, and nodes may come to own each other in
a ring (`ring_of_two_owners`). Two promises of a caller rule this out.

* `acyclic_after`: along the listings that links agree with, nothing ever owns itself. If no run inserts
  a node that another node than the target lists, that is so along all listings.
* `forest_after`: if no run inserts a node that is listed at all, the lists form a forest that the links
  agree with.

In both cases whatever would come to stand below itself is refused.
-/

namespace MarkTree

open Relation (TransGen ReflTransGen)
open Store (Unlisted UnlistedElsewhere)

/-- An insertion under `t` is refused: as a cycle, or because it concerns a placeholder. -/
def Store.Refuses (s : Store) (place : Place) (on t n : NodeId) : Prop :=
  s.insert place on n = .error .cycle ∨
    (s.isPlaceholder t = true ∨ s.isPlaceholder n = true) ∧
      s.insert place on n = .error .placeholder

namespace Session

theorem coherent_after {sts : List Step} (h : Heeds UnlistedElsewhere {} sts) :
    (after {} sts).store.Coherent := by
  refine keep_after ?_ (fun hs hmove hI => hI.move hs hmove) Store.coherent_empty h
  exact fun s t n hn => Unlisted.elsewhere hn

theorem noRepeats_after {sts : List Step} (h : Heeds Unlisted {} sts) :
    (after {} sts).store.NoRepeats :=
  keep_after (fun _ _ _ hn => hn) (fun _ hmove hI => hI.move hmove) Store.noRepeats_empty h

theorem coherent_after_of_unlisted {sts : List Step} (h : Heeds Unlisted {} sts) :
    (after {} sts).store.Coherent :=
  coherent_after (h.mono fun _ _ _ hn => hn.elsewhere)

/-! ## Rings -/

/-- A run that puts one node under two others. -/
def twoOwners : List Step :=
  [.node (.create {}) (some "a"), .node (.create {}) (some "b"), .node (.create {}) (some "c"),
    .change (.insert .last "a" "b"), .change (.insert .last "c" "b")]

/-- The first owner of a node with two owners may be put under it. -/
theorem ring_of_two_owners :
    ReflTransGen (after {} twoOwners).store.Owns 0 1 ∧
      (∃ s, (after {} twoOwners).store.insert .last 1 0 = .ok s) ∧
      TransGen (after {} (twoOwners ++ [.change (.insert .last "b" "a")])).store.Owns 0 0 := by
  have hdown : (after {} (twoOwners ++ [.change (.insert .last "b" "a")])).store.Owns 0 1 := by
    decide +kernel
  have hback : (after {} (twoOwners ++ [.change (.insert .last "b" "a")])).store.Owns 1 0 := by
    decide +kernel
  refine ⟨.single (by decide +kernel), ⟨_, rfl⟩, ?_⟩
  exact .tail (.single hdown) hback

/-- Nothing owns itself along listings that the links agree with; and along no listings at all, if every
inserted node is listed by no node but the one that it is put under. -/
theorem acyclic_after (sts : List Step) :
    let s := (after {} sts).store
    ((∀ n, ¬ TransGen s.OwnsLinked n n) ∧
      ∀ place on t n, s.target? place on = some t → ReflTransGen s.OwnsLinked n t →
        s.Refuses place on t n) ∧
    (Heeds UnlistedElsewhere {} sts →
      (∀ n, ¬ TransGen s.Owns n n) ∧
        ∀ place on t n, s.target? place on = some t → ReflTransGen s.Owns n t →
          s.Refuses place on t n) := by
  intro s
  have hfree := (sound_after sts).store.loopFree
  have hrefuse : ∀ place on t n, s.target? place on = some t → ReflTransGen s.OwnsLinked n t →
      s.Refuses place on t n := fun _ _ _ _ ht hpath => hfree.insert_below_itself ht hpath
  refine ⟨⟨hfree.ownsLinked_acyclic, hrefuse⟩, fun h => ?_⟩
  have hcoherent := coherent_after h
  refine ⟨hcoherent.acyclic hfree, ?_⟩
  rw [← hcoherent.ownsLinked]
  exact hrefuse

/-- A run that puts a node twice under the same parent, and another one below it. -/
def twiceListed : List Step :=
  [.node (.create {}) (some "a"), .node (.create {}) (some "b"), .node (.create {}) (some "c"),
    .change (.insert .last "a" "b"), .change (.insert .before "b" "b"),
    .change (.insert .last "b" "c")]

theorem acyclic_after_twiceListed :
    Heeds UnlistedElsewhere {} twiceListed ∧
      (after {} twiceListed).store.target? .after 2 = some 1 ∧
      ReflTransGen (after {} twiceListed).store.Owns 0 1 ∧
      (¬ TransGen (after {} twiceListed).store.Owns 0 0 ∧
        (after {} twiceListed).store.Refuses .after 2 1 0) := by
  have hheeds : Heeds UnlistedElsewhere {} twiceListed := by decide +kernel
  have htarget : (after {} twiceListed).store.target? .after 2 = some 1 := by decide +kernel
  have hpath : ReflTransGen (after {} twiceListed).store.Owns 0 1 := .single (by decide +kernel)
  obtain ⟨hacyclic, hrefuse⟩ := (acyclic_after twiceListed).2 hheeds
  exact ⟨hheeds, htarget, hpath, hacyclic 0, hrefuse _ _ _ _ htarget hpath⟩

/-! ## Forests -/

/-- If every inserted node is listed by no node when it is inserted, lists repeat no node and share
none, every listed node has the node that lists it as its parent, nothing owns itself, and whatever would
come to stand below itself is refused. -/
theorem forest_after (sts : List Step) (h : Heeds Unlisted {} sts) :
    let s := (after {} sts).store
    ((∀ p, (s.childList p).Nodup) ∧
      ∀ n p q, n ∈ s.childList p → n ∈ s.childList q → p = q) ∧
    (∀ p, ∀ n ∈ s.childList p, s.parent? n = some p) ∧
    (∀ n, ¬ TransGen s.Owns n n) ∧
    ∀ place on t n, s.target? place on = some t → ReflTransGen s.Owns n t →
      s.Refuses place on t n := by
  intro s
  have hcoherent := coherent_after_of_unlisted h
  have hfree := (sound_after sts).store.loopFree
  refine ⟨⟨noRepeats_after h, ?_⟩, fun p n hn => hcoherent p n hn, hcoherent.acyclic hfree, ?_⟩
  · exact fun n p q hp hq => hcoherent.owner_unique hp hq
  · rw [← hcoherent.ownsLinked]
    exact fun place on t n ht hpath => hfree.insert_below_itself ht hpath

/-- A run that moves a node, with what stands below it, from one parent to another. -/
def grafting : List Step :=
  [.node (.create {}) (some "a"), .node (.create {}) (some "b"), .node (.create {}) (some "c"),
    .node (.create {}) (some "d"), .change (.insert .last "a" "b"), .change (.insert .last "b" "c"),
    .change (.insert .first "a" "d"), .change (.remove "b"), .change (.insert .last "d" "b")]

theorem forest_after_grafting :
    Heeds Unlisted {} grafting ∧
      (after {} grafting).store.target? .before 2 = some 1 ∧
      ReflTransGen (after {} grafting).store.Owns 0 1 ∧
      1 ∈ (after {} grafting).store.childList 3 ∧
      ((after {} grafting).store.parent? 1 = some 3 ∧
        (after {} grafting).store.Refuses .before 2 1 0) := by
  have hheeds : Heeds Unlisted {} grafting := by decide +kernel
  have htarget : (after {} grafting).store.target? .before 2 = some 1 := by decide +kernel
  have hlisted : 1 ∈ (after {} grafting).store.childList 3 := by decide +kernel
  have hpath : ReflTransGen (after {} grafting).store.Owns 0 1 :=
    .tail (.single (show (after {} grafting).store.Owns 0 3 by decide +kernel)) hlisted
  obtain ⟨-, hparent, -, hrefuse⟩ := forest_after grafting hheeds
  exact ⟨hheeds, htarget, hpath, hlisted, hparent 3 1 hlisted, hrefuse _ _ _ _ htarget hpath⟩

end Session

end MarkTree
