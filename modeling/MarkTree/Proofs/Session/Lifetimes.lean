import MarkTree.Proofs.Session.Links
import MarkTree.Proofs.Session.Ownership
import MarkTree.Proofs.Store.Siblings

/-!
# Lifetimes after a run

Names and lists keep nodes, links do not. As long as nothing owns itself, exactly the nodes are there that
the names lead down to; a ring that has lost its names would be kept by itself. Links tell where a node was
put last, as long as that one is there.

Forgetting names takes nothing away from what the remaining names lead down to but links to nodes that they
do not lead down to. A node that has lost its parent in this way has nobody above or beside it until it is
put somewhere again (`lifetimes_after`).
-/

namespace MarkTree

namespace Store

variable {s : Store} {n : NodeId}

/-- Nobody is above `n` or beside it. -/
structure Alone (s : Store) (n : NodeId) : Prop where
  parent : s.parent? n = none
  ancestors : s.ancestors n = []
  siblings : ∀ k, s.siblingsOfKind k n = []
  sides : ∀ side, s.scan side none n = []
  nearest : ∀ side, s.orPlaceholder (s.lookup? n (.nearest side)) = s.addPlaceholder

theorem alone_of_parent?_eq_none (h : s.parent? n = none) : s.Alone n where
  parent := h
  ancestors := climb_of_parent?_eq_none h _
  siblings := siblingsOfKind_of_parent?_eq_none h
  sides side := (detached_of_parent?_eq_none h).scan_eq_nil side none
  nearest := (detached_of_parent?_eq_none h).orPlaceholder_nearest

end Store

namespace Session

open Relation (ReflTransGen)
open Store (Unlisted)

/-- Where nothing owns itself after a run, the nodes are there that the names lead down to, and each has the
parent that it was put under last, if that one is there. Forgetting names leaves what the remaining names
lead down to, with payloads, lists and their order; of the parents it takes those that the remaining names
do not lead down to, and a node without its parent is alone until it is put somewhere. -/
theorem lifetimes_after (sts : List Step) (hacyclic : (after {} sts).store.Acyclic) :
    let ses := after {} sts
    let s := ses.store
    (∀ n, s.alive n ↔ s.Reaches ses.held n) ∧
    (∀ n, s.alive n → ∀ p,
      s.parent? n = some p ↔ lastTarget? (puts {} sts) n = some p ∧ s.alive p) ∧
    ∀ names : List String,
      let ses' := ses.after (names.map .forget)
      let s' := ses'.store
      ses'.holdings = ses.holdings.filter (·.1 ∉ names) ∧
      (∀ n, s'.alive n ↔ s.Reaches ses'.held n) ∧
      ∀ n, s.Reaches ses'.held n →
        (s'.payload n = s.payload n ∧ s'.childList n = s.childList n) ∧
        (∀ p, s'.parent? n = some p ↔ s.parent? n = some p ∧ s.Reaches ses'.held p) ∧
        ∀ p, s.parent? n = some p → ¬ s.Reaches ses'.held p →
          ∀ sts', (∀ q ∈ ses'.puts sts', q.2 ≠ n) → (ses'.after sts').store.Alone n := by
  intro ses s
  have hs : ses.Sound := sound_after sts
  have hset : ses.Settled := settled_after sts
  have hself : s.Remnant ses.held s := hset.remnant_self hs hacyclic
  refine ⟨fun n => hself.alive_iff, fun n hn p => ?_, fun names => ?_⟩
  · have hlinks : s.under? n = (lastTarget? (puts {} sts) n).or (Store.under? {} n) :=
      sound_empty.under?_after sts fun hgone => hgone.2 hn
    have hempty : Store.under? {} n = none :=
      Store.under?_eq_none_of_not_alive (Store.not_alive_empty n)
    rw [Store.parent?_eq_some_iff, hlinks, hempty, Option.or_none]
  · intro ses' s'
    have hleft : s.Remnant ses'.held s' := hs.remnant_after_forget hset hacyclic names
    refine ⟨ses.holdings_after_forget names, fun n => hleft.alive_iff, fun n hn => ?_⟩
    have hcell := hleft.cell hn
    refine ⟨⟨?_, ?_⟩, fun p => hleft.parent?_eq_some_iff hn, fun p hp hlost sts' hput => ?_⟩
    · rw [Store.payload, Store.payload, hcell]
    · rw [Store.childList, Store.childList, hcell]
    · have hnone : s'.parent? n = none := by
        refine Option.eq_none_iff_forall_ne_some.mpr fun q hq => ?_
        obtain ⟨hq, hreaches⟩ := (hleft.parent?_eq_some_iff hn).mp hq
        obtain rfl : p = q := Option.some.inj (hp.symm.trans hq)
        exact hlost hreaches
      have hs' : ses'.Sound := (hs.moves_after _).2
      exact Store.alone_of_parent?_eq_none (hs'.parent?_after_eq_none hnone hput)

/-- A run that reads off a sequence of nodes from a tree of three levels with two nodes on the lowest. -/
def collecting : List Step :=
  [.node (.create {}) (some "a"), .node (.create {}) (some "b"), .node (.create {}) (some "c"),
    .node (.create {}) (some "d"), .change (.insert .last "a" "b"), .change (.insert .last "b" "c"),
    .change (.insert .first "b" "d"), .nodes (.query "a" (.children .any)) (some "all")]

/-- Steps that put a node under one that has lost its parent. -/
def regrowing : List Step :=
  [.change (.remove "c"), .node (.create {}) (some "e"), .change (.insert .last "c" "e")]

theorem lifetimes_after_collecting :
    let ses := after {} collecting
    let s := ses.store
    let ses' := ses.after (["a", "b", "d"].map .forget)
    Heeds Unlisted {} collecting ∧
      s.parent? 1 = some 0 ∧ lastTarget? (puts {} collecting) 1 = some 0 ∧
      ses'.store.alive 3 ∧ ses'.store.childList 1 = [3, 2] ∧ ses'.store.parent? 3 = some 1 ∧
      (∀ q ∈ ses'.puts regrowing, q.2 ≠ 1) ∧ (ses'.after regrowing).store.Alone 1 := by
  intro ses s ses'
  have hheeds : Heeds Unlisted {} collecting := by decide +kernel
  have hacyclic : s.Acyclic :=
    (coherent_after_of_unlisted hheeds).acyclic (sound_after collecting).store.loopFree
  obtain ⟨-, hlast, hforget⟩ := lifetimes_after collecting hacyclic
  obtain ⟨-, halive, hleft⟩ := hforget ["a", "b", "d"]
  have hparent : s.parent? 1 = some 0 := by decide +kernel
  have hreaches : ∀ n ∈ [1, 3], s.Reaches ses'.held n := by
    have hthere : ∀ n ∈ [1, 3], ses'.store.alive n := by decide +kernel
    exact fun n hn => (halive n).mp (hthere n hn)
  have hlost : ¬ s.Reaches ses'.held 0 := by
    have hgone : ¬ ses'.store.alive 0 := by decide +kernel
    exact fun h => hgone ((halive 0).mpr h)
  have hput : ∀ q ∈ ses'.puts regrowing, q.2 ≠ 1 := by decide +kernel
  obtain ⟨⟨-, hlist⟩, -, halone⟩ := hleft 1 (hreaches 1 (by decide))
  obtain ⟨-, hparents, -⟩ := hleft 3 (hreaches 3 (by decide))
  refine ⟨hheeds, hparent, ((hlast 1 (by decide +kernel) 0).mp hparent).1, ?_, ?_, ?_, hput, ?_⟩
  · exact (halive 3).mpr (hreaches 3 (by decide))
  · rw [hlist]
    decide +kernel
  · exact (hparents 1).mpr ⟨by decide +kernel, hreaches 1 (by decide)⟩
  · exact halone 0 hparent hlost regrowing hput

end Session

end MarkTree
