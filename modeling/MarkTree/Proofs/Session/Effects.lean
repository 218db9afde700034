import MarkTree.Proofs.Session.Settled
import MarkTree.Proofs.Store.Effects

/-!
# Changes of shape after a run

A change of shape that succeeds has one effect, whatever the run before it has made of lists and links: also
where a list repeats a node, where several nodes list one, and where a node is put beside itself. One list
gains or loses one entry, or all, and an insertion writes the link of the inserted node. All other lists,
links and payloads are as they were (`effects_after`).

The step also lets go of what nobody keeps any more. That can only be what stood below a node whose list was
emptied: an insertion takes nobody from a list, and a node that is taken out is held by its name.
-/

namespace MarkTree.Session

variable {ses : Session} {c : Change String} {a : Answer}

/-- The store after a change that succeeds is the changed one, without what no name keeps. -/
theorem step_change_cases (h : (ses.step (.change c)).2 = .ok a) :
    ∃ c' s, c.resolve ses.nodeFor = .ok c' ∧ ses.store.apply c' = .ok s ∧
      (ses.step (.change c)).1.store = s.reclaim ses.held := by
  cases hc : ses.makeChange c with
  | error e =>
    rw [step_change_of_error hc] at h
    cases h
  | ok s =>
    obtain ⟨c', hres, happly⟩ := makeChange_eq_ok_iff.mp hc
    refine ⟨c', s, hres, happly, ?_⟩
    rw [step_change_of_ok hc]
    rfl

/-- What a change of shape does that succeeds after a run. An insertion puts the node into its place in the
list of the host and points its link there; a removal takes the first listing out of the parent's list;
clearing empties the list. All else that is still there is as it was, and only clearing lets nodes go. -/
theorem effects_after (sts : List Step) :
    let ses := after {} sts
    let s := ses.store
    (∀ place on node a, (ses.step (.change (.insert place on node))).2 = .ok a →
      let s' := (ses.step (.change (.insert place on node))).1.store
      ∃ o n t, ses.node on = .ok o ∧ ses.node node = .ok n ∧ s.host? place o = some t ∧
        Store.Spliced o n place (s.childList t) (s'.childList t) ∧ s'.parent? n = some t ∧
        s.AsBefore s' t (some n) ∧ ∀ m, s'.alive m = s.alive m) ∧
    (∀ on a, (ses.step (.change (.remove on))).2 = .ok a →
      let s' := (ses.step (.change (.remove on))).1.store
      ∃ o p front back, ses.node on = .ok o ∧ s.parent? o = some p ∧
        s.childList p = front ++ o :: back ∧ o ∉ front ∧ s'.childList p = front ++ back ∧
        s.AsBefore s' p none ∧ ∀ m, s'.alive m = s.alive m) ∧
    ∀ on a, (ses.step (.change (.clear on))).2 = .ok a →
      let s' := (ses.step (.change (.clear on))).1.store
      ∃ o, ses.node on = .ok o ∧ s'.childList o = [] ∧ s.AsBefore s' o none ∧
        ∀ m ∈ ses.held, s'.alive m := by
  intro ses s
  have hs : ses.Sound := sound_after sts
  have hset : s.Settled ses.held := settled_after sts
  refine ⟨fun place on node a h => ?_, fun on a h => ?_, fun on a h => ?_⟩
  · obtain ⟨c', s₁, hres, hins, hstore⟩ := step_change_cases h
    obtain ⟨o, ho, hres⟩ := bind_eq_ok_iff.mp hres
    obtain ⟨n, hn, hres⟩ := bind_eq_ok_iff.mp hres
    cases hres
    have hoalive : s.alive o := hs.alive_of_nodeFor ho
    rw [hstore, (hset.insert hoalive hins).reclaim_eq]
    obtain ⟨t, heffect⟩ := Store.insert_effect hoalive (hs.alive_of_nodeFor hn) hins
    exact ⟨o, n, t, nodeFor_eq_ok_iff.mp ho, nodeFor_eq_ok_iff.mp hn, heffect⟩
  · obtain ⟨c', s₁, hres, hrem, hstore⟩ := step_change_cases h
    obtain ⟨o, ho, hres⟩ := bind_eq_ok_iff.mp hres
    cases hres
    rw [nodeFor_eq_ok_iff] at ho
    rw [hstore, (hset.remove (mem_held_of_node ho) hrem).reclaim_eq]
    obtain ⟨p, front, back, heffect⟩ := Store.remove_effect hrem
    exact ⟨o, p, front, back, ho, heffect⟩
  · obtain ⟨c', s₁, hres, hclear, hstore⟩ := step_change_cases h
    obtain ⟨o, ho, hres⟩ := bind_eq_ok_iff.mp hres
    cases hres
    cases hclear
    rw [nodeFor_eq_ok_iff] at ho
    have hheld := mem_held_of_node ho
    obtain ⟨hnil, hsame⟩ := Store.clear_effect (hs.alive_of_held hheld)
    have hkept : ∀ m ∈ ses.held, (s.clear o |>.reclaim ses.held).alive m := fun m hm =>
      Store.alive_sweepTimes hm _ (by rw [Store.clear_eq, Store.alive_relist]; exact hs.alive_of_held hm)
    rw [hstore]
    refine ⟨o, ho, ?_, hsame.reclaim ses.held, hkept⟩
    rw [Store.childList, Store.get?_reclaim_of_alive (hkept o hheld)]
    exact hnil

/-- A run that leaves a node that one node lists twice and another one once, the latter without a name. -/
def crowding : List Step :=
  [.node (.create {}) (some "a"), .node (.create {}) (some "b"), .node (.create {}) (some "c"),
    .change (.insert .last "a" "b"), .change (.insert .last "a" "b"), .change (.insert .last "a" "c"),
    .change (.insert .last "c" "b"), .forget "c"]

theorem effects_after_crowding :
    let ses := after {} crowding
    let s := ses.store
    let left := fun c => (ses.step (.change c)).1.store
    (s.childList 0 = [1, 1, 2] ∧ s.childList 2 = [1] ∧ s.parent? 1 = some 2) ∧
    (Store.Spliced 1 1 .after [1] ((left (.insert .after "b" "b")).childList 2) ∧
      (left (.insert .after "b" "b")).parent? 1 = some 2 ∧
      (left (.insert .after "b" "b")).childList 0 = [1, 1, 2]) ∧
    ((left (.remove "b")).childList 2 = [] ∧ (left (.remove "b")).parent? 1 = some 2 ∧
      (left (.remove "b")).childList 0 = [1, 1, 2]) ∧
    ((left (.clear "a")).childList 0 = [] ∧ (left (.clear "a")).alive 1 ∧
      (left (.clear "a")).parent? 1 = none) := by
  intro ses s left
  have hlist : s.childList 0 = [1, 1, 2] := by decide +kernel
  have hlist₂ : s.childList 2 = [1] := by decide +kernel
  have hparent : s.parent? 1 = some 2 := by decide +kernel
  have ha : ses.node "a" = .ok 0 := by rfl
  have hb : ses.node "b" = .ok 1 := by rfl
  have hthere : ∀ m ∈ [0, 1, 2], s.alive m := by decide +kernel
  obtain ⟨hinsert, hremove, hclear⟩ := effects_after crowding
  refine ⟨⟨hlist, hlist₂, hparent⟩, ?_, ?_, ?_⟩
  · obtain ⟨o, n, t, ho, hn, ht, hsplice, hlink, hsame, halive⟩ :=
      hinsert .after "b" "b" .done (by decide +kernel)
    cases hb.symm.trans ho
    cases hb.symm.trans hn
    cases hparent.symm.trans ht
    refine ⟨hlist₂ ▸ hsplice, hlink, ?_⟩
    exact (hsame.lists 0 (by rw [halive]; exact hthere 0 (by decide)) (by decide)).trans hlist
  · obtain ⟨o, p, front, back, ho, hp, hsplit, -, hrest, hsame, halive⟩ :=
      hremove "b" .done (by decide +kernel)
    cases hb.symm.trans ho
    cases hparent.symm.trans hp
    have halive' : ∀ m ∈ [0, 1, 2], (left (.remove "b")).alive m := fun m hm => by
      rw [halive]
      exact hthere m hm
    refine ⟨?_, ?_, (hsame.lists 0 (halive' 0 (by decide)) (by decide)).trans hlist⟩
    · have hlength := congrArg List.length (hlist₂.symm.trans hsplit)
      simp only [List.length_append, List.length_cons, List.length_nil] at hlength
      rw [hrest, ← List.length_eq_zero_iff, List.length_append]
      omega
    · exact (hsame.parents 1 (halive' 1 (by decide)) (by decide) 2).mpr ⟨hparent, halive' 2 (by decide)⟩
  · obtain ⟨o, ho, hnil, hsame, hheld⟩ := hclear "a" .done (by decide +kernel)
    cases ha.symm.trans ho
    have hthere' : (left (.clear "a")).alive 1 := hheld 1 (mem_held_of_node hb)
    refine ⟨hnil, hthere', Option.eq_none_iff_forall_ne_some.mpr fun p hp => ?_⟩
    obtain ⟨hold, hpalive⟩ := (hsame.parents 1 hthere' (by decide) p).mp hp
    cases hparent.symm.trans hold
    exact absurd hpalive (by decide +kernel)

end MarkTree.Session
