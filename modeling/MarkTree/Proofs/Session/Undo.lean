import MarkTree.Proofs.Session.Effects
import MarkTree.Proofs.Session.Ownership
import MarkTree.Proofs.Session.Placeholders
import MarkTree.Proofs.Store.Undo

/-!
# Undoing a change after a run

After a run that inserts unlisted nodes only, taking a node out and putting it back into a place that it
stood in leaves the session that there was before. The other order does the same, but for the link of the
node. Nobody goes in between: a node that is taken out is held by its name, with all that stands below it
(`undo_after`).
-/

namespace MarkTree.Session

open Store (Unlisted)

variable {ses : Session} {s : Store} {n o : NodeId} {on name : String} {place : Place}

theorem makeChange_remove (hn : ses.node name = .ok n) :
    ses.makeChange (.remove name) = (ses.store.remove n).mapError .edit := by
  rw [makeChange, Change.resolve, nodeFor, hn]
  rfl

theorem makeChange_insert (ho : ses.node on = .ok o) (hn : ses.node name = .ok n) :
    ses.makeChange (.insert place on name) = (ses.store.insert place o n).mapError .edit := by
  rw [makeChange, Change.resolve, nodeFor, nodeFor, ho, hn]
  rfl

/-- Taking out a node that has a name lets nobody go. -/
theorem Settled.step_remove (h : ses.Settled) (hn : ses.node name = .ok n)
    (hrem : ses.store.remove n = .ok s) :
    ses.step (.change (.remove name)) = ({ ses with store := s }, .ok .done) := by
  have hchange : ses.makeChange (.remove name) = .ok s := by
    rw [makeChange_remove hn, hrem]
    rfl
  rw [step_change_of_ok hchange]
  exact congrArg (·, _) (Settled.settle_eq (Store.Settled.remove h (mem_held_of_node hn) hrem))

theorem Settled.step_insert (h : ses.Settled) (hs : ses.Sound) (ho : ses.node on = .ok o)
    (hn : ses.node name = .ok n) (hins : ses.store.insert place o n = .ok s) :
    ses.step (.change (.insert place on name)) = ({ ses with store := s }, .ok .done) := by
  have hchange : ses.makeChange (.insert place on name) = .ok s := by
    rw [makeChange_insert ho hn, hins]
    rfl
  have hoa : ses.store.alive o := hs.alive_of_held (mem_held_of_node ho)
  rw [step_change_of_ok hchange]
  exact congrArg (·, _) (Settled.settle_eq (Store.Settled.insert h hoa hins))

/-- If every inserted node is listed by no node when it is inserted, a listed node can be taken out, but not
once more, and whichever place it stood in it can be put back there; then all is as it was, names and store.
And a node that nobody lists can be taken out again wherever it was put; then all is as it was but for its
link, which leads to where it was put. -/
theorem undo_after (sts : List Step) (h : Heeds Unlisted {} sts) :
    let ses := after {} sts
    let s := ses.store
    (∀ p, ∀ n ∈ s.childList p, ∃ s', s.remove n = .ok s' ∧ s'.remove n = .error .notListed ∧
      ∀ place o, s.Stands p n place o → s'.insert place o n = .ok s) ∧
    (∀ name n p, ses.node name = .ok n → n ∈ s.childList p →
      let ses' := (ses.step (.change (.remove name))).1
      (ses.step (.change (.remove name))).2 = .ok .done ∧
      ses'.step (.change (.remove name)) = (ses', .error (.edit .notListed)) ∧
      ∀ place on o, ses.node on = .ok o → s.Stands p n place o →
        ses'.step (.change (.insert place on name)) = (ses, .ok .done)) ∧
    ∀ place on name n a, ses.node name = .ok n → (∀ p, n ∉ s.childList p) →
      (ses.step (.change (.insert place on name))).2 = .ok a →
      let ses' := (ses.step (.change (.insert place on name))).1
      ∃ o t, ses.node on = .ok o ∧ s.host? place o = some t ∧
        ses'.step (.change (.remove name)) = ({ ses with store := s.relink n t }, .ok .done) ∧
        ∀ m, (s.relink n t).childList m = s.childList m := by
  intro ses s
  have hs : ses.Sound := sound_after sts
  have hset : ses.Settled := settled_after sts
  have hout : ∀ p, ∀ n ∈ s.childList p, ∃ s', s.remove n = .ok s' ∧ s'.remove n = .error .notListed ∧
      ∀ place o, s.Stands p n place o → s'.insert place o n = .ok s := fun p n hn =>
    Store.exists_remove_of_owns hs.store (apart_after sts) (coherent_after_of_unlisted h)
      (noRepeats_after h) hn
  refine ⟨hout, fun name n p hname hn => ?_, fun place on name n a hname hnew hans => ?_⟩
  · obtain ⟨s', hrem, hagain, hback⟩ := hout p n hn
    have hstep : ses.step (.change (.remove name)) = ({ ses with store := s' }, .ok .done) :=
      hset.step_remove hname hrem
    have hset' : Settled { ses with store := s' } :=
      Store.Settled.remove hset (mem_held_of_node hname) hrem
    have hs' : Session.Sound { ses with store := s' } := by
      have hafter := (hs.moves_after [.change (.remove name)]).2
      rwa [after, after, hstep] at hafter
    rw [hstep]
    refine ⟨rfl, ?_, fun place on o hon hstands => ?_⟩
    · have hname' : Session.node { ses with store := s' } name = .ok n := hname
      have herr : makeChange { ses with store := s' } (.remove name) = .error (.edit .notListed) := by
        rw [makeChange_remove hname', hagain]
        rfl
      rw [step_change_of_error herr, hset'.settle_eq]
    · exact hset'.step_insert hs' hon hname (hback place o hstands)
  · obtain ⟨c', s', hres, hins, -⟩ := step_change_cases hans
    obtain ⟨o, ho, hres⟩ := bind_eq_ok_iff.mp hres
    obtain ⟨n', hn', hres⟩ := bind_eq_ok_iff.mp hres
    cases hres
    rw [nodeFor_eq_ok_iff] at ho hn'
    cases hname.symm.trans hn'
    obtain ⟨t, ht, hrem⟩ := Store.remove_of_insert (hs.alive_of_held (mem_held_of_node ho))
      (hs.alive_of_held (mem_held_of_node hname)) hnew hins
    have hstep : ses.step (.change (.insert place on name)) = ({ ses with store := s' }, .ok .done) :=
      hset.step_insert hs ho hname hins
    have hset' : Settled { ses with store := s' } :=
      Store.Settled.insert hset (hs.alive_of_held (mem_held_of_node ho)) hins
    rw [hstep]
    exact ⟨o, t, ho, ht, hset'.step_remove hname hrem, fun m => s.childList_relink n t m⟩

/-- A run that leaves three nodes under one, another one below the middle of them, and a node that was taken
out beside that. -/
def thinning : List Step :=
  [.node (.create { kind := .document }) (some "a"), .node (.create {}) (some "b"),
    .node (.create {}) (some "c"), .node (.create {}) (some "d"), .node (.create {}) (some "e"),
    .node (.create {}) (some "f"), .change (.insert .last "a" "c"), .change (.insert .before "c" "b"),
    .change (.insert .after "c" "d"), .change (.insert .first "c" "e"), .change (.insert .last "d" "f"),
    .change (.remove "f")]

theorem undo_after_thinning :
    let ses := after {} thinning
    let s := ses.store
    let left := fun c => (ses.step (.change c)).1
    Heeds Unlisted {} thinning ∧ s.childList 0 = [1, 2, 3] ∧ s.parent? 5 = some 3 ∧
      (left (.remove "c")).step (.change (.remove "c")) =
        (left (.remove "c"), .error (.edit .notListed)) ∧
      (left (.remove "c")).step (.change (.insert .after "b" "c")) = (ses, .ok .done) ∧
      (left (.remove "c")).step (.change (.insert .before "d" "c")) = (ses, .ok .done) ∧
      (left (.remove "b")).step (.change (.insert .first "a" "b")) = (ses, .ok .done) ∧
      (left (.remove "d")).step (.change (.insert .last "a" "d")) = (ses, .ok .done) ∧
      (left (.insert .after "e" "f")).step (.change (.remove "f")) =
        ({ ses with store := s.relink 5 2 }, .ok .done) := by
  intro ses s left
  have hheeds : Heeds Unlisted {} thinning := by decide +kernel
  have hlist : s.childList 0 = [1, 2, 3] := by decide +kernel
  have hlisted : ∀ n ∈ [1, 2, 3], n ∈ s.childList 0 := fun n hn => hlist ▸ hn
  obtain ⟨-, hremove, hinsert⟩ := undo_after thinning hheeds
  obtain ⟨-, -, hfirst⟩ := hremove "b" 1 0 rfl (hlisted 1 (by decide))
  obtain ⟨-, hagain, hmiddle⟩ := hremove "c" 2 0 rfl (hlisted 2 (by decide))
  obtain ⟨-, -, hlast⟩ := hremove "d" 3 0 rfl (hlisted 3 (by decide))
  have hnew : ∀ p, 5 ∉ s.childList p := Store.owners_eq_nil_iff.mp (by decide +kernel)
  obtain ⟨o, t, ho, ht, hback, -⟩ := hinsert .after "e" "f" 5 .done rfl hnew (by decide +kernel)
  cases ho
  have hhost : s.host? .after 4 = some 2 := by decide +kernel
  cases hhost.symm.trans ht
  have hafter : s.childList 0 = [] ++ 1 :: 2 :: [3] := hlist
  have hbefore : s.childList 0 = [1] ++ 2 :: 3 :: [] := hlist
  have hend : s.childList 0 = [1, 2] ++ [3] := hlist
  refine ⟨hheeds, hlist, by decide +kernel, hagain, ?_, ?_, ?_, ?_, hback⟩
  · exact hmiddle .after "b" 1 rfl (.after hafter)
  · exact hmiddle .before "d" 3 rfl (.before hbefore)
  · exact hfirst .first "a" 0 rfl (.first hlist)
  · exact hlast .last "a" 0 rfl (.last hend)

end MarkTree.Session
