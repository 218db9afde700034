import MarkTree.Proofs.Session.Runs
import MarkTree.Proofs.Store.Reclaim

/-!
# Settled sessions

A session is settled if every node that is there is held by a name or listed. Every step leaves a settled
session, so settling it again changes nothing. Hence a step that fails leaves all of the session as it was
(`Settled.step_of_error`), and a step that forgets a name only lets go (`step_forget`).

Where nothing owns itself, a settled session has exactly the nodes that its names lead down to, and
forgetting any number of names leaves what the remaining ones lead down to, cell by cell
(`Sound.remnant_after_forget`).
-/

namespace MarkTree.Session

variable {ses : Session} {st : Step} {n : NodeId}

/-- Every node that is there is held by a name or listed. -/
def Settled (ses : Session) : Prop := ses.store.Settled ses.held

theorem settled_empty : Settled {} := fun n hn => absurd hn (Store.not_alive_empty n)

theorem settled_settle (ses : Session) : ses.settle.Settled :=
  Store.settled_reclaim ses.store ses.held

theorem Settled.settle_eq (h : ses.Settled) : ses.settle = ses := by
  have hstore : ses.store.reclaim ses.held = ses.store := Store.Settled.reclaim_eq h
  rw [settle, hstore]

theorem settled_step (ses : Session) (st : Step) : (ses.step st).1.Settled := by
  unfold step
  split
  · exact settled_settle _
  · exact settled_settle _

theorem Settled.after (h : ses.Settled) (sts : List Step) : (ses.after sts).Settled := by
  induction sts generalizing ses with
  | nil => exact h
  | cons st rest ih => exact ih (settled_step ses st)

theorem settled_after (sts : List Step) : (Session.after {} sts).Settled := settled_empty.after sts

/-- A step that fails changes nothing. -/
theorem Settled.step_of_error (h : ses.Settled) {e : StepError} (herr : (ses.step st).2 = .error e) :
    (ses.step st).1 = ses := by
  unfold step at herr ⊢
  cases hp : ses.perform st with
  | error e' => exact h.settle_eq
  | ok r =>
    rw [hp] at herr
    cases herr

/-! ## Changes -/

theorem step_change_of_ok {c : Change String} {s : Store} (h : ses.makeChange c = .ok s) :
    ses.step (.change c) = (settle { ses with store := s }, .ok .done) := by
  have hperform : ses.perform (.change c) = .ok ({ ses with store := s }, .done) := by
    rw [perform, h]
    rfl
  rw [step, hperform]

theorem step_change_of_error {c : Change String} {e : StepError} (h : ses.makeChange c = .error e) :
    ses.step (.change c) = (ses.settle, .error e) := by
  have hperform : ses.perform (.change c) = .error e := by
    rw [perform, h]
    rfl
  rw [step, hperform]

/-! ## Forgetting names -/

/-- Nothing is forgotten with a name that stands for nothing. -/
theorem forget_of_holding_eq_error {name : String} {e : NameError}
    (h : ses.holding name = .error e) : ses.forget name = ses := by
  have hlookup : ses.holdings.lookup name = none := by
    unfold holding at h
    split at h
    · cases h
    · assumption
  have hfilter : ses.holdings.filter (·.1 != name) = ses.holdings := by
    refine List.filter_eq_self.mpr fun q hq => ?_
    have hne := List.lookup_eq_none_iff.mp hlookup q hq
    simpa [bne, BEq.comm] using hne
  rw [forget, hfilter]

theorem step_forget (ses : Session) (name : String) :
    (ses.step (.forget name)).1 = (ses.forget name).settle := by
  cases hh : ses.holding name with
  | error e =>
    rw [forget_of_holding_eq_error hh]
    simp [step, perform, hh, bind, Except.bind, Except.mapError]
  | ok h => simp [step, perform, hh, bind, Except.bind, pure, Except.pure, Except.mapError]

theorem holdings_after_forget (ses : Session) (names : List String) :
    (ses.after (names.map .forget)).holdings = ses.holdings.filter (·.1 ∉ names) := by
  induction names generalizing ses with
  | nil => simp [after]
  | cons name rest ih =>
    have hfirst : (ses.step (.forget name)).1.holdings = ses.holdings.filter (·.1 != name) := by
      rw [step_forget]
      rfl
    rw [List.map_cons, after, ih, hfirst, List.filter_filter]
    refine List.filter_congr fun q _ => ?_
    simp [bne, Bool.and_comm, Bool.beq_eq_decide_eq]

theorem held_after_forget_subset (ses : Session) (names : List String) :
    (ses.after (names.map .forget)).held ⊆ ses.held := by
  intro n hn
  rw [held, holdings_after_forget] at hn
  obtain ⟨q, hq, hn⟩ := List.mem_flatMap.mp hn
  exact List.mem_flatMap.mpr ⟨q, (List.mem_filter.mp hq).1, hn⟩

/-! ## What is left -/

theorem Settled.remnant_self (h : ses.Settled) (hs : ses.Sound) (hacyclic : ses.store.Acyclic) :
    ses.store.Remnant ses.held ses.store where
  alive_iff := ⟨Store.Settled.reaches h hacyclic, hs.store.alive_of_reaches fun _ => hs.alive_of_held⟩
  cell _ := rfl

theorem Sound.remnant_step_forget (hs : ses.Sound) (hacyclic : ses.store.Acyclic) (name : String) :
    ses.store.Remnant (ses.step (.forget name)).1.held (ses.step (.forget name)).1.store := by
  rw [step_forget]
  exact Store.remnant_reclaim hs.store hacyclic fun _ hn => hs.alive_of_held (mem_held_of_forget hn)

/-- Forgetting names leaves what the remaining names lead down to. -/
theorem Sound.remnant_after_forget (hs : ses.Sound) (hset : ses.Settled)
    (hacyclic : ses.store.Acyclic) (names : List String) :
    ses.store.Remnant (ses.after (names.map .forget)).held
      (ses.after (names.map .forget)).store := by
  induction names generalizing ses with
  | nil => exact hset.remnant_self hs hacyclic
  | cons name rest ih =>
    have hfirst := hs.remnant_step_forget hacyclic name
    have hs' : (ses.step (.forget name)).1.Sound := (hs.moves_after [.forget name]).2
    have hrest := ih hs' (settled_step ses _) (hfirst.acyclic hacyclic)
    exact hfirst.trans hrest (held_after_forget_subset _ rest)

end MarkTree.Session
