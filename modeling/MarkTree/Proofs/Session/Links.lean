import MarkTree.Proofs.Session.Settled
import MarkTree.Proofs.Store.Records

/-!
# Links after a run

A run comes with a record of what it put under what: the insertions that were carried out, and the listings
of every document that was read. The links of the nodes that are there follow that record
(`Sound.under?_after`); nothing else writes a link, and letting nodes go writes none.

So a node without a parent stays without one for as long as it is not put anywhere
(`Sound.parent?_after_eq_none`): the node that its link leads to, if any, is gone for good.
-/

namespace MarkTree.Session

open Store (Follows Gone)

variable {ses ses' : Session} {st : Step} {n : NodeId}

/-- What a step puts under what, be it one node or all that a document has below its top. -/
def putsOf (ses : Session) : Step → List (NodeId × NodeId)
  | .node step _ =>
    match ses.oneNode step with
    | .ok (_, s) => s.listings ses.store.size
    | .error _ => []
  | st => (ses.insertion? st).toList

/-- What some steps put under what, in their order. -/
def puts (ses : Session) : List Step → List (NodeId × NodeId)
  | [] => []
  | st :: rest => ses.putsOf st ++ (ses.step st).1.puts rest

/-! ## One step -/

/-- Making or finding a node puts what a document lists, and nothing else. -/
theorem Sound.follows_oneNode (hs : ses.Sound) {q : NodeStep} {r : Option NodeId × Store}
    (h : ses.oneNode q = .ok r) : ses.store.Follows (r.2.listings ses.store.size) r.2 := by
  rcases hs.oneNode_cases h with ⟨hstore, -⟩ | ⟨p, -, rfl⟩ | ⟨lenient, m, n, s, hr, rfl⟩
  · rw [hstore]
    exact ses.store.follows_same
  · exact ses.store.follows_add p
  · obtain ⟨t, -, -, hadded⟩ := Document.read_added (mapError_eq_ok_iff.mp hr)
    exact hadded.follows

/-- Of all changes only an insertion writes a link. -/
theorem Sound.follows_makeChange (hs : ses.Sound) {c : Change String} {s : Store}
    (h : ses.makeChange c = .ok s) :
    ses.store.Follows (ses.insertion? (.change c)).toList s := by
  obtain ⟨c', hres, happly⟩ := makeChange_eq_ok_iff.mp h
  cases c with
  | write on what =>
    obtain ⟨o, -, he⟩ := bind_eq_ok_iff.mp hres
    cases he
    cases happly
    exact Store.follows_nil fun n => ses.store.under?_edit o what.apply n
  | insert place on node =>
    obtain ⟨o, ho, hres⟩ := bind_eq_ok_iff.mp hres
    obtain ⟨n, hn, hres⟩ := bind_eq_ok_iff.mp hres
    cases hres
    rw [nodeFor_eq_ok_iff] at ho hn
    have hinsert : ses.store.insert place o n = .ok s := happly
    obtain ⟨t, i, hslot, -, rfl⟩ := Store.insert_eq_ok_iff.mp hinsert
    have hrecord : ses.insertion? (.change (.insert place on node)) = some (t, n) := by
      simp [insertion?, ho, hn, hinsert, hslot]
    rw [hrecord]
    exact Store.follows_putAt (hs.alive_of_held (mem_held_of_node hn))
  | remove on =>
    obtain ⟨o, -, he⟩ := bind_eq_ok_iff.mp hres
    cases he
    obtain ⟨p, i, -, rfl⟩ := Store.remove_eq_ok_iff.mp happly
    exact Store.follows_nil fun n => ses.store.under?_relist p _ n
  | clear on =>
    obtain ⟨o, -, he⟩ := bind_eq_ok_iff.mp hres
    cases he
    cases happly
    have hclear : ∀ n, (ses.store.clear o).under? n = ses.store.under? n := by
      intro n
      rw [Store.clear_eq, Store.under?_relist]
    exact Store.follows_nil hclear

theorem Sound.follows_perform (hs : ses.Sound) {a : Answer} (h : ses.perform st = .ok (ses', a)) :
    ses.store.Follows (ses.putsOf st) ses'.store := by
  cases st with
  | node step name =>
    obtain ⟨⟨found, s⟩, hone, h⟩ := bind_eq_ok_iff.mp h
    have hfollows := hs.follows_oneNode hone
    rw [putsOf, hone]
    cases found with
    | none =>
      cases h
      exact hfollows
    | some m =>
      cases h
      rw [store_hold]
      exact hfollows
  | nodes step name =>
    obtain ⟨ns, -, h⟩ := bind_eq_ok_iff.mp h
    cases h
    rw [store_hold]
    exact Store.follows_nil fun _ => rfl
  | ask question =>
    obtain ⟨a', -, h⟩ := bind_eq_ok_iff.mp h
    cases h
    exact Store.follows_nil fun _ => rfl
  | change c =>
    obtain ⟨s, hc, h⟩ := bind_eq_ok_iff.mp h
    cases h
    exact hs.follows_makeChange hc
  | forget name =>
    obtain ⟨h', -, h⟩ := bind_eq_ok_iff.mp h
    cases h
    exact Store.follows_nil fun _ => rfl

/-- An insertion that is recorded was carried out. -/
theorem makeChange_of_insertion? {c : Change String} {q : NodeId × NodeId}
    (h : ses.insertion? (.change c) = some q) : ∃ s, ses.makeChange c = .ok s := by
  cases c with
  | write on what => cases h
  | insert place on node =>
    unfold insertion? at h
    cases ho : ses.node on with
    | error e => simp [ho] at h
    | ok o =>
      cases hn : ses.node node with
      | error e => simp [ho, hn] at h
      | ok n =>
        cases hs : ses.store.insert place o n with
        | error e => simp [ho, hn, hs] at h
        | ok s =>
          refine ⟨s, makeChange_eq_ok_iff.mpr ⟨.insert place o n, ?_, hs⟩⟩
          simp only [Change.resolve, bind_eq_ok_iff, nodeFor_eq_ok_iff]
          exact ⟨o, ho, n, hn, rfl⟩
  | remove on => cases h
  | clear on => cases h

/-- A step that fails puts nothing. -/
theorem putsOf_of_error {e : StepError} (h : ses.perform st = .error e) : ses.putsOf st = [] := by
  cases st with
  | node step name =>
    cases hone : ses.oneNode step with
    | error e' => rw [putsOf, hone]
    | ok r =>
      obtain ⟨found, s⟩ := r
      rw [perform, hone] at h
      cases found <;> cases h
  | nodes step name => rfl
  | ask question => rfl
  | change c =>
    cases hins : ses.insertion? (.change c) with
    | none => simp [putsOf, hins]
    | some q =>
      obtain ⟨s, hs⟩ := makeChange_of_insertion? hins
      rw [perform, hs] at h
      cases h
  | forget name => rfl

/-- Letting nodes go changes no link of a node that is still there or yet to come. -/
theorem under?_settle (h : ¬ ses.settle.store.Gone n) :
    ses.settle.store.under? n = ses.store.under? n := by
  by_cases hn : ses.settle.store.alive n
  · rw [Store.under?, Store.under?, settle, Store.get?_reclaim_of_alive hn]
  · -- then `n` is yet to come, and was not there before either
    have hmoves : Store.Moves (fun _ _ _ => True) ses.store ses.settle.store := ses.settle_moves
    have hold : ¬ ses.store.alive n := by
      intro ha
      exact h ⟨Nat.lt_of_lt_of_le (Store.lt_size_of_alive ha) hmoves.size_le, hn⟩
    rw [Store.under?_eq_none_of_not_alive hn, Store.under?_eq_none_of_not_alive hold]

/-- The links that a step leaves follow what it puts. -/
theorem Sound.under?_step (hs : ses.Sound) (st : Step) (h : ¬ (ses.step st).1.store.Gone n) :
    (ses.step st).1.store.under? n =
      (lastTarget? (ses.putsOf st) n).or (ses.store.under? n) := by
  unfold step at h ⊢
  cases hp : ses.perform st with
  | error e =>
    rw [hp] at h
    rw [putsOf_of_error hp]
    exact under?_settle h
  | ok r =>
    obtain ⟨ses', a⟩ := r
    rw [hp] at h
    exact (under?_settle h).trans (hs.follows_perform hp n)

/-! ## Runs -/

/-- The links that a run leaves follow what it puts. -/
theorem Sound.under?_after (hs : ses.Sound) (sts : List Step)
    (h : ¬ (ses.after sts).store.Gone n) :
    (ses.after sts).store.under? n =
      (lastTarget? (ses.puts sts) n).or (ses.store.under? n) := by
  induction sts generalizing ses with
  | nil => rfl
  | cons st rest ih =>
    have hs' : (ses.step st).1.Sound := (hs.moves_after [st]).2
    -- what is gone after the first step is gone for good
    have hstep : ¬ (ses.step st).1.store.Gone n := fun hgone =>
      h ((hs'.moves_after rest).1.gone hgone)
    have hlinks := hs.under?_step st hstep
    rw [after, ih hs' h, hlinks, puts, lastTarget?_append, Option.or_assoc]

/-- A node without a parent stays without one until it is put somewhere. -/
theorem Sound.parent?_after_eq_none (hs : ses.Sound) (hnone : ses.store.parent? n = none)
    {sts : List Step} (hput : ∀ q ∈ ses.puts sts, q.2 ≠ n) :
    (ses.after sts).store.parent? n = none := by
  refine Option.eq_none_iff_forall_ne_some.mpr fun p hp => ?_
  obtain ⟨hu, hpalive⟩ := Store.parent?_eq_some_iff.mp hp
  have hthere : ¬ (ses.after sts).store.Gone n := fun hgone =>
    hgone.2 (Store.alive_of_under? hu)
  rw [hs.under?_after sts hthere, lastTarget?_eq_none_iff.mpr hput, Option.none_or] at hu
  -- so the link was there before, and led to a node that was gone already
  have hgone : ses.store.Gone p := by
    refine ⟨hs.store.under_lt hu, fun ha => ?_⟩
    rw [Store.parent?_eq_some_iff.mpr ⟨hu, ha⟩] at hnone
    cases hnone
  exact ((hs.moves_after sts).1.gone hgone).2 hpalive

end MarkTree.Session
