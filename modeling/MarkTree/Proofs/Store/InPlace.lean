import MarkTree.Store.InPlace

/-!
# What changes in place leave

Since every question is asked before the first write, a change that is refused has written nothing
(`InPlace.run_change`).
-/

namespace MarkTree

namespace InPlace

variable {α β : Type}

/-- What a change leaves: the changed store, or why it was refused and the store that it started from. -/
def leaving (s : Store) : Except EditError Store → Except EditError Unit × Store
  | .ok s' => (.ok (), s')
  | .error e => (.error e, s)

theorem leaving_eq_error_iff {s s' : Store} {r : Except EditError Store} {e : EditError} :
    leaving s r = (.error e, s') ↔ r = .error e ∧ s' = s := by
  cases r with
  | error e' => simp [leaving, eq_comm]
  | ok s'' => simp [leaving]

theorem run_ask_bind (question : Store → Except EditError α) (f : α → InPlace β) (s : Store) :
    (ask question >>= f).run s =
      match question s with
      | .ok a => (f a).run s
      | .error e => (.error e, s) := by
  have hbind : (ask question >>= f).run s = ExceptT.bindCont f (question s) s := rfl
  rw [hbind]
  cases question s <;> rfl

theorem run_put (t n : NodeId) (f : List NodeId → List NodeId) (s : Store) :
    (put t n f).run s = leaving s (do s.checkInsert t n; return s.link t n f) := by
  rw [put, run_ask_bind]
  cases s.checkInsert t n <;> rfl

/-- A change in place leaves what the change as a whole gives; if it is refused, the store is the one that
it started from. -/
theorem run_change (c : Change NodeId) (s : Store) : (change c).run s = leaving s (s.apply c) := by
  cases c with
  | write on what => rfl
  | insert place on n =>
    cases place with
    | last => exact run_put on n _ s
    | first => exact run_put on n _ s
    | after =>
      rw [change, run_ask_bind, Store.apply, Store.insert, Store.insertAfter]
      cases s.attached on with
      | error e => rfl
      | ok q => exact run_put q.1 n _ s
    | before =>
      rw [change, run_ask_bind, Store.apply, Store.insert, Store.insertBefore]
      cases s.attached on with
      | error e => rfl
      | ok q => exact run_put q.1 n _ s
  | remove on =>
    rw [change, run_ask_bind, Store.apply, Store.remove]
    cases s.attached on <;> rfl
  | clear on => rfl

end InPlace

end MarkTree
