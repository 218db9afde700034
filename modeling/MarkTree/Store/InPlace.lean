import MarkTree.Store.Change

/-!
# Changes in place

A change of shape asks up to two questions and then writes up to two cells. `InPlace` makes it on one
store that is written as it goes: nothing takes a write back if a later question is answered by a refusal.
-/

namespace MarkTree

/-- A course of questions and writes on one store. A refusal ends it and leaves the store as it was
written until then. -/
abbrev InPlace := ExceptT EditError (StateM Store)

namespace InPlace

variable {α β : Type}

def run (x : InPlace α) (s : Store) : Except EditError α × Store := x s

/-- Asks the store a question. -/
def ask (question : Store → Except EditError α) : InPlace α := fun s => (question s, s)

def write (f : Store → Store) : InPlace Unit := fun s => (.ok (), f s)

/-- Puts `n` under `t`: first the link of `n` is written, then the list of `t`. -/
def put (t n : NodeId) (f : List NodeId → List NodeId) : InPlace Unit := do
  ask (·.checkInsert t n)
  write (·.relink n t)
  write (·.relist t f)

def change : Change NodeId → InPlace Unit
  | .write on what => write (·.edit on what.apply)
  | .insert .last on n => put on n (· ++ [n])
  | .insert .first on n => put on n (n :: ·)
  | .insert .after on n => do
    let (p, i) ← ask (·.attached on)
    put p n (·.insertIdx (i + 1) n)
  | .insert .before on n => do
    let (p, i) ← ask (·.attached on)
    put p n (·.insertIdx i n)
  | .remove on => do
    let (p, i) ← ask (·.attached on)
    write (·.relist p (·.eraseIdx i))
  | .clear on => write (·.relist on fun _ => [])

end InPlace

end MarkTree
