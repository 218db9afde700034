import MarkTree.Store.Edit

/-!
# Changes

The changes that can be made to a store, as data. A change names the nodes it works on in any way;
`Change.resolve` turns the names into identities, and `Store.apply` makes the change. Writing never
fails; a change of shape may be refused, and then nothing is changed. The four places to insert a node
at differ in the slot that they stand for (`Store.slot?`).
-/

namespace MarkTree

/-- A change of one thing that a node says. -/
inductive PayloadWrite
  | text (value : String)
  | html (value : String)
  | value (value : String)
  | attribute (key value : String)
  | tabDepth (depth : Nat)
deriving DecidableEq, Repr

def PayloadWrite.apply : PayloadWrite → Payload → Payload
  | .text v => Payload.setText v
  | .html v => Payload.setHtml v
  | .value v => Payload.setValue v
  | .attribute k v => Payload.setAttribute k v
  | .tabDepth d => Payload.setTabDepth d

/-- A place for a node, seen from another node. -/
inductive Place
  /-- The last child. -/
  | last
  /-- The first child. -/
  | first
  /-- The next child of the same parent. -/
  | after
  /-- The child of the same parent that comes before. -/
  | before
deriving DecidableEq, Repr

/-- A change of a store; `α` is the type of what names a node. -/
inductive Change (α : Type)
  | write (on : α) (what : PayloadWrite)
  | insert (place : Place) (on node : α)
  | remove (on : α)
  | clear (on : α)
deriving DecidableEq, Repr

/-- Turns the names in a change into what they name, the one worked on first. -/
def Change.resolve {α β ε : Type} (f : α → Except ε β) : Change α → Except ε (Change β)
  | .write on what => do return .write (← f on) what
  | .insert place on node => do return .insert place (← f on) (← f node)
  | .remove on => do return .remove (← f on)
  | .clear on => do return .clear (← f on)

namespace Store

/-- The node under which a place seen from `on` lies, and the position in that node's list. -/
def slot? (s : Store) : Place → NodeId → Option (NodeId × Nat)
  | .last, on => some (on, (s.childList on).length)
  | .first, on => some (on, 0)
  | .after, on => (s.place? on).map fun q => (q.1, q.2 + 1)
  | .before, on => s.place? on

/-- Puts `n` at position `i` into the list of `t`. -/
def putAt (s : Store) (t : NodeId) (i : Nat) (n : NodeId) : Store := s.link t n (·.insertIdx i n)

/-- Puts `n` into a place seen from `on`. -/
def insert (s : Store) (place : Place) (on n : NodeId) : Except EditError Store :=
  match place with
  | .last => s.append on n
  | .first => s.prepend on n
  | .after => s.insertAfter on n
  | .before => s.insertBefore on n

def apply (s : Store) : Change NodeId → Except EditError Store
  | .write on what => .ok (s.edit on what.apply)
  | .insert place on n => s.insert place on n
  | .remove on => s.remove on
  | .clear on => .ok (s.clear on)

end Store

end MarkTree
