import MarkTree.Store.Walk

/-!
# Changing the shape of trees

Insertion puts a node into a list of children and points its parent link there; it takes the node
out of no list it stood in before. Removal takes the first listing out and keeps the link. A
change either succeeds or leaves the store as it was.
-/

namespace MarkTree

/-- Why a change of shape is refused. -/
inductive EditError
  /-- The node has no parent, or its parent is gone. -/
  | noParent
  /-- The node's parent does not list it. -/
  | notListed
  /-- The node would come to stand below itself. -/
  | cycle
  /-- A placeholder cannot take a place in a tree. -/
  | placeholder
deriving DecidableEq, Repr

def EditError.message : EditError → String
  | .noParent => "node has no parent"
  | .notListed => "node is not among its parent's children"
  | .cycle => "node can't be inserted into its own subtree"
  | .placeholder => "placeholder nodes can't be part of a tree"

namespace Store

/-- Whether `n` may become a child of `target`: neither is a placeholder, and `n` is neither
`target` nor one of its ancestors. -/
def checkInsert (s : Store) (target n : NodeId) : Except EditError Unit :=
  if s.isPlaceholder target || s.isPlaceholder n then .error .placeholder
  else if n = target || (s.ancestors target).contains n then .error .cycle
  else .ok ()

/-- The node's parent and its first place there, or why there is none. -/
def attached (s : Store) (n : NodeId) : Except EditError (NodeId × Nat) :=
  match s.parent? n with
  | none => .error .noParent
  | some p =>
    match (s.childList p).idxOf? n with
    | none => .error .notListed
    | some i => .ok (p, i)

/-- Changes the list of children of a node. -/
def relist (s : Store) (p : NodeId) (f : List NodeId → List NodeId) : Store :=
  s.modify p fun c => { c with children := f c.children }

/-- Points the parent link of a node to another one. -/
def relink (s : Store) (n target : NodeId) : Store := s.modify n ({ · with parent := some target })

/-- Points the parent link of `n` to `target` and changes the list of `target`. -/
def link (s : Store) (target n : NodeId) (f : List NodeId → List NodeId) : Store :=
  (s.modify n ({ · with parent := some target })).modify target
    fun c => { c with children := f c.children }

def append (s : Store) (target n : NodeId) : Except EditError Store := do
  s.checkInsert target n
  return s.link target n (· ++ [n])

def prepend (s : Store) (target n : NodeId) : Except EditError Store := do
  s.checkInsert target n
  return s.link target n (n :: ·)

/-- Puts `n` directly behind `anchor`. -/
def insertAfter (s : Store) (anchor n : NodeId) : Except EditError Store := do
  let (p, i) ← s.attached anchor
  s.checkInsert p n
  return s.link p n (·.insertIdx (i + 1) n)

/-- Puts `n` directly in front of `anchor`. -/
def insertBefore (s : Store) (anchor n : NodeId) : Except EditError Store := do
  let (p, i) ← s.attached anchor
  s.checkInsert p n
  return s.link p n (·.insertIdx i n)

/-- Takes the node out of its parent's list, at its first place there. -/
def remove (s : Store) (n : NodeId) : Except EditError Store := do
  let (p, i) ← s.attached n
  return s.modify p fun c => { c with children := c.children.eraseIdx i }

def clear (s : Store) (n : NodeId) : Store := s.modify n ({ · with children := [] })

end Store

end MarkTree
