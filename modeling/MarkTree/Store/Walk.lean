import MarkTree.Store.Basic

/-!
# Walking upwards and sideways

A walk upwards follows parent links, nearest ancestor first. The family of a node is the list of
its parent's children, provided that list still holds the node; a sibling walk goes through the
family from the node's first place in it, nearest sibling first.

* `Store.ancestorsWhile`: the ancestors up to the first that a test refuses.
* `Store.scan`: the siblings on one side that share the node's kind, up to a stop.
-/

namespace MarkTree

/-- The two directions of a sibling walk. -/
inductive Side
  | after
  | before
deriving DecidableEq, Repr

namespace Store

/-- At most `steps` steps up from `n`, as long as `query` accepts. -/
def climb (s : Store) (query : Kind) : Nat → NodeId → List NodeId
  | 0, _ => []
  | steps + 1, n =>
    match s.parent? n with
    | none => []
    | some p => if query.accepts (s.kind p) then p :: climb s query steps p else []

/-- The run of ancestors, nearest first, up to the first that `query` does not accept. A chain of
different nodes is no longer than the store. -/
def ancestorsWhile (s : Store) (query : Kind) (n : NodeId) : List NodeId := s.climb query s.size n

/-- All ancestors, nearest first. -/
def ancestors (s : Store) (n : NodeId) : List NodeId := s.ancestorsWhile .any n

def children (s : Store) (query : Kind) (n : NodeId) : List NodeId :=
  (s.childList n).filter fun c => query.accepts (s.kind c)

/-- The other children of the node's parent that `query` accepts. -/
def siblingsOfKind (s : Store) (query : Kind) (n : NodeId) : List NodeId :=
  match s.parent? n with
  | none => []
  | some p => (s.childList p).filter fun m => m != n && query.accepts (s.kind m)

/-- With the wildcard the other children of the node's parent; with another kind the node's own
children of that kind. -/
def siblings (s : Store) (query : Kind) (n : NodeId) : List NodeId :=
  if query = .any then s.siblingsOfKind .any n
  else (s.children query n).filter (· != n)

/-- The node's parent and the node's first place among the parent's children. -/
def place? (s : Store) (n : NodeId) : Option (NodeId × Nat) := do
  let p ← s.parent? n
  let i ← (s.childList p).idxOf? n
  return (p, i)

/-- The siblings on one side, nearest first. -/
def sideOf (s : Store) (side : Side) (n : NodeId) : List NodeId :=
  match s.place? n with
  | none => []
  | some (p, i) =>
    match side with
    | .after => (s.childList p).drop (i + 1)
    | .before => ((s.childList p).take i).reverse

/-- Of the given nodes those of kind `own`, up to the first whose kind is exactly `stop`. -/
def collect (s : Store) (own : Kind) (stop : Option Kind) : List NodeId → List NodeId
  | [] => []
  | m :: rest =>
    if some (s.kind m) = stop then []
    else if s.kind m = own then m :: collect s own stop rest
    else collect s own stop rest

/-- The siblings on one side with the node's own kind, nearest first, up to the first sibling whose
kind is exactly `stop`. -/
def scan (s : Store) (side : Side) (stop : Option Kind) (n : NodeId) : List NodeId :=
  s.collect (s.kind n) stop (s.sideOf side n)

/-- The nearest sibling on one side with the node's own kind. -/
def nearest? (s : Store) (side : Side) (n : NodeId) : Option NodeId := (s.scan side none n).head?

def firstChild? (s : Store) (query : Kind) (n : NodeId) : Option NodeId :=
  (s.childList n).find? fun c => query.accepts (s.kind c)

def lastChild? (s : Store) (query : Kind) (n : NodeId) : Option NodeId :=
  (s.childList n).findRev? fun c => query.accepts (s.kind c)

end Store

end MarkTree
