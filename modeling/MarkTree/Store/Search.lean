import MarkTree.Store.Walk

/-!
# Searching downwards

Both searches go through the nodes below a node in the order of the document: a node before its
children, and the children in their order.

* `Store.search` takes the node itself in and lets the wildcard accept everything.
* `Store.find` leaves the node itself out, compares kinds for equality, and answers the wildcard
  with the children alone.

Below a node no path of different nodes is longer than the store, which bounds the depth.
-/

namespace MarkTree.Store

/-- The accepted nodes from `n` down, to a bounded depth. -/
def searchTo (s : Store) (query : Kind) : Nat → NodeId → List NodeId
  | 0, _ => []
  | depth + 1, n =>
    let below := (s.childList n).flatMap (searchTo s query depth)
    if query.accepts (s.kind n) then n :: below else below

/-- The nodes that `query` accepts among the node and all nodes below it. -/
def search (s : Store) (query : Kind) (n : NodeId) : List NodeId := s.searchTo query s.size n

/-- The nodes of kind `k` below `n`, to a bounded depth. -/
def findTo (s : Store) (k : Kind) : Nat → NodeId → List NodeId
  | 0, _ => []
  | depth + 1, n =>
    (s.childList n).flatMap fun c =>
      if s.kind c = k then c :: findTo s k depth c else findTo s k depth c

/-- The nodes of kind `k` below the node; for the wildcard the node's children. -/
def find (s : Store) (k : Kind) (n : NodeId) : List NodeId :=
  if k = .any then s.children .any n else s.findTo k s.size n

def filter (s : Store) (query : Kind) (ns : List NodeId) : List NodeId :=
  ns.filter fun n => query.accepts (s.kind n)

/-- The given nodes of another kind than `k`; none for the wildcard. -/
def exclude (s : Store) (k : Kind) (ns : List NodeId) : List NodeId :=
  if k = .any then [] else ns.filter fun n => s.kind n != k

/-- The nodes from `n` down with their levels, to a bounded depth. -/
def levelsTo (s : Store) : Nat → Nat → NodeId → List (Nat × NodeId)
  | 0, _, _ => []
  | depth + 1, level, n =>
    (level, n) :: (s.childList n).flatMap (levelsTo s depth (level + 1))

/-- The node and all nodes below it with their levels; the node has level 0. -/
def levels (s : Store) (n : NodeId) : List (Nat × NodeId) := s.levelsTo s.size 0 n

/-- The nodes of kind `k` that stand below a node accepted by `scope`, each once, in the order in
which the scopes reach them first; without a scope all that `search` gives. -/
def select (s : Store) (k : Kind) (scope : Option Kind) (root : NodeId) : List NodeId :=
  match scope with
  | none => s.search k root
  | some w => ((s.search w root).flatMap (s.find k)).eraseDups

end MarkTree.Store
