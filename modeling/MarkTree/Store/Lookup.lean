import MarkTree.Store.Search

/-!
# Lookups

The lookups from a node as data: a `Query` answers with any number of nodes, a `Lookup` with at most
one. A lookup of one node that finds none gives a fresh placeholder, on which one can look further.
-/

namespace MarkTree

/-- A question about a node that any number of nodes answer. -/
inductive Query
  /-- The node and what stands below it. -/
  | search (kind : Kind)
  /-- What stands below the node. -/
  | find (kind : Kind)
  | children (kind : Kind)
  | ancestors
  | ancestorsWhile (kind : Kind)
  | siblings (kind : Kind)
  | siblingsOfKind (kind : Kind)
  /-- The siblings of the node's kind on one side. -/
  | all (side : Side)
  /-- The same up to the first sibling of kind `stop`. -/
  | upTo (side : Side) (stop : Kind)
deriving DecidableEq, Repr

/-- A question about a node that at most one node answers. -/
inductive Lookup
  | firstChild (kind : Kind)
  | lastChild (kind : Kind)
  | nearest (side : Side)
deriving DecidableEq, Repr

namespace Store

def query (s : Store) (n : NodeId) : Query → List NodeId
  | .search k => s.search k n
  | .find k => s.find k n
  | .children k => s.children k n
  | .ancestors => s.ancestors n
  | .ancestorsWhile k => s.ancestorsWhile k n
  | .siblings k => s.siblings k n
  | .siblingsOfKind k => s.siblingsOfKind k n
  | .all side => s.scan side none n
  | .upTo side stop => s.scan side (some stop) n

def lookup? (s : Store) (n : NodeId) : Lookup → Option NodeId
  | .firstChild k => s.firstChild? k n
  | .lastChild k => s.lastChild? k n
  | .nearest side => s.nearest? side n

/-- What was found, or a fresh placeholder. -/
def orPlaceholder (s : Store) : Option NodeId → NodeId × Store
  | some n => (n, s)
  | none => s.addPlaceholder

end Store

end MarkTree
