import MarkTree.Store.Search

/-!
# Listings

Nodes are listed one per line. The plain listing shows a node's kind and its quoted text; the
outline shows the whole tree below each node, two spaces further in per level, with the quoted
value of every node that has one. Quoting keeps every line on one line.
-/

namespace MarkTree

/-- How selected nodes are written. -/
inductive ListingFormat
  | plain
  | tree
deriving DecidableEq, Repr

def ListingFormat.name : ListingFormat → String
  | .plain => "plain"
  | .tree => "tree"

def ListingFormat.all : List ListingFormat := [.plain, .tree]

def ListingFormat.named? (s : String) : Option ListingFormat :=
  ListingFormat.all.find? (·.name == s)

namespace Listing

/-- The line of a node in the plain listing. -/
def plainLine (s : Store) (n : NodeId) : String :=
  (s.kind n).name ++ " " ++ Text.quoted (s.payload n).text ++ "\n"

def plain (s : Store) (ns : List NodeId) : List String := ns.map (plainLine s)

def indentation (level : Nat) : String := String.ofList (List.replicate (2 * level) ' ')

/-- The line of a node in an outline. -/
def outlineLine (s : Store) (level : Nat) (n : NodeId) : String :=
  let value := (s.payload n).value
  indentation level ++ (s.kind n).name ++
    (if value.isEmpty then "" else " " ++ Text.quoted value) ++ "\n"

/-- The lines of the tree below `n`, to a bounded depth. -/
def outlineTo (s : Store) : Nat → Nat → NodeId → List String
  | 0, _, _ => []
  | depth + 1, level, n =>
    outlineLine s level n :: (s.childList n).flatMap (outlineTo s depth (level + 1))

/-- The outlines of the trees below the given nodes, one after the other. -/
def outline (s : Store) (ns : List NodeId) : List String := ns.flatMap (outlineTo s s.size 0)

def lines (format : ListingFormat) (s : Store) (ns : List NodeId) : List String :=
  match format with
  | .plain => plain s ns
  | .tree => outline s ns

end Listing

end MarkTree
