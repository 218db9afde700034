import MarkTree.Store.Basic

/-!
# Lifetimes

A node stays as long as somebody holds it or a node that is there lists it. Reclaiming empties the
cells that nobody holds or lists, again and again until none is left; each round but the last
empties one cell at least, so there are no more rounds than cells. Nodes that only list each other
in a ring keep each other.
-/

namespace MarkTree.Store

/-- Whether a cell that is there lists `n`. -/
def listed (s : Store) (n : NodeId) : Bool :=
  s.cells.any fun c => c.elim false (·.children.contains n)

def kept (s : Store) (held : List NodeId) (n : NodeId) : Bool := held.contains n || s.listed n

/-- Whether some cell is there that is neither held nor listed. -/
def hasGarbage (s : Store) (held : List NodeId) : Bool :=
  (List.range s.size).any fun n => s.alive n && !s.kept held n

/-- Empties the cells that are neither held nor listed. -/
def sweep (s : Store) (held : List NodeId) : Store :=
  { s with cells := s.cells.mapIdx fun n c => if s.kept held n then c else none }

/-- At most the given number of rounds of sweeping. -/
def sweepTimes (held : List NodeId) : Nat → Store → Store
  | 0, s => s
  | rounds + 1, s => if s.hasGarbage held then sweepTimes held rounds (s.sweep held) else s

/-- The store once every node is gone that no held node keeps. -/
def reclaim (s : Store) (held : List NodeId) : Store := sweepTimes held s.size s

end MarkTree.Store
