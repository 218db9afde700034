import MarkTree.Store.Lifetime
import MarkTree.Store.Search

/-!
# Sessions

A session works on one store and holds nodes by name. A name stands for one node or for a sequence
of nodes; either keeps its nodes there, and with them all that stands below. Sequences are
snapshots: later changes of the tree do not change them. `Session.settle` lets go of what no name
keeps.
-/

namespace MarkTree

/-- What a name stands for. -/
inductive Holding
  | one (node : NodeId)
  | many (nodes : List NodeId)
deriving DecidableEq, Repr

def Holding.nodes : Holding → List NodeId
  | .one n => [n]
  | .many ns => ns

/-- A store with names for some of its nodes. -/
structure Session where
  store : Store := {}
  holdings : List (String × Holding) := []
deriving Repr

/-- Why a step of a session fails before it has done anything. -/
inductive NameError
  /-- Nothing has this name. -/
  | unknown (name : String)
  /-- The name stands for a sequence where one node is wanted. -/
  | notOne (name : String)
  /-- The name stands for one node where a sequence is wanted. -/
  | notMany (name : String)
deriving DecidableEq, Repr

namespace Session

def holding (ses : Session) (name : String) : Except NameError Holding :=
  match ses.holdings.lookup name with
  | some h => .ok h
  | none => .error (.unknown name)

def node (ses : Session) (name : String) : Except NameError NodeId := do
  match ← ses.holding name with
  | .one n => return n
  | .many _ => throw (.notOne name)

/-- The sequence of nodes that a name stands for. -/
def nodes (ses : Session) (name : String) : Except NameError (List NodeId) := do
  match ← ses.holding name with
  | .one _ => throw (.notMany name)
  | .many ns => return ns

def forget (ses : Session) (name : String) : Session :=
  { ses with holdings := ses.holdings.filter (·.1 != name) }

/-- Lets a name stand for something; what it stood for before is forgotten. -/
def hold (ses : Session) (name : Option String) (h : Holding) : Session :=
  match name with
  | none => ses
  | some name => { ses with holdings := (name, h) :: (ses.forget name).holdings }

def held (ses : Session) : List NodeId := ses.holdings.flatMap (·.2.nodes)

/-- The names of a node itself, in the order of their code points. -/
def namesOf (ses : Session) (n : NodeId) : List String :=
  (ses.holdings.filterMap fun (name, h) => if h = .one n then some name else none).mergeSort
    fun a b => decide (a ≤ b)

/-- Lets go of all nodes that no name keeps. -/
def settle (ses : Session) : Session := { ses with store := ses.store.reclaim ses.held }

end Session

end MarkTree
