import MarkTree.Kind

/-!
# The store of nodes

Nodes are addressed by identity: two nodes with equal contents are still two nodes. A store maps
identities to cells; a cell holds what the node says (its payload), the node it was last put under,
and the nodes it owns, in order. An identity is never used twice, and the cell of a node that is
gone is empty.

A node owns its children; the link to the parent owns nothing. The two may disagree: insertion
takes nothing out of the list a node stood in before, and removal leaves the parent link as it is.
-/

namespace MarkTree

/-- The identity of a node. -/
abbrev NodeId := Nat

/-- What a node says, apart from its place in a tree. -/
structure Payload where
  kind : Kind := .unset
  text : String := ""
  html : String := ""
  value : String := ""
  tabDepth : Nat := 0
  attributes : List (String × String) := []
  placeholder : Bool := false
deriving DecidableEq, Repr, Inhabited

/-- A node's payload, the node it was last put under, and the nodes it owns. -/
structure Cell where
  payload : Payload := {}
  parent : Option NodeId := none
  children : List NodeId := []
deriving DecidableEq, Repr, Inhabited

/-- All nodes there ever were; the cells of those that are gone are empty. -/
structure Store where
  cells : Array (Option Cell) := #[]
deriving DecidableEq, Repr, Inhabited

namespace Store

/-- The cell of a node, if the node is there. -/
def get? (s : Store) (n : NodeId) : Option Cell := (s.cells[n]?).join

/-- Whether a node is there. -/
def alive (s : Store) (n : NodeId) : Bool := (s.get? n).isSome

/-- The number of identities given out so far. -/
def size (s : Store) : Nat := s.cells.size

/-- The payload of a node; an absent one has the payload of a fresh node. -/
def payload (s : Store) (n : NodeId) : Payload := (s.get? n).elim {} (·.payload)

def kind (s : Store) (n : NodeId) : Kind := (s.payload n).kind

/-- The nodes that a node owns, in order. -/
def childList (s : Store) (n : NodeId) : List NodeId := (s.get? n).elim [] (·.children)

/-- The node's parent: the node it was last put under, as long as that one is there. -/
def parent? (s : Store) (n : NodeId) : Option NodeId := ((s.get? n).bind (·.parent)).filter s.alive

/-- Whether a node is a stand-in for one that was not found. -/
def isPlaceholder (s : Store) (n : NodeId) : Bool := (s.payload n).placeholder

/-- The node itself, unless it is a placeholder. -/
def found? (s : Store) (n : NodeId) : Option NodeId := if s.isPlaceholder n then none else some n

/-- Adds a node that stands alone, and gives its identity. -/
def add (s : Store) (p : Payload) : NodeId × Store :=
  (s.size, { s with cells := s.cells.push (some { payload := p }) })

/-- Adds a fresh stand-in for a node that was not found. -/
def addPlaceholder (s : Store) : NodeId × Store := s.add { placeholder := true }

/-- Changes the cell of a node, if the node is there. -/
def modify (s : Store) (n : NodeId) (f : Cell → Cell) : Store :=
  { s with cells := s.cells.modify n (·.map f) }

/-- Changes a payload; a placeholder keeps the one it has. -/
def edit (s : Store) (n : NodeId) (f : Payload → Payload) : Store :=
  s.modify n fun c => if c.payload.placeholder then c else { c with payload := f c.payload }

end Store

namespace Payload

/-- Puts a value under a key: in place of the one there, else at the end. -/
def putAttribute (key value : String) : List (String × String) → List (String × String)
  | [] => [(key, value)]
  | (k, v) :: rest => if k == key then (key, value) :: rest else (k, v) :: putAttribute key value rest

def attribute? (p : Payload) (key : String) : Option String := p.attributes.lookup key

def setText (t : String) (p : Payload) : Payload := { p with text := t }

def setHtml (t : String) (p : Payload) : Payload := { p with html := t }

def setValue (t : String) (p : Payload) : Payload := { p with value := t }

def setTabDepth (d : Nat) (p : Payload) : Payload := { p with tabDepth := d }

def setAttribute (key value : String) (p : Payload) : Payload :=
  { p with attributes := putAttribute key value p.attributes }

end Payload

namespace Store

/-- A description of a node on one line: kind, text and the number of children. -/
def describe (s : Store) (n : NodeId) : String :=
  let p := s.payload n
  "Node \x7b type: " ++ p.kind.label ++ ", text: " ++ Text.quoted p.text ++ ", children: " ++
    toString (s.childList n).length ++ (if p.placeholder then ", placeholder: true" else "") ++ " \x7d"

end Store

end MarkTree
