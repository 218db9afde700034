import MarkTree.Document
import MarkTree.Listing
import MarkTree.Markdown.BlockReader
import MarkTree.Session.Basic
import MarkTree.Store.Change
import MarkTree.Store.Lookup

/-!
# Steps of a session

A step makes or finds one node, finds a sequence of nodes, asks a question, changes the store, or
forgets a name. What a step makes or finds can be given a name. Its answer shows one node with the
new name already given, and a sequence with the names there were before. After every step all nodes
that no name keeps are gone, so that nothing lasts longer than the step that made it unless it was
given a name.

A run is a list of steps. Callers promise things about what they insert, a promise being a condition on
the node, the one it is put under, and the store at that time (`Heeds`).
-/

namespace MarkTree

/-- A step that makes or finds one node. -/
inductive NodeStep
  | create (payload : Payload)
  | again (on : String)
  /-- Reads the markup of a text, with nothing left out. -/
  | parse (text : String)
  | read (lenient : Bool) (markup : Markup)
  | found (on : String)
  | parent (on : String)
  | lookup (on : String) (question : Lookup)
  | pick (on : String) (index : Nat)

/-- A step that finds a sequence of nodes. -/
inductive NodesStep
  | query (on : String) (question : Query)
  | filter (on : String) (kind : Kind)
  | exclude (on : String) (kind : Kind)
  | gather (nodes : List String)
  | join (on more : String)

/-- A question that is not answered by nodes. -/
inductive Question
  | facts (on : String)
  | attribute (on key : String)
  | tree (on : String)
  | same (on other : String)
  | count (on : String)
  | contains (on node : String)
  | equal (on other : String)
  | listing (format : ListingFormat) (on : String)

/-- A step of a session. -/
inductive Step
  | node (step : NodeStep) (name : Option String)
  | nodes (step : NodesStep) (name : Option String)
  | ask (question : Question)
  | change (change : Change String)
  | forget (name : String)

/-- Why a step fails. -/
inductive StepError
  | name (cause : NameError)
  | edit (cause : EditError)
  | read (cause : ReadError)
deriving DecidableEq, Repr

/-- What an answer shows of a node. -/
structure NodeView where
  kind : Kind
  text : String
  names : List String
  placeholder : Bool
deriving DecidableEq, Repr

/-- The answer to a step. -/
inductive Answer
  | done
  | node (view : Option NodeView)
  | nodes (views : List NodeView)
  | facts (payload : Payload) (description : String)
  | attribute (value : Option String)
  | tree (rows : List (Nat × Payload))
  | truth (value : Bool)
  | count (number : Nat)
  | text (value : String)
deriving DecidableEq, Repr

namespace Session

def view (ses : Session) (n : NodeId) : NodeView :=
  let p := ses.store.payload n
  { kind := p.kind, text := p.text, names := ses.namesOf n, placeholder := p.placeholder }

/-- The node that a name stands for, as part of a step. -/
def nodeFor (ses : Session) (name : String) : Except StepError NodeId :=
  (ses.node name).mapError .name

/-- The sequence that a name stands for, as part of a step. -/
def nodesFor (ses : Session) (name : String) : Except StepError (List NodeId) :=
  (ses.nodes name).mapError .name

/-- A document that is read into the store. -/
def readInto (ses : Session) (lenient : Bool) (m : Markup) : Except StepError (NodeId × Store) :=
  (Document.read lenient m ses.store).mapError .read

/-- Makes or finds one node; only `found` and `parent` may find none. -/
def oneNode (ses : Session) : NodeStep → Except StepError (Option NodeId × Store)
  | .create p =>
    let (n, s) := ses.store.add p
    .ok (some n, s)
  | .again on => do return (some (← ses.nodeFor on), ses.store)
  | .parse text => do
    let (n, s) ← ses.readInto false (Markdown.parse .github text)
    return (some n, s)
  | .read lenient markup => do
    let (n, s) ← ses.readInto lenient markup
    return (some n, s)
  | .found on => do return (ses.store.found? (← ses.nodeFor on), ses.store)
  | .parent on => do return (ses.store.parent? (← ses.nodeFor on), ses.store)
  | .lookup on question => do
    let (n, s) := ses.store.orPlaceholder (ses.store.lookup? (← ses.nodeFor on) question)
    return (some n, s)
  | .pick on index => do
    let (n, s) := ses.store.orPlaceholder (← ses.nodesFor on)[index]?
    return (some n, s)

def manyNodes (ses : Session) : NodesStep → Except StepError (List NodeId)
  | .query on question => do return ses.store.query (← ses.nodeFor on) question
  | .filter on kind => do return ses.store.filter kind (← ses.nodesFor on)
  | .exclude on kind => do return ses.store.exclude kind (← ses.nodesFor on)
  | .gather names => names.mapM ses.nodeFor
  | .join on more => do return (← ses.nodesFor on) ++ (← ses.nodesFor more)

def answer (ses : Session) : Question → Except StepError Answer
  | .facts on => do
    let n ← ses.nodeFor on
    return .facts (ses.store.payload n) (ses.store.describe n)
  | .attribute on key => do return .attribute ((ses.store.payload (← ses.nodeFor on)).attribute? key)
  | .tree on => do
    let n ← ses.nodeFor on
    return .tree ((ses.store.levels n).map fun (level, m) => (level, ses.store.payload m))
  | .same on other => do return .truth ((← ses.nodeFor on) == (← ses.nodeFor other))
  | .count on => do return .count (← ses.nodesFor on).length
  | .contains on node => do return .truth ((← ses.nodesFor on).contains (← ses.nodeFor node))
  | .equal on other => do return .truth ((← ses.nodesFor on) == (← ses.nodesFor other))
  | .listing format on => do
    let h ← (ses.holding on).mapError .name
    return .text (String.join (Listing.lines format ses.store h.nodes))

def makeChange (ses : Session) (c : Change String) : Except StepError Store := do
  let c ← c.resolve ses.nodeFor
  (ses.store.apply c).mapError .edit

/-- Does a step and answers it; a step that fails does nothing. -/
def perform (ses : Session) : Step → Except StepError (Session × Answer)
  | .node step name => do
    match ← ses.oneNode step with
    | (none, s) => return ({ ses with store := s }, .node none)
    | (some n, s) =>
      let ses' := ({ ses with store := s } : Session).hold name (.one n)
      return (ses', .node (some (ses'.view n)))
  | .nodes step name => do
    let ns ← ses.manyNodes step
    return (ses.hold name (.many ns), .nodes (ns.map ses.view))
  | .ask question => do return (ses, ← ses.answer question)
  | .change c => do return ({ ses with store := ← ses.makeChange c }, .done)
  | .forget name => do
    let _ ← (ses.holding name).mapError .name
    return (ses.forget name, .done)

/-- Does a step, answers it, and lets go of what no name keeps. -/
def step (ses : Session) (st : Step) : Session × Except StepError Answer :=
  match ses.perform st with
  | .ok (ses', a) => (ses'.settle, .ok a)
  | .error e => (ses.settle, .error e)

/-- Does steps one after the other, each with its answer. -/
def steps (ses : Session) : List Step → List (Except StepError Answer)
  | [] => []
  | st :: rest =>
    let (ses', a) := ses.step st
    a :: steps ses' rest

/-- The session after some steps. -/
def after (ses : Session) : List Step → Session
  | [] => ses
  | st :: rest => (ses.step st).1.after rest

/-- If a step puts a node under another one: the one it is put under, and the node. -/
def insertion? (ses : Session) : Step → Option (NodeId × NodeId)
  | .change (.insert place on node) =>
    match ses.node on, ses.node node with
    | .ok o, .ok n =>
      match ses.store.insert place o n with
      | .ok _ => (ses.store.slot? place o).map fun q => (q.1, n)
      | .error _ => none
    | _, _ => none
  | _ => none

/-- Whether `may` allows what some steps insert, each in the store that the steps before it left. -/
def Heeds (may : Store → NodeId → NodeId → Prop) (ses : Session) : List Step → Prop
  | [] => True
  | st :: rest => (∀ q ∈ ses.insertion? st, may ses.store q.1 q.2) ∧ (ses.step st).1.Heeds may rest

instance Heeds.decidable (may : Store → NodeId → NodeId → Prop) [∀ s t n, Decidable (may s t n)]
    (ses : Session) : (sts : List Step) → Decidable (ses.Heeds may sts)
  | [] => .isTrue trivial
  | st :: rest =>
    have := Heeds.decidable may (ses.step st).1 rest
    inferInstanceAs (Decidable ((∀ q ∈ ses.insertion? st, may ses.store q.1 q.2) ∧ _))

end Session

end MarkTree
