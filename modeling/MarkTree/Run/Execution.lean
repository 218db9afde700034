import MarkTree.Run.Inputs
import MarkTree.Markdown.BlockReader

/-!
# A run from its inputs to its listing

A run reads its inputs, makes a document of them, selects nodes, and writes their listing unless it
is quiet. The first step that fails ends it; the failure is reported once, and the run has found
nothing then. How a text becomes markup is a parameter of `runWith`.
-/

namespace MarkTree

variable {m : Type → Type} [Monad m]

/-- Writes texts one after the other, up to the first that cannot be written. -/
def Console.writeAll (con : Console m) : List String → m (Except String Unit)
  | [] => pure (.ok ())
  | t :: rest => do
    match ← con.write t with
    | .error why => pure (.error why)
    | .ok () => con.writeAll rest

def Console.print (con : Console m) (texts : List String) : m (Except String Unit) := do
  match ← con.writeAll texts with
  | .error why => pure (.error why)
  | .ok () => con.flush

/-- A console that cuts every text into pieces and writes them one after the other, up to the first that
cannot be written. -/
def Console.inPieces (con : Console m) (cut : String → List String) : Console m :=
  { con with write := fun t => con.writeAll (cut t) }

/-- The document that a text holds: its store and its top. -/
def documentOf (parse : String → Except String Markup) (lenient : Bool) (text : String) :
    Except ReadError (NodeId × Store) :=
  match parse text with
  | .error why => .error (.unparsable why)
  | .ok markup => Document.read lenient markup {}

/-- What a run is to write of the document below a node. -/
def Options.listing (o : Options) (s : Store) (root : NodeId) : String :=
  String.join (Listing.lines o.format s (s.select o.kind o.scope root))

/-- A run up to its failure: whether anything was selected. -/
def attempt (parse : String → Except String Markup) (con : Console m) (o : Options) :
    m (Except RunError Bool) := do
  match ← con.readAll o.paths with
  | .error e => pure (.error e)
  | .ok text =>
    match documentOf parse o.lenient text with
    | .error e => pure (.error (.document e))
    | .ok (root, s) =>
      let selected := s.select o.kind o.scope root
      if o.quiet then pure (.ok !selected.isEmpty)
      else
        match ← con.print (Listing.lines o.format s selected) with
        | .error why => pure (.error (.output why))
        | .ok () => pure (.ok !selected.isEmpty)

/-- A run with a given way of reading Markdown. -/
def runWith (parse : String → Except String Markup) (con : Console m) (o : Options) : m Bool := do
  match ← attempt parse con o with
  | .error e => do
    con.report e
    pure false
  | .ok found => pure found

/-- The markup of a text; every text is Markdown. -/
def parseGithub (text : String) : Except String Markup := .ok (Markdown.parse .github text)

/-- A run on Markdown as GitHub reads it. -/
def run (con : Console m) (o : Options) : m Bool := runWith parseGithub con o

end MarkTree
