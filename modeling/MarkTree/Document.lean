import MarkTree.Markup
import MarkTree.Store.Edit

/-!
# From markup to a tree of nodes

Every part of the markup becomes one node, in the same order. A node's text is what it says itself
followed by the texts of its children; its tab depth is the number of list items around it. A
reference takes its target from the first definition with its label, wherever that stands.

Embedded programs have no kind of node. They are refused, or left out with all they contain if the
reader is lenient; definitions inside them count all the same.
-/

namespace MarkTree

/-- Why a document cannot be read. -/
inductive ReadError
  /-- The document holds something that no node stands for. -/
  | unsupported (what : String)
  /-- The text is not Markdown. -/
  | unparsable (why : String)
  /-- A node could not be put in its place. -/
  | tree (cause : EditError)
deriving DecidableEq, Repr

def ReadError.message : ReadError → String
  | .unsupported what => "unsupported markdown: " ++ what
  | .unparsable why => "couldn't parse markdown: " ++ why
  | .tree cause => "internal error while building the tree: " ++ cause.message

namespace Document

open Markup (Target)

/-- An attribute that is there only with a value. -/
def attributeOf (key : String) : Option String → List (String × String)
  | some v => [(key, v)]
  | none => []

/-- The target of a reference: empty if nothing defines the label. -/
def targetOf (defs : List (String × Target)) (label : String) : Target :=
  (defs.lookup label).getD ⟨"", none⟩

/-- What the node of a leaf says; none for an embedded program. The text is the leaf's own. -/
def leafPayload (defs : List (String × Target)) : Leaf → Option Payload
  | .text v => some { kind := .text, value := v, text := v }
  | .inlineCode v => some { kind := .inlineCode, value := v, text := v }
  | .inlineMath v => some { kind := .inlineMath, value := v, text := v }
  | .code v lang info => some
      { kind := .codeBlock, value := v, text := v,
        attributes := attributeOf "lang" lang ++ attributeOf "meta" info }
  | .math v info => some
      { kind := .codeBlock, value := v, text := v,
        attributes := ("lang", "math") :: attributeOf "meta" info }
  | .html v => some { kind := .html, value := v, html := v }
  | .yaml v => some { kind := .frontMatter, value := v, text := v, attributes := [("format", "yaml")] }
  | .toml v => some { kind := .frontMatter, value := v, text := v, attributes := [("format", "toml")] }
  | .lineBreak => some { kind := .lineBreak, value := "\n", text := "\n" }
  | .thematicBreak => some { kind := .thematicBreak }
  | .definition label url title => some
      { kind := .definition, value := url,
        attributes := [("id", label), ("href", url)] ++ attributeOf "title" title }
  | .footnoteReference label => some { kind := .footnoteReference, attributes := [("id", label)] }
  | .image url alt title => some
      { kind := .image, value := url, text := alt,
        attributes := [("src", url), ("alt", alt)] ++ attributeOf "title" title }
  | .imageReference label alt =>
    let target := targetOf defs label
    some
      { kind := .image, value := target.url, text := alt,
        attributes := [("src", target.url), ("alt", alt)] ++ attributeOf "title" target.title ++
          [("ref", label)] }
  | .embedded => none

/-- What the node of a container says, apart from its text; none for an embedded element. -/
def containerPayload (defs : List (String × Target)) : Container → Option Payload
  | .root => some { kind := .document }
  | .paragraph => some { kind := .paragraph }
  | .heading depth => some { kind := .title, attributes := [("depth", toString depth)] }
  | .blockQuote => some { kind := .blockQuote }
  | .list ordered start => some
      { kind := if ordered then .orderedList else .unorderedList,
        attributes := attributeOf "start" (start.map toString) }
  | .listItem checked => some
      { kind := .listItem, attributes := attributeOf "checked" (checked.map toString) }
  | .table => some { kind := .table }
  | .tableRow => some { kind := .tableRow }
  | .tableCell => some { kind := .tableCell }
  | .emphasis => some { kind := .emphasis }
  | .strong => some { kind := .strong }
  | .delete => some { kind := .delete }
  | .link url title => some
      { kind := .link, value := url, attributes := ("href", url) :: attributeOf "title" title }
  | .linkReference label =>
    let target := targetOf defs label
    some
      { kind := .link, value := target.url,
        attributes := ("href", target.url) :: attributeOf "title" target.title ++ [("ref", label)] }
  | .footnoteDefinition label => some { kind := .footnoteDefinition, attributes := [("id", label)] }
  | .embedded => none

/-- What happens to an embedded program: it is left out, or the document is refused. -/
def embedded (lenient : Bool) (s : Store) : Except ReadError (Option NodeId × Store) :=
  if lenient then .ok (none, s) else .error (.unsupported "mdx")

/-- Puts `child` last under `parent`. -/
def adopt (s : Store) (parent child : NodeId) : Except ReadError Store :=
  (s.append parent child).mapError .tree

mutual

/-- Adds the nodes of a part that `depth` list items enclose; gives the part's own node, unless it
is left out. -/
def build (defs : List (String × Target)) (lenient : Bool) (depth : Nat) :
    Markup → Store → Except ReadError (Option NodeId × Store)
  | .leaf part, s =>
    match leafPayload defs part with
    | none => embedded lenient s
    | some p =>
      let (n, s) := s.add { p with tabDepth := depth }
      .ok (some n, s)
  | .node part inside, s =>
    match containerPayload defs part with
    | none => embedded lenient s
    | some p => do
      let (n, s) := s.add { p with tabDepth := depth }
      let below := if p.kind = .listItem then depth + 1 else depth
      let (text, s) ← buildAll defs lenient below n "" inside s
      return (some n, s.edit n (Payload.setText text))

/-- Adds the nodes of parts under `parent`; gives `text` followed by their texts. -/
def buildAll (defs : List (String × Target)) (lenient : Bool) (depth : Nat) (parent : NodeId)
    (text : String) : List Markup → Store → Except ReadError (String × Store)
  | [], s => .ok (text, s)
  | m :: rest, s => do
    let (child, s) ← build defs lenient depth m s
    match child with
    | none => buildAll defs lenient depth parent text rest s
    | some c =>
      let s' ← adopt s parent c
      buildAll defs lenient depth parent (text ++ (s'.payload c).text) rest s'

end

/-- Adds the nodes of a document to a store; gives the node of its top. -/
def read (lenient : Bool) (m : Markup) (s : Store) : Except ReadError (NodeId × Store) := do
  match ← build m.definitions lenient 0 m s with
  | (some n, s) => return (n, s)
  | (none, _) => throw (.unsupported "document root")

end Document

end MarkTree
