/-!
# Markup

The syntax tree of a Markdown document, before it becomes a tree of nodes. A part is a leaf, which
carries its own text, or a container with parts inside; the language does not restrict which parts
may stand in which container. References to definitions and notes are not resolved yet.
-/

namespace MarkTree

/-- A part of a document without parts inside. -/
inductive Leaf
  | text (value : String)
  | inlineCode (value : String)
  | inlineMath (value : String)
  | code (value : String) (lang info : Option String)
  | math (value : String) (info : Option String)
  | html (value : String)
  | yaml (value : String)
  | toml (value : String)
  | lineBreak
  | thematicBreak
  | definition (label url : String) (title : Option String)
  | footnoteReference (label : String)
  | image (url alt : String) (title : Option String)
  | imageReference (label alt : String)
  /-- An embedded program, expression or module statement (MDX). -/
  | embedded
deriving DecidableEq, Repr, Inhabited

/-- A part of a document with parts inside. -/
inductive Container
  | root
  | paragraph
  | heading (depth : Nat)
  | blockQuote
  | list (ordered : Bool) (start : Option Nat)
  | listItem (checked : Option Bool)
  | table
  | tableRow
  | tableCell
  | emphasis
  | strong
  | delete
  | link (url : String) (title : Option String)
  | linkReference (label : String)
  | footnoteDefinition (label : String)
  /-- An embedded element (MDX). -/
  | embedded
deriving DecidableEq, Repr

/-- A Markdown document or a part of one. -/
inductive Markup
  | leaf (part : Leaf)
  | node (part : Container) (inside : List Markup)
deriving Repr, Inhabited

namespace Markup

/-- A link definition: where it leads and how it is titled. -/
structure Target where
  url : String
  title : Option String
deriving DecidableEq, Repr

mutual

/-- All definitions in the document with their labels, in the order of the document. -/
def definitions : Markup → List (String × Target)
  | .leaf (.definition label url title) => [(label, ⟨url, title⟩)]
  | .leaf _ => []
  | .node _ inside => definitionsIn inside

def definitionsIn : List Markup → List (String × Target)
  | [] => []
  | m :: rest => definitions m ++ definitionsIn rest

end

mutual

/-- The text of the leaves, without breaks and images: what an image shows instead of the picture. -/
def plainText : Markup → String
  | .leaf (.text v) | .leaf (.inlineCode v) | .leaf (.inlineMath v) | .leaf (.html v) => v
  | .leaf (.code v _ _) | .leaf (.math v _) | .leaf (.yaml v) | .leaf (.toml v) => v
  | .leaf _ => ""
  | .node _ inside => plainTextIn inside

/-- The text of a list of parts. -/
def plainTextIn : List Markup → String
  | [] => ""
  | m :: rest => plainText m ++ plainTextIn rest

end

end Markup

end MarkTree
