import MarkTree.Text.Quoted

/-!
# Kinds of nodes

Every node of a document has a kind, and every lookup takes one as its test. `Kind.any` is the
wildcard of lookups: it accepts every node. `Kind.unset` is the kind of a node that was given none.
-/

namespace MarkTree

/-- What a node of a document is. -/
inductive Kind
  | unset
  | any
  | document
  | title
  | paragraph
  | unorderedList
  | orderedList
  | listItem
  | blockQuote
  | codeBlock
  | thematicBreak
  | table
  | tableRow
  | tableCell
  | html
  | frontMatter
  | definition
  | footnoteDefinition
  | link
  | image
  | text
  | emphasis
  | strong
  | delete
  | inlineCode
  | inlineMath
  | lineBreak
  | footnoteReference
deriving DecidableEq, Repr, Inhabited, Ord

namespace Kind

/-- The name of a kind, in lower case with dashes. -/
def name : Kind → String
  | unset => "unset"
  | any => "any"
  | document => "document"
  | title => "title"
  | paragraph => "paragraph"
  | unorderedList => "unordered-list"
  | orderedList => "ordered-list"
  | listItem => "list-item"
  | blockQuote => "block-quote"
  | codeBlock => "code-block"
  | thematicBreak => "thematic-break"
  | table => "table"
  | tableRow => "table-row"
  | tableCell => "table-cell"
  | html => "html"
  | frontMatter => "front-matter"
  | definition => "definition"
  | footnoteDefinition => "footnote-definition"
  | link => "link"
  | image => "image"
  | text => "text"
  | emphasis => "emphasis"
  | strong => "strong"
  | delete => "delete"
  | inlineCode => "inline-code"
  | inlineMath => "inline-math"
  | lineBreak => "break"
  | footnoteReference => "footnote-reference"

/-- All kinds, in their order. -/
def all : List Kind :=
  [unset, any, document, title, paragraph, unorderedList, orderedList, listItem, blockQuote,
    codeBlock, thematicBreak, table, tableRow, tableCell, html, frontMatter, definition,
    footnoteDefinition, link, image, text, emphasis, strong, delete, inlineCode, inlineMath,
    lineBreak, footnoteReference]

/-- The kinds that can be asked for by name: all but `unset`. -/
def selectable : List Kind := all.erase unset

/-- Capitalises the words between the dashes of a name and joins them. -/
def capitalized : Bool → List Char → List Char
  | _, [] => []
  | start, c :: cs =>
    if c == '-' then capitalized true cs
    else (if start then c.toUpper else c) :: capitalized false cs

/-- The name of a kind as one capitalised word, as descriptions of a node show it. -/
def label (k : Kind) : String := String.ofList (capitalized true k.name.toList)

/-- Whether a node of kind `k` is accepted by the test `query`. -/
def accepts (query k : Kind) : Bool := query == any || k == query

/-- The kind of a name, `unset` included. -/
def named? (s : String) : Option Kind := all.find? (·.name == s)

/-- A name that no selectable kind has. -/
structure UnknownKind where
  name : String
deriving DecidableEq, Repr

def UnknownKind.message (e : UnknownKind) : String := "unknown node type: " ++ Text.quoted e.name

/-- The selectable kind of a name. -/
def ofName (s : String) : Except UnknownKind Kind :=
  match selectable.find? (·.name == s) with
  | some k => .ok k
  | none => .error ⟨s⟩

end Kind

end MarkTree
