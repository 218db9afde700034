import MarkTree.Markdown.LineStart

/-!
# The open block

The block at the end of the innermost container, as long as further lines may belong to it, and what
it turns out to be when it is closed. Text is the only block whose kind is open until then: the
definitions at its start are blocks of their own, and what is left is a paragraph, or a heading if a
line underlines it.
-/

namespace MarkTree.Markdown

/-- The block at the end of the innermost container, as long as further lines may belong to it. -/
inductive OpenBlock
  | none
  /-- The line before underlined a heading. -/
  | underlined
  /-- Lines of text, the last one first. Above them may stand an underline that is text itself, because
  there is nothing but definitions above it. `head` tells whether the last line may be the head of a
  table. -/
  | text (above : Option Span) (lines : List Span) (head : Bool)
  | fence (fence : Fence) (body : Option String)
  | html (ends : HtmlEnd) (body : String)
  /-- Indented code, and the line endings of the blank lines behind it. -/
  | indented (body pending : String)
  /-- The rows of a table, the last one first. -/
  | table (rows : List (List Span))
deriving Repr, Inhabited

/-- The definitions at the start of some lines of text, and the lines behind them. -/
def splitDefinitions (src : Source) (lines : List Span) : List Block × List Span :=
  let p := Passage.ofSpans src lines
  let (definitions, i) := p.definitionsFrom (p.size + 1) 0
  let rest := if p.size ≤ i then [] else lines.drop ((p.chars.extract 0 i).toList.count '\n')
  (definitions.map fun (d, s, e) => .definition d (.between (p.place s) (p.place e)), rest)

/-- What text consists of: the blocks at its start, the last one first, and the lines of the paragraph
behind them. An underline above the text belongs to that paragraph if no definition stands between. -/
def splitText (src : Source) (above : Option Span) (lines : List Span) : List Block × List Span :=
  let (definitions, rest) := splitDefinitions src lines.reverse
  if definitions.isEmpty then ([], above.toList ++ rest)
  else (definitions.reverse ++ (above.map fun u => .paragraph [u]).toList, rest)

/-- The text without the line ending at its end. -/
def dropEnding (s : String) : String :=
  match s.toList.reverse with
  | '\n' :: '\r' :: cs | '\n' :: cs | '\r' :: cs => String.ofList cs.reverse
  | _ => s

/-- Code that no fence stands around. -/
def indentedCode (body : String) : Block := .code (dropEnding body) none none

namespace OpenBlock

/-- The blocks that an open block turns out to be, the last one first. Behind a fence or a block of
HTML that has no end stands `tail`, which belongs to it. -/
def blocks (src : Source) (tail : String) : OpenBlock → List Block
  | .none | .underlined => []
  | .text above lines _ =>
    let (before, rest) := splitText src above lines
    (if rest.isEmpty then [] else [.paragraph rest]) ++ before
  | .fence f body => [.code (dropEnding (body.getD "" ++ tail)) f.lang f.info]
  | .html .blankLine body => [.html body]
  | .html _ body => [.html (body ++ tail)]
  | .indented body _ => [indentedCode body]
  | .table rows => [.table rows.reverse]

/-- Whether the block takes every line that continues its containers, whatever marks it starts with. -/
def isVerbatim : OpenBlock → Bool
  | .fence .. | .html .. => true
  | _ => false

/-- Whether the block has no end yet and takes the line ending behind it when its container is
closed. -/
def takesEnding : OpenBlock → Bool
  | .fence .. | .html (.mark _) _ | .html .data _ => true
  | _ => false

/-- Whether a line without the marks of its containers may go on with the block. -/
def isText : OpenBlock → Bool
  | .text .. | .underlined => true
  | _ => false

end OpenBlock

end MarkTree.Markdown
