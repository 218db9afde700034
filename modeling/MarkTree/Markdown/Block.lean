import MarkTree.Markdown.Spans

/-!
# Blocks

The block structure of a document: what stands on which lines. The text of paragraphs, headings and
cells is not read yet, because whether brackets make a reference depends on all definitions of the
document. `Block.markup` reads it, once `Labels.ofBlocks` has collected them.
-/

namespace MarkTree.Markdown

/-- The mark of a list item. -/
structure ItemMark where
  /-- The bullet, or the character behind the number. -/
  sign : Char
  number : Option Nat
  /-- Where the mark ends in the source. -/
  stop : Nat
  /-- Whether nothing stands between the item and the one before it: a block in that one has taken the
  line ending, and no mark of another container is in front. -/
  glued : Bool
deriving DecidableEq, Repr, Inhabited

/-- A block of a document. -/
inductive Block
  | paragraph (lines : List Span)
  /-- A definition and where it stands in the source. -/
  | definition (what : LinkDefinition) (place : Span)
  | heading (depth : Nat) (lines : List Span)
  | code (value : String) (lang info : Option String)
  | html (value : String)
  | rule
  /-- The rows of a table, the first of them the head, as the cells they were written with. -/
  | table (rows : List (List Span))
  | quote (inside : List Block)
  | item (mark : ItemMark) (inside : List Block)
  | note (label : String) (inside : List Block)
deriving Repr, Inhabited

namespace Block

mutual

def labels : Block → Labels
  | .definition d _ => ⟨[d.label], []⟩
  | .note label inside =>
    let l := labelsIn inside
    ⟨l.links, label :: l.notes⟩
  | .quote inside | .item _ inside => labelsIn inside
  | _ => ⟨[], []⟩

def labelsIn : List Block → Labels
  | [] => ⟨[], []⟩
  | b :: rest =>
    let l := labels b
    let m := labelsIn rest
    ⟨l.links ++ m.links, l.notes ++ m.notes⟩

end

/-- The mark of a task at the start of a paragraph: whether that task is done. White space has to
follow the mark, and text has to follow the white space. -/
def task (p : Passage) : Attempt Bool := do
  .expect (p.has 0 '[') 0
  .expect ((p.at? 1).any fun c => isSpace c || c == 'x' || c == 'X') 1
  .expect (p.has 2 ']') 2
  .expect ((p.at? 3).any fun d => d == '\n' || (isBlank d && p.skip isBlank 3 < p.size)) 3
  return p.has 1 'x' || p.has 1 'X'

/-- Whether the sign of a quote stands between two positions. -/
def quotes (src : Source) (start stop : Nat) : Bool :=
  (src.chars.extract start stop).contains '>'

/-- No mark of a task, where none was looked for. -/
def noTask : Attempt Bool := .error 0

/-- The mark of a task in an item, which its first paragraph has: whether the task is done. In front of
the paragraph only definitions may stand. The mark of the item, or the last definition, ends at `i`; if
the lines from there to the paragraph have the sign of a quote in front, the item is no task. -/
def taskOf (src : Source) (i : Nat) : List Block → Attempt Bool
  | .definition _ place :: rest =>
    if quotes src i place.start then noTask else taskOf src place.stop rest
  | .paragraph lines :: _ =>
    if lines.head?.any fun first => !quotes src i first.start then task (Passage.ofSpans src lines)
    else noTask
  | _ => noTask

def taskMark : Nat := 3

/-- A text without the white space that it starts with: one character or one line ending. -/
def dropSpace (s : String) : String :=
  match s.toList with
  | '\r' :: '\n' :: cs => String.ofList cs
  | c :: cs => if isSpace c || c == '\r' then String.ofList cs else s
  | [] => s

/-- The markup of a block, with its mark if it is an item. -/
abbrev Part := Option ItemMark × Markup

/-- The markup of an item without the white space behind the mark of its task. A definition in front
of the text keeps that white space. -/
def dropMarkSpace (parts : List Part) : List Part :=
  match parts with
  | (mark, .node .paragraph (.leaf (.text s) :: inside)) :: rest =>
    let s := dropSpace s
    let inside := if s.isEmpty then inside else .leaf (.text s) :: inside
    (mark, .node .paragraph inside) :: rest
  | _ => parts

def mark? : Block → Option ItemMark
  | .item mark _ => some mark
  | _ => none

/-- Whether a part is an item that is glued to the one before it. -/
def isGlued (a b : Part) : Bool := a.1.isSome && b.1.any (·.glued)

/-- Whether a row of glued items goes on with the list of the row before it: its first item has the
sign of one of that row. -/
def sameList (a b : List Part) : Bool :=
  (b.head?.bind (·.1)).any fun m => a.any fun part => part.1.any (·.sign == m.sign)

/-- A list of items. It has the number of its first item. -/
def list (number : Option Nat) (items : List Markup) : Markup :=
  .node (.list number.isSome number) items

/-- The contents of a list that a row of glued items makes: each item behind the first starts a list
of its own, beside the item before it. -/
def nestGlued : List Part → List Markup
  | [] => []
  | (_, m) :: rest =>
    if rest.isEmpty then [m]
    else [m, list ((rest.head?.bind (·.1)).bind (·.number)) (nestGlued rest)]

/-- Makes lists of neighbouring items. -/
def gatherLists (parts : List Part) : List Markup :=
  let rows := parts.splitBy isGlued
  (rows.splitBy sameList).flatMap fun group =>
    match group.head?.bind (·.head?) with
    | some (some mark, _) => [list mark.number (group.flatMap nestGlued)]
    | _ => group.flatten.map (·.2)

/-- What reading the text of a document depends on. -/
structure Context where
  source : Source
  dialect : Dialect
  labels : Labels

namespace Context

/-- The spans of the text on some lines, behind the mark of a task if there is one. -/
def spans (ctx : Context) (lines : List Span) (task : Attempt Bool) : List Markup :=
  let p := Passage.ofSpans ctx.source lines
  match task with
  | .ok _ => p.spans ⟨ctx.dialect, ctx.labels, false⟩ taskMark taskMark
  | .error stop => p.spans ⟨ctx.dialect, ctx.labels, false⟩ 0 stop

def row (ctx : Context) (cells : List Span) : Markup :=
  .node .tableRow (cells.map fun cell =>
    .node .tableCell
      ((Passage.ofSpans ctx.source [cell]).spans ⟨ctx.dialect, ctx.labels, true⟩ 0 0))

end Context

mutual

/-- The markup of a block. If the block is a paragraph, `task` is what was found at its start. -/
def markup (ctx : Context) (task : Attempt Bool) : Block → Markup
  | .paragraph lines => .node .paragraph (ctx.spans lines task)
  | .definition d _ => .leaf (.definition d.label d.url d.title)
  | .heading depth lines => .node (.heading depth) (ctx.spans lines noTask)
  | .code value lang info => .leaf (.code value lang info)
  | .html value => .leaf (.html value)
  | .rule => .leaf .thematicBreak
  | .table rows => .node .table (rows.map ctx.row)
  | .quote inside => .node .blockQuote (gatherLists (markupAll ctx noTask inside))
  | .item mark inside =>
    let task := if ctx.dialect = .github then taskOf ctx.source mark.stop inside else noTask
    let parts := markupAll ctx task inside
    match task with
    | .ok done => .node (.listItem (some done)) (gatherLists (dropMarkSpace parts))
    | .error _ => .node (.listItem none) (gatherLists parts)
  | .note label inside => .node (.footnoteDefinition label) (gatherLists (markupAll ctx noTask inside))

/-- The markup of blocks with their marks, if they are items; `task` is what was found at the start of
the first paragraph. -/
def markupAll (ctx : Context) (task : Attempt Bool) : List Block → List Part
  | [] => []
  | b :: rest =>
    let task' := if b matches .definition .. then task else noTask
    (b.mark?, markup ctx task b) :: markupAll ctx task' rest

end

end Block

/-- The markup of a document that consists of some blocks. -/
def Block.document (source : Source) (dialect : Dialect) (blocks : List Block) : Markup :=
  let ctx : Block.Context := ⟨source, dialect, Block.labelsIn blocks⟩
  .node .root (Block.gatherLists (Block.markupAll ctx Block.noTask blocks))

end MarkTree.Markdown
