import MarkTree.Markdown.Container
import MarkTree.Markdown.HtmlBlock
import MarkTree.Markdown.TableRow

/-!
# Starts of lines

What a line is behind the marks of its containers: the fence of code, a block of HTML, a heading, an
underline, a thematic break, indented code, or else text. Up to three columns of white space in front
do not count; four make code.
-/

namespace MarkTree.Markdown

/-- How a fence was opened: the character and the length of the mark, its indentation, and what was
written behind it. -/
structure Fence where
  marker : Char
  size : Nat
  indent : Nat
  lang : Option String
  info : Option String
deriving Repr

/-- What a line may be that starts a block of its own. -/
inductive LineStart
  | fence (fence : Fence)
  | html (ends : HtmlEnd) (done : Bool)
  | heading (depth : Nat) (text : Span)

/-- What is left of a line behind a cursor. -/
def Line.charsFrom (src : Source) (line : Line) (c : Cursor) : List Char :=
  (src.chars.extract c.pos line.stop).toList

/-- The mark that opens a fence. Behind backticks no backtick may stand. -/
def fence? (src : Source) (line : Line) (indent : Nat) (c : Cursor) : Option Fence := do
  let m ← src.chars[c.pos]?
  guard (c.pos < line.stop && (m == backtick || m == '~'))
  let e := src.skip (· == m) c.pos
  guard (3 ≤ e - c.pos)
  let p := Passage.ofSpans src [.between e line.stop]
  guard (m != backtick || !p.chars.contains backtick)
  let s := p.skip isBlank 0
  let t := p.skip (!isBlank ·) s
  let u := p.skip isBlank t
  let part (i j : Nat) : Option String := if i < j then some (p.decoded i j) else none
  return ⟨m, e - c.pos, indent, part s t, part u p.size⟩

def Fence.isClosedBy (src : Source) (line : Line) (c : Cursor) (f : Fence) : Bool :=
  match c.unindent? src line with
  | none => false
  | some c =>
    let e := min line.stop (src.skip (· == f.marker) c.pos)
    f.size ≤ e - c.pos && line.stop ≤ src.skip isBlank e

/-- The text of a heading behind its mark. Number signs in front of the first word and number signs
behind the last one do not belong to it. -/
def headingText (src : Source) (line : Line) (start : Nat) : Span :=
  let text := (src.chars.extract start line.stop).toList
  let words := text.splitBy fun a b => isBlank a == isBlank b
  let isMark (w : List Char) : Bool := w.all fun c => isBlank c || c == '#'
  let front := (words.takeWhile isMark).flatten.length
  let back := (words.reverse.takeWhile isMark).flatten.length
  if text.length ≤ front then .between start start
  else
    let rest := text.drop front
    .between (start + front + (rest.takeWhile (· == '#')).length) (line.stop - back)

/-- A heading that starts with one to six number signs. -/
def heading? (src : Source) (line : Line) (c : Cursor) : Option (Nat × Span) := do
  guard (c.on src line (· == '#'))
  let e := src.skip (· == '#') c.pos
  guard (e - c.pos ≤ 6)
  guard (line.stop ≤ e || (src.chars[e]?).any isBlank)
  return (e - c.pos, headingText src line e)

/-- The depth of the heading that a line of dashes or equals signs underlines. -/
def underline? (src : Source) (line : Line) (c : Cursor) : Option Nat := do
  let c ← c.unindent? src line
  let m ← src.chars[c.pos]?
  guard (c.pos < line.stop && (m == '=' || m == '-'))
  guard (line.stop ≤ src.skip isBlank (src.skip (· == m) c.pos))
  return if m == '=' then 1 else 2

/-- What the line is, if it starts a fence, a block of HTML or a heading. `alone` says that a block of
HTML may start with a tag of any name. -/
def lineStart? (src : Source) (line : Line) (alone : Bool) (c : Cursor) : Option LineStart := do
  let s ← c.unindent? src line
  let html : Option LineStart :=
    match HtmlStart.ofLine alone (line.charsFrom src s) with
    | .starts ends done => some (.html ends done)
    | _ => none
  ((fence? src line (Cursor.distance c s) s).map .fence) <|> html <|>
    ((heading? src line s).map fun (depth, text) => .heading depth text)

def isBreak (src : Source) (line : Line) (c : Cursor) : Bool :=
  match c.unindent? src line with
  | some s => isRuleLine src line s
  | none => false

/-- Whether a row of a table may start with the character at the cursor: with any but those that are
kept for other kinds of blocks, read here or not. -/
def mayStartRow (src : Source) (line : Line) (c : Cursor) : Bool :=
  c.taken ≠ 0 || !c.on src line ['#', '$', backtick, '~', '*', '_', 'e', 'i', '\x7b'].contains

/-- Whether the line may be the head of a table. -/
def mayBeHead (src : Source) (line : Line) (c : Cursor) : Bool :=
  mayStartRow src line c && (c.unindent? src line).isSome && src.isHead (line.spanFrom c)

/-- Whether the line is text, but would be undecided if more could stand on it: too few marks of a
thematic break or of a fence, or HTML that stops early. -/
def isUndecided (src : Source) (line : Line) (c : Cursor) : Bool :=
  match (c.unindent? src line).map (line.charsFrom src) with
  | some (m :: cs) =>
    (['*', '-', '_'].contains m && cs.all fun c => isBlank c || c == m) ||
      ([backtick, '~'].contains m && cs.all (· == m)) ||
      (HtmlStart.ofLine true (m :: cs) matches .unfinished)
  | _ => false

end MarkTree.Markdown
