import MarkTree.Markdown.Block

/-!
# Containers

Quotes, list items and notes hold blocks. A container starts with a mark, and every further line of it
has what continues it: the sign of a quote, or the indentation of an item or a note. A line first
continues the containers that are open, the outermost first, and then may open new ones.
-/

namespace MarkTree.Markdown

/-- A container that is open. -/
inductive Holder
  | document
  | quote
  /-- An item: its mark, how far its lines are indented, and whether nothing has stood behind its mark
  yet. -/
  | item (mark : ItemMark) (width : Nat) (bare : Bool)
  | note (label : String)
deriving Repr, Inhabited

/-- A container with the blocks in it, the last one first. -/
structure Frame where
  holder : Holder
  blocks : List Block
deriving Repr, Inhabited

/-- The block that a container becomes. -/
def Holder.close (inside : List Block) : Holder → List Block
  | .document => inside
  | .quote => [.quote inside]
  | .item mark _ _ => [.item mark inside]
  | .note label => [.note label inside]

/-- Closes the innermost of the given containers until `count` of them are left. -/
def closeFrames (count : Nat) : List Frame → List Frame
  | f :: g :: outer =>
    if count ≤ outer.length + 1 then
      closeFrames count ({ g with blocks := f.holder.close f.blocks.reverse ++ g.blocks } :: outer)
    else f :: g :: outer
  | frames => frames
termination_by frames => frames.length

/-! ## Going on -/

/-- Takes the mark of a quote, and the column of white space behind it. -/
def quoteMark? (src : Source) (line : Line) (c : Cursor) : Option Cursor := do
  let c ← c.unindent? src line
  guard (c.on src line (· == '>'))
  return (c.step.takeBlanks src line 1).2

/-- Takes what continues a container in a line; the container may have changed by it. -/
def Holder.continue? (src : Source) (line : Line) (c : Cursor) : Holder → Option (Holder × Cursor)
  | .document => some (.document, c)
  | .quote => (quoteMark? src line c).map (.quote, ·)
  | .item mark width bare =>
    if c.atBlank src line then
      if bare then none else some (.item mark width bare, (c.takeBlanks src line width).2)
    else (c.takeExactly? src line width).map (.item mark width false, ·)
  | .note label =>
    if c.atBlank src line then some (.note label, (c.takeBlanks src line 4).2)
    else (c.takeExactly? src line 4).map (.note label, ·)

/-- Continues containers, the outermost first, as long as the line does: those containers and where
the line goes on behind their marks. -/
def continueAll (src : Source) (line : Line) : List Frame → Cursor → List Frame × Cursor
  | [], c => ([], c)
  | f :: inner, c =>
    match f.holder.continue? src line c with
    | none => ([], c)
    | some (holder, c') =>
      let (fs, e) := continueAll src line inner c'
      ({ f with holder } :: fs, e)

/-! ## Opening -/

/-- Whether what is left of a line is three equal marks or more, with white space between them. -/
def isRuleLine (src : Source) (line : Line) (c : Cursor) : Bool :=
  let marks := (src.chars.extract c.pos line.stop).toList.filter (!isBlank ·)
  match marks with
  | m :: _ => (m == '*' || m == '-' || m == '_') && 3 ≤ marks.length && marks.all (· == m)
  | [] => false

/-- Takes the sign of a list item: a bullet, or a number of at most nine digits with a dot or a
parenthesis behind it. `interrupts` says that the line follows text directly; then only the number one
may stand there. -/
def itemSign? (src : Source) (line : Line) (interrupts : Bool) (c : Cursor) :
    Option (Char × Option Nat × Cursor) := do
  guard (c.pos < line.stop)
  let m ← src.chars[c.pos]?
  if m == '+' || ((m == '*' || m == '-') && !isRuleLine src line c) then
    return (m, none, c.step)
  else
    let e := src.skip Char.isDigit c.pos
    let digits := (src.chars.extract c.pos e).toList
    guard (digits != [] && digits.length ≤ 9 && (!interrupts || digits == ['1']))
    guard (e < line.stop)
    let d ← src.chars[e]?
    guard (d == '.' || d == ')')
    let value := Text.numberOf 10 digits
    return (d, some value, ⟨e + 1, c.column + digits.length + 1, 0⟩)

/-- Opens a list item. White space of one to four columns belongs to its mark; of more only the first
column does. Of an item that starts with the end of the line, the first column of that end does, and
both characters of it if there are two. Such an item cannot follow text directly. -/
def item? (src : Source) (line : Line) (interrupts : Bool) (c : Cursor) : Option (Holder × Cursor) := do
  let s ← c.unindent? src line
  let (sign, number, m) ← itemSign? src line interrupts s
  let mark : ItemMark := ⟨sign, number, m.pos, false⟩
  if m.atBlank src line then
    guard (!interrupts)
    let ending := if m.pos = line.stop ∧ line.next = line.stop + 2 then 2 else 1
    return (.item mark (Cursor.distance c m + ending) true, m)
  else
    let (n, e) := m.takeBlanks src line 4
    guard (n ≠ 0)
    let e := if e.on src line isBlank then m.takeColumn src else e
    return (.item mark (Cursor.distance c e) false, e)

/-- Opens a note: a label that starts with a caret and holds no white space, and a colon. -/
def note? (src : Source) (line : Line) (c : Cursor) : Option (Holder × Cursor) := do
  let s ← c.unindent? src line
  let p := Passage.ofSpans src [.between s.pos line.stop]
  guard (p.has 0 '[' && p.has 1 '^')
  let e ← (p.closed ']' ['[', ']', '\\'] [' ', '\t', '['] p.size 2).toOption
  let inside := (p.chars.extract 2 e).toList
  guard (inside != [] && (String.ofList inside).utf8ByteSize ≤ 999 && p.has (e + 1) ':')
  let label := normalizeLabel (p.raw 2 e)
  let after : Cursor := ⟨s.pos + e + 2, s.column + e + 2, 0⟩
  return (.note label, after.skipBlanks src line)

/-- Opens the container whose mark stands at the cursor. -/
def container? (src : Source) (dialect : Dialect) (line : Line) (interrupts : Bool) (c : Cursor) :
    Option (Holder × Cursor) :=
  ((quoteMark? src line c).map (.quote, ·)) <|> item? src line interrupts c <|>
    (if dialect = .github then note? src line c else none)

/-- Opens containers as long as there are marks of some, at most `most` of them. If the line follows
text directly, that counts for each of them. -/
def containers (src : Source) (dialect : Dialect) (line : Line) (interrupts : Bool) :
    Nat → Cursor → List Holder × Cursor
  | 0, c => ([], c)
  | most + 1, c =>
    match container? src dialect line interrupts c with
    | none => ([], c)
    | some (holder, c') =>
      let (holders, e) := containers src dialect line interrupts most c'
      (holder :: holders, e)

/-- The containers that a line opens, if the first of them is glued to the item before. -/
def glueFirst : List Holder → List Holder
  | .item mark width bare :: rest => .item { mark with glued := true } width bare :: rest
  | holders => holders

end MarkTree.Markdown
