import MarkTree.Markdown.OpenBlock

/-!
# Reading blocks

A document is read line by line. The state is the stack of containers that are open, with the blocks
they hold so far, and the block at the end of the innermost one, if that may still go on. A line
first continues as many containers as it can, then opens new ones, and what is left of it goes to the
block that is open or starts another one. A line of a paragraph may leave the marks of its
containers out: then it continues none of them but belongs to the paragraph all the same.

Whether a line follows text directly decides what it may start: not indented code, nor an item without
text or with a number other than one, nor HTML with a tag of any name.
-/

namespace MarkTree.Markdown

/-- The state of reading. -/
structure BlockState where
  /-- The open containers, the innermost one first. -/
  frames : List Frame
  last : OpenBlock
  /-- Whether the next line follows text directly. -/
  interrupts : Bool
  /-- The ending of the line before. -/
  ending : String
  /-- Whether the line before left out marks of containers. -/
  lazy : Bool
deriving Repr, Inhabited

/-- How a line comes to what is left of it behind the marks of containers. -/
inductive Approach
  /-- It continues all containers and opens none. -/
  | plain
  /-- It opens containers. -/
  | nested
  /-- It leaves marks of containers out, and opens none. -/
  | lazy
deriving DecidableEq, Repr

namespace BlockState

/-! ## Closing -/

/-- Adds blocks to the innermost container, the last one first. -/
def add (blocks : List Block) (st : BlockState) : BlockState :=
  match st.frames with
  | [] => st
  | f :: outer => { st with frames := { f with blocks := blocks ++ f.blocks } :: outer }

/-- Closes the open block, with `tail` behind it. What follows does not follow text. -/
def closeBlock (src : Source) (tail : String) (st : BlockState) : BlockState :=
  { st.add (st.last.blocks src tail) with last := .none, interrupts := false }

/-- Closes the open block and puts `last` in its place. -/
def start (src : Source) (last : OpenBlock) (st : BlockState) : BlockState :=
  { st.closeBlock src "" with last := last }

/-- Closes the open block and adds another one that is complete. -/
def put (src : Source) (block : Block) (st : BlockState) : BlockState :=
  (st.closeBlock src "").add [block]

/-- Closes containers until `count` of them are left. -/
def closeTo (count : Nat) (st : BlockState) : BlockState :=
  { st with frames := closeFrames count st.frames }

/-- Whether the line ending before goes to the open block when a line closes its container. -/
def givesEnding (st : BlockState) : Bool := st.last.takesEnding && !st.lazy

/-- Closes the open block and then containers until `count` of them are left. -/
def flush (src : Source) (count : Nat) (st : BlockState) : BlockState :=
  (st.closeBlock src (if st.givesEnding then st.ending else "")).closeTo count

def enter (holders : List Holder) (st : BlockState) : BlockState :=
  { st with frames := (holders.map (⟨·, []⟩)).reverse ++ st.frames }

/-- Gives up what only a line that continues all containers and opens none could go on with: the block
is closed, and text is no head of a table any more. -/
def release (src : Source) (st : BlockState) : BlockState :=
  match st.last with
  | .text above lines true => { st with last := .text above lines false, interrupts := true }
  | .fence .. | .html .. | .indented .. => st.closeBlock src ""
  | _ => st

/-! ## Reading a line -/

/-- Adds a line of text. An underline that is text goes on with it only if no mark of a container
stands in front of the line. -/
def addText (src : Source) (line : Line) (c : Cursor) (head : Bool) (st : BlockState) : BlockState :=
  let span := line.spanFrom c
  let st :=
    match st.last with
    | .text (some u) [] _ =>
      if c = line.cursor then { st with last := .text (some u) [span] head }
      else st.start src (.text none [span] head)
    | .text above lines _ => { st with last := .text above (span :: lines) head }
    | _ => st.start src (.text none [span] head)
  { st with interrupts := true }

/-- Starts the block that a line starts. -/
def begin (src : Source) (line : Line) (c : Cursor) (what : LineStart) (st : BlockState) :
    BlockState :=
  match what with
  | .fence f => st.start src (.fence f none)
  | .html ends done =>
    if done then st.put src (.html (c.rest src line)) else st.start src (.html ends (c.rest src line))
  | .heading depth text => st.put src (.heading depth (if text.stop ≤ text.start then [] else [text]))

/-- Makes a heading of the text above an underline. If there is nothing but definitions above it, the
underline is text itself. -/
def underline (src : Source) (line : Line) (c : Cursor) (depth : Nat) (st : BlockState) :
    BlockState :=
  let (above, lines) :=
    match st.last with
    | .text above lines _ => (above, lines)
    | _ => (none, [])
  let (before, rest) := splitText src above lines
  let st := { st.add before with interrupts := false }
  if rest.isEmpty then { st with last := .text (some (line.spanFrom c)) [] false }
  else { st.add [.heading depth rest] with last := .underlined }

/-- The state behind a line that is the rule of a table, if the last line of text is its head. -/
def table? (src : Source) (line : Line) (c : Cursor) (st : BlockState) : Option BlockState := do
  let .text above (head :: lines) true := st.last | none
  guard (c.unindent? src line).isSome
  let columns ← src.columns? (line.spanFrom c)
  let cells := src.cells head
  guard (cells.length = columns)
  return { st with last := .text above lines false }.start src (.table [cells])

/-- The state behind a line that the open block takes as it is. The line continues all containers and
opens none. -/
def take? (src : Source) (line : Line) (c : Cursor) (st : BlockState) : Option BlockState :=
  match st.last with
  | .fence f body =>
    if f.isClosedBy src line c then
      some { st.add [.code (body.getD "") f.lang f.info] with last := .none }
    else
      let text := ((c.takeBlanks src line f.indent).2).rest src line
      some { st with last := .fence f (some (body.elim text fun b => b ++ st.ending ++ text)) }
  | .html .blankLine body =>
    if c.atBlank src line then none
    else some { st with last := .html .blankLine (body ++ st.ending ++ c.rest src line) }
  | .html ends body =>
    let st := { st with last := .html ends (body ++ st.ending ++ c.rest src line) }
    some (if ends.isIn (line.charsFrom src c) then st.closeBlock src "" else st)
  | .indented body pending =>
    match c.takeExactly? src line 4 with
    | some e =>
      some { st with last := .indented (body ++ pending ++ st.ending ++ e.rest src line) "" }
    | none =>
      if c.atBlank src line then
        some { st with last := .indented body (pending ++ st.ending) }
      else none
  | .text .. => st.table? src line c
  | _ => none

/-- Reads what is left of a line that no open block takes as it is. -/
def readFresh (src : Source) (dialect : Dialect) (how : Approach) (line : Line) (c : Cursor)
    (st : BlockState) : BlockState :=
  if c.atBlank src line then st.closeBlock src ""
  else
    match if st.interrupts then none else c.takeExactly? src line 4 with
    | some e =>
      if how = .plain then st.start src (.indented (e.rest src line) "")
      else st.put src (indentedCode (e.rest src line))
    | none =>
      match lineStart? src line (!st.interrupts || how = .lazy) c with
      | some what => st.begin src line c what
      | none =>
        match if how = .plain && st.last.isText then underline? src line c else none with
        | some depth => st.underline src line c depth
        | none =>
          if isBreak src line c then st.put src .rule
          else
            match st.last with
            | .table rows =>
              if how = .plain && mayStartRow src line c then
                { st with last := .table (src.cells (line.spanFrom c) :: rows) }
              else st.addText src line c false
            | _ => st.addText src line c (dialect = .github && mayBeHead src line c)

/-- Reads a line that leaves marks of containers out, so that only `count` of them go on. If it is
text, and so was the line before, it belongs to that text. Otherwise it stands outside the containers,
and nothing follows text directly behind it. -/
def readLazy (src : Source) (dialect : Dialect) (count : Nat) (line : Line) (c : Cursor)
    (st : BlockState) : BlockState :=
  let st := st.release src
  let inside := st.readFresh src dialect .lazy line c
  let decided := line.stop < line.next || !isUndecided src line c
  if st.last.isText && inside.last.isText && decided then inside
  else
    let behindTable := st.last matches .table ..
    let outside := ((st.closeBlock src "").closeTo count).readFresh src dialect .lazy line c
    match outside.last with
    | .text above lines head =>
      { outside with last := .text above lines (head && !behindTable), interrupts := false }
    | _ => { outside with interrupts := false }

def next (src : Source) (dialect : Dialect) (st : BlockState) (line : Line) : BlockState :=
  let (continued, c) := continueAll src line st.frames.reverse line.cursor
  let count := continued.length
  let all := count == st.frames.length
  let st := { st with frames := (continued ++ st.frames.reverse.drop count).reverse }
  let (holders, e) :=
    if all && st.last.isVerbatim then ([], c)
    else containers src dialect line (all && st.interrupts) (line.stop - line.start + 1) c
  let read : BlockState :=
    match all, holders.isEmpty with
    | true, true =>
      match st.take? src line c with
      | some st => st
      | none => (st.release src).readFresh src dialect .plain line c
    | false, true => st.readLazy src dialect count line c
    | true, false =>
      let st := st.release src
      let interrupts := st.interrupts
      { (st.closeBlock src "").enter holders with interrupts }.readFresh src dialect .nested line e
    | false, false =>
      let holders := if st.givesEnding ∧ c = line.cursor then glueFirst holders else holders
      ((st.flush src count).enter holders).readFresh src dialect .nested line e
  { read with ending := src.ending line, lazy := !all && holders.isEmpty }

end BlockState

def Block.ofSource (src : Source) (dialect : Dialect) : List Block :=
  let st := src.lines.foldl (BlockState.next src dialect) ⟨[⟨.document, []⟩], .none, false, "", false⟩
  match (st.flush src 1).frames with
  | f :: _ => f.blocks.reverse
  | [] => []

def parse (dialect : Dialect) (text : String) : Markup :=
  let src := Source.ofString text
  Block.document src dialect (Block.ofSource src dialect)

end MarkTree.Markdown
