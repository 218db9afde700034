/-!
# Source text

A document as an array of characters, cut into lines. A line feed, a carriage return, and the two
together end a line. A tab reaches to the next multiple of four columns; a cursor can stand inside
one, so that a container may take some of its columns and leave the others to what follows.
-/

namespace MarkTree.Markdown

/-- The characters of a document. -/
structure Source where
  chars : Array Char

/-- A stretch of the source: from `start` up to, but not including, `stop`. If a container takes a
part of a tab, `lead` columns of that tab are left in front of the stretch. -/
structure Span where
  start : Nat
  stop : Nat
  lead : Nat
deriving DecidableEq, Repr, Inhabited

def Span.between (start stop : Nat) : Span := ⟨start, stop, 0⟩

/-- A line: where it starts, where its text stops, and where the next line starts. -/
structure Line where
  start : Nat
  stop : Nat
  next : Nat
deriving DecidableEq, Repr, Inhabited

/-- A place in a line: a position, its column, and how many columns of the tab there are taken. -/
structure Cursor where
  pos : Nat
  column : Nat
  taken : Nat
deriving DecidableEq, Repr, Inhabited

namespace Source

/-- The source of a text; a byte order mark at its start does not count. -/
def ofString (s : String) : Source :=
  match s.toList with
  | '\uFEFF' :: cs => ⟨cs.toArray⟩
  | cs => ⟨cs.toArray⟩

/-- The text from one position up to another. -/
def slice (src : Source) (start stop : Nat) : String :=
  String.ofList (src.chars.extract start stop).toList

/-- The first position from `i` on whose character fails the test. -/
def skip (src : Source) (p : Char → Bool) (i : Nat) : Nat :=
  if h : i < src.chars.size then
    if p src.chars[i] then skip src p (i + 1) else i
  else i
termination_by src.chars.size - i

def lineAt (src : Source) (start : Nat) : Line :=
  let stop := src.skip (fun c => c != '\n' && c != '\r') start
  let next :=
    match src.chars[stop]?, src.chars[stop + 1]? with
    | some '\r', some '\n' => stop + 2
    | some _, _ => stop + 1
    | none, _ => stop
  ⟨start, stop, next⟩

/-- The lines from a position on, at most as many as `count`. Behind the last line ending there is
no further line. -/
def linesFrom (src : Source) : Nat → Nat → List Line
  | 0, _ => []
  | count + 1, start =>
    if src.chars.size ≤ start then []
    else
      let line := src.lineAt start
      line :: linesFrom src count line.next

def lines (src : Source) : List Line := src.linesFrom src.chars.size 0

def ending (src : Source) (line : Line) : String := src.slice line.stop line.next

end Source

/-- The mark of inline code and of one kind of fence. -/
def backtick : Char := '\x60'

def isBlank (c : Char) : Bool := c == ' ' || c == '\t'

namespace Cursor

/-- Whether the cursor stands on a character of a line that satisfies the test. -/
def on (src : Source) (line : Line) (p : Char → Bool) (c : Cursor) : Bool :=
  c.pos < line.stop && (src.chars[c.pos]?).any p

def step (c : Cursor) : Cursor := ⟨c.pos + 1, c.column + 1, 0⟩

/-- Takes one column of a space or tab. -/
def takeColumn (src : Source) (c : Cursor) : Cursor :=
  if src.chars[c.pos]? = some '\t' ∧ (c.column + 1) % 4 ≠ 0 then
    ⟨c.pos, c.column + 1, c.taken + 1⟩
  else c.step

/-- Takes columns of white space, at most `most`; gives their number too. -/
def takeBlanks (src : Source) (line : Line) : Nat → Cursor → Nat × Cursor
  | 0, c => (0, c)
  | most + 1, c =>
    if c.on src line isBlank then
      let (n, c') := takeBlanks src line most (c.takeColumn src)
      (n + 1, c')
    else (0, c)

/-- Takes all white space. -/
def skipBlanks (src : Source) (line : Line) (c : Cursor) : Cursor :=
  (c.takeBlanks src line (4 * (line.stop - c.pos))).2

/-- Takes an indentation of at most three columns; none if there is more white space. -/
def unindent? (src : Source) (line : Line) (c : Cursor) : Option Cursor :=
  let (_, c') := c.takeBlanks src line 3
  if c'.on src line isBlank then none else some c'

/-- Takes exactly `n` columns of white space. -/
def takeExactly? (src : Source) (line : Line) (n : Nat) (c : Cursor) : Option Cursor :=
  let (k, c') := c.takeBlanks src line n
  if k = n then some c' else none

/-- Whether only white space is left in the line. -/
def atBlank (src : Source) (line : Line) (c : Cursor) : Bool :=
  line.stop ≤ src.skip isBlank c.pos

/-- Where the characters after the cursor start; a tab that is taken in part counts as taken. -/
def start (c : Cursor) : Nat := if c.taken = 0 then c.pos else c.pos + 1

/-- What is left of the line, without the tab that is taken in part. -/
def rest (src : Source) (line : Line) (c : Cursor) : String := src.slice c.start line.stop

/-- The length of the text between two cursors. A tab wholly in it counts one; of a tab that is cut
the columns on this side count. -/
def distance (a b : Cursor) : Nat :=
  let before := if a.taken = 0 then 0 else 4 - a.taken
  let after := if b.taken = 0 then 0 else b.taken
  before + after + (b.pos - a.start)

end Cursor

def Line.cursor (line : Line) : Cursor := ⟨line.start, 0, 0⟩

/-- The text of a line as a stretch, from a cursor on. -/
def Line.spanFrom (line : Line) (c : Cursor) : Span :=
  ⟨c.start, line.stop, if c.taken = 0 then 0 else 4 - c.column % 4⟩

end MarkTree.Markdown
