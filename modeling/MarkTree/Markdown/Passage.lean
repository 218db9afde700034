import MarkTree.Markdown.Source

/-!
# Passages

A passage is the text of a paragraph, a heading or a cell: stretches of the source, one per line,
without what the containers around it take. A line ending inside it is one character, a line feed.
The columns that are left of a tab that a container takes in part are one space each. They separate
like spaces, but are no text.

Every character knows where it stands in the source, so that a label can be compared as it was
written, and a marker can look at the characters beside it.

Looking for something at a position is an `Attempt`: if it fails, it tells how far one had to look.
-/

namespace MarkTree.Markdown

/-- The outcome of looking for something: what was found, or the position up to which one has to look
in order to see that it is not there. -/
abbrev Attempt := Except Nat

/-- A condition that the character at a position decides. -/
def Attempt.expect (holds : Bool) (stop : Nat) : Attempt Unit :=
  if holds then .ok () else .error stop

/-- Text to be read for spans: its characters and their places in the source. -/
structure Passage where
  source : Source
  chars : Array Char
  places : Array Nat

namespace Passage

/-- The passage of some stretches of the source, with a line ending between them. -/
def ofSpans (source : Source) (spans : List Span) : Passage :=
  let add (acc : Array Char × Array Nat) (s : Span) : Array Char × Array Nat :=
    ((acc.1 ++ Array.replicate s.lead ' ' ++ source.chars.extract s.start s.stop).push '\n',
      (acc.2 ++ Array.replicate s.lead (s.start - 1) ++
        (Array.range (s.stop - s.start)).map (s.start + ·)).push s.stop)
  let (chars, places) := spans.foldl add (#[], #[])
  ⟨source, chars.pop, places.pop⟩

def size (p : Passage) : Nat := p.chars.size

def at? (p : Passage) (i : Nat) : Option Char := p.chars[i]?

def has (p : Passage) (i : Nat) (c : Char) : Bool := p.at? i == some c

/-- Where a position stands in the source. -/
def place (p : Passage) (i : Nat) : Nat :=
  match p.places[i]? with
  | some n => n
  | none => (p.places.back?.map (· + 1)).getD 0

/-- Whether a position is a column that is left of a tab. -/
def isCut (p : Passage) (i : Nat) : Bool :=
  p.has i ' ' && p.source.chars[p.place i]? == some '\t'

/-- Whether a line starts at a position, and an attempt that failed at `reach` looked at it before. -/
def isReread (p : Passage) (reach i : Nat) : Bool := i ≤ reach && 0 < i && p.has (i - 1) '\n'

/-- The source between two positions, with what containers took from the lines between. -/
def raw (p : Passage) (i j : Nat) : String := p.source.slice (p.place i) (p.place j)

/-- The line ending at a position, as it was written. -/
def endingAt (p : Passage) (i : Nat) : String :=
  let n := p.place i
  match p.source.chars[n]?, p.source.chars[n + 1]? with
  | some '\r', some '\n' => "\r\n"
  | some '\r', _ => "\r"
  | _, _ => "\n"

/-- The characters between two positions, with line endings as they were written. -/
def text (p : Passage) (i j : Nat) : String :=
  String.join ((List.range' i (j - i)).map fun k =>
    match p.at? k with
    | some '\n' => p.endingAt k
    | some c => if p.isCut k then "" else c.toString
    | none => "")

/-- The character before a position in the source. -/
def before? (p : Passage) (i : Nat) : Option Char :=
  let n := p.place i
  if n = 0 then none else p.source.chars[n - 1]?

/-- The character in the source at a position, also at the end of the passage. -/
def beyond? (p : Passage) (i : Nat) : Option Char := p.source.chars[p.place i]?

/-- The character in the source behind the one before a position. -/
def after? (p : Passage) (i : Nat) : Option Char :=
  if i = 0 then none else p.source.chars[p.place (i - 1) + 1]?

/-- The first position from `i` on, below `stop`, whose character fails the test. -/
def skipTo (p : Passage) (test : Char → Bool) (stop i : Nat) : Nat :=
  if h : i < p.chars.size then
    if i < stop && test p.chars[i] then skipTo p test stop (i + 1) else i
  else i
termination_by p.chars.size - i

/-- The first position from `i` on whose character fails the test. -/
def skip (p : Passage) (test : Char → Bool) (i : Nat) : Nat := p.skipTo test p.size i

/-- The position after a given word, which may be in upper or lower case. -/
def word? (p : Passage) (w : String) (i : Nat) : Option Nat :=
  let cs := w.toList
  if (List.range cs.length).all fun k => (p.at? (i + k)).map Char.toLower == cs[k]? then
    some (i + cs.length)
  else none

end Passage

end MarkTree.Markdown
