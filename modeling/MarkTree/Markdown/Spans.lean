import MarkTree.Markdown.Piece

/-!
# Spans of a passage

Reading a passage from left to right: escapes, character references, code, addresses, HTML, breaks,
and brackets. A closing bracket belongs to the nearest opening one that is still open; the two make
a link, an image or a note reference if what follows them, or a definition of the label between them,
says so, and are text otherwise. A link inside a link is not possible, so a link disables the link
brackets that were opened before it.
-/

namespace MarkTree.Markdown

/-- Which constructs are read: all, or only those of plain CommonMark. -/
inductive Dialect
  | commonMark
  | github
deriving DecidableEq, Repr

/-- The labels that a document defines, for links and for notes. -/
structure Labels where
  links : List String
  notes : List String
deriving Repr, Inhabited

/-- What reading a passage depends on. -/
structure Setting where
  dialect : Dialect
  labels : Labels
  /-- Whether the passage is a cell of a table, where code may hold escaped bars. -/
  inTable : Bool

namespace Setting

def github (s : Setting) : Bool := s.dialect == .github

end Setting

/-- What an opening bracket may become. -/
inductive Bracket
  | link
  | image
  | note
deriving DecidableEq, Repr

/-- An opening bracket that waits for its partner. -/
structure Opening where
  bracket : Bracket
  /-- Where the text between the brackets starts. -/
  start : Nat
  /-- Whether it may still become a link. -/
  active : Bool
  /-- The pieces before it, the last one first. -/
  before : List Piece

/-- How an opening bracket is written. -/
def Bracket.written : Bracket → String
  | .link => "["
  | .image => "!["
  | .note => "[^"

/-- What has been read so far: the pieces behind the last open bracket, the last one first, the open
brackets, the last one first, and how far one has looked for something that was not there. -/
structure Reading where
  pieces : List Piece
  openings : List Opening
  reach : Nat

namespace Reading

def push (r : Reading) (piece : Piece) : Reading := { r with pieces := piece :: r.pieces }

/-- Opens a bracket behind which the text starts at `start`. -/
def opened (r : Reading) (bracket : Bracket) (start : Nat) : Reading :=
  ⟨[], ⟨bracket, start, true, r.pieces⟩ :: r.openings, r.reach⟩

/-- Notes that something was looked for up to a position. -/
def looked (r : Reading) (stop : Nat) : Reading := { r with reach := max r.reach stop }

/-- The pieces of an opening bracket that remained alone, as text, the last one first. -/
def flatten (o : Opening) (pieces : List Piece) : List Piece :=
  pieces ++ .text o.bracket.written :: o.before

def finish (r : Reading) : List Piece :=
  (r.openings.foldl (fun pieces o => flatten o pieces) r.pieces).reverse

end Reading

namespace Passage

/-- Where the run of a character ends that starts at a position. -/
def runEnd (p : Passage) (c : Char) (i : Nat) : Nat := p.skip (· == c) i

/-- The start and the end of the next run of exactly `size` backticks. -/
def closingTicks? (p : Passage) (size : Nat) : Nat → Nat → Option (Nat × Nat)
  | 0, _ => none
  | left + 1, i =>
    let s := p.skip (· != backtick) i
    let e := p.runEnd backtick s
    if s = e then none
    else if e - s = size then some (s, e)
    else closingTicks? p size left e

def unescapeBars : List Char → List Char
  | '\\' :: '|' :: cs => '|' :: unescapeBars cs
  | c :: cs => c :: unescapeBars cs
  | [] => []

/-- What inline code says: one space at each end does not count, if there is more than spaces. -/
def codeText (inTable : Bool) (written : String) : String :=
  let cs := if inTable then unescapeBars written.toList else written.toList
  if 2 < cs.length && cs.head? == some ' ' && cs.getLast? == some ' ' && cs.any (· != ' ') then
    String.ofList (cs.drop 1).dropLast
  else String.ofList cs

/-- The inline code at a position and its end. -/
def code? (p : Passage) (inTable : Bool) (i : Nat) : Option (Piece × Nat) := do
  let s := p.runEnd backtick i
  let (e, next) ← p.closingTicks? (s - i) (p.size - s + 1) s
  return (.part (.leaf (.inlineCode (codeText inTable (p.text s e)))), next)

/-- The run of markers at a position. Whether it opens or closes a span depends on the characters on
both sides: a span starts in front of text and ends behind it, and inside a word an underscore does
neither. Other markers beside a run count as text. -/
def markers (p : Passage) (github : Bool) (c : Char) (i : Nat) : Piece × Nat :=
  let e := p.runEnd c i
  let before := p.before? i
  let after := p.after? e
  let isOther (d : Option Char) : Bool :=
    c != '~' && d.any fun d => d == '*' || d == '_' || (github && d == '~')
  let b := Text.classOf before
  let a := Text.classOf after
  let opens := a == .other || (a == .punctuation && b != .other) || isOther after
  let closes := b == .other || (b == .punctuation && a != .other) || isOther before
  let piece :=
    if c == '_' then Piece.run c (e - i) (opens && (b != .other || !closes)) (closes && (a != .other || !opens))
    else Piece.run c (e - i) opens closes
  (piece, e)

/-- The resource in parentheses at a position: where it leads, its title, and its end. -/
def resource (p : Passage) (i : Nat) : Attempt (String × Option String × Nat) := do
  .expect (p.has i '(') i
  let j := p.skip isSpace (i + 1)
  if p.has j ')' then return ("", none, j + 1)
  let url ← p.destination 32 j
  let s := p.skip isSpace url.next
  if p.has s ')' then return (p.decoded url.start url.stop, none, s + 1)
  .expect (url.next < s) s
  let t ← p.title s
  let e := p.skip isSpace t.next
  .expect (p.has e ')') e
  return (p.decoded url.start url.stop, p.titleText? t, e + 1)

/-- What a pair of brackets turns out to be, and where it ends. -/
inductive Found
  | link (url : String) (title : Option String)
  | reference (label : String)
  | note (label : String)

/-- What stands behind the closing bracket at `i`, a resource or a label that is defined, and the end
of it. A label that ends at the start of a line holds the mark of a container in front of it, but not
on a line which was looked at before, up to `reach`. -/
def behind (p : Passage) (s : Setting) (reach i : Nat) : Attempt (Found × Nat) := do
  if p.has (i + 1) '[' then
    let l ← p.label (i + 1)
    let label := p.labelText { l with stop := if p.isReread reach l.stop then l.stop - 1 else l.stop }
    .expect (s.labels.links.contains label) l.next
    return (.reference label, l.next)
  else
    let (url, title, e) ← p.resource (i + 1)
    return (.link url title, e)

/-- What the closing bracket at `i` makes of its opening one by the text between them, and the end of
all that belongs to it. In front of another opening bracket the label needs empty brackets. -/
def named? (p : Passage) (s : Setting) (label : String) (i : Nat) : Option (Found × Nat) := do
  guard (s.labels.links.contains label)
  if p.has (i + 1) '[' then
    guard (p.has (i + 2) ']')
    return (.reference label, i + 3)
  else return (.reference label, i + 1)

/-- What the closing bracket at `i` makes of its opening one, and the end of all that belongs to it;
with that, how far one has looked for something that is not there. A resource wins over a label
behind the brackets, and that over the text between them. -/
def bracketed (p : Passage) (s : Setting) (o : Opening) (reach i : Nat) :
    Option (Found × Nat) × Nat :=
  let label := normalizeLabel (p.raw o.start i)
  if !o.active then (none, i)
  else if o.bracket = .note ∧ s.labels.notes.contains label then (some (.note label, i + 1), i)
  else
    match p.behind s reach i with
    | .ok found => (some found, i)
    | .error stop => (p.named? s (if o.bracket = .note then "^" ++ label else label) i, stop)

/-- The piece that a pair of brackets makes of the pieces between them. -/
def made (s : Setting) (o : Opening) (inside : List Piece) : Found → Piece
  | .note label => .part (.leaf (.footnoteReference label))
  | found =>
    let inside := Piece.resolve (if o.bracket = .note then .text "^" :: inside else inside)
    if o.bracket = .image then
      let alt := Markup.plainTextIn (Piece.settle s.github .inner false inside)
      match found with
      | .link url title => .part (.leaf (.image url alt title))
      | .reference label | .note label => .part (.leaf (.imageReference label alt))
    else
      match found with
      | .link url title => .around (.link url title) inside
      | .reference label | .note label => .around (.linkReference label) inside

def closeBracket (p : Passage) (s : Setting) (i : Nat) (r : Reading) : Reading × Nat :=
  match r.openings with
  | [] => (r.push (.text "]"), i + 1)
  | o :: outer =>
    let (found, stop) := p.bracketed s o r.reach i
    let r := r.looked stop
    match found with
    | none => (⟨.text "]" :: Reading.flatten o r.pieces, outer, r.reach⟩, i + 1)
    | some (found, e) =>
      let disable (q : Opening) : Opening :=
        if q.bracket = .image then q else { q with active := false }
      let outer := if o.bracket = .image then outer else outer.map disable
      (⟨made s o r.pieces.reverse found :: o.before, outer, r.reach⟩, e)

/-- The characters that may be more than text. -/
def isSpecial (github : Bool) (c : Char) : Bool :=
  ['\n', '\\', '&', backtick, '<', '!', '[', ']', '*', '_'].contains c ||
    (github && ['~', 'h', 'H', 'w', 'W'].contains c)

/-- Reads what stands at a position; gives the next position. -/
def readAt (p : Passage) (s : Setting) (c : Char) (i : Nat) (r : Reading) : Reading × Nat :=
  let asText : Reading × Nat :=
    let e := p.skip (fun c => !isSpecial s.github c) (i + 1)
    (r.push (.text (p.text i e)), e)
  let orText (found : Option (Piece × Nat)) : Reading × Nat :=
    match found with
    | some (piece, e) => (r.push piece, e)
    | none => asText
  let link : String × String × Nat → Piece × Nat := fun (url, t, e) =>
    (.part (.node (.link url none) [.leaf (.text t)]), e)
  if c == '\n' then (r.push (.ending (p.endingAt i) (p.isCut (i + 1))), i + 1)
  else if c == '\\' then
    orText <| (p.at? (i + 1)).bind fun d =>
      if d == '\n' then some (.hardBreak, i + 1)
      else if Text.isAsciiPunctuation d then some (.decoded d.toString, i + 2)
      else none
  else if c == '&' then orText ((p.reference? i).map fun (t, e) => (.decoded t, e))
  else if c == backtick then
    match p.code? s.inTable i with
    | some (piece, e) => (r.push piece, e)
    | none =>
      let e := p.runEnd backtick i
      ((r.push (.text (p.text i e))).looked p.size, e)
  else if c == '<' then
    match p.bracketed? i, p.html i with
    | some address, _ => orText (some (link address))
    | none, .ok e => orText (some (.part (.leaf (.html (p.htmlText i e))), e))
    | none, .error stop => (asText.1.looked stop, asText.2)
  else if c == '!' && p.has (i + 1) '[' && !(s.github && p.has (i + 2) '^') then
    (r.opened .image (i + 2), i + 2)
  else if c == '[' then
    if s.github && p.has (i + 1) '^' then (r.opened .note (i + 2), i + 2)
    else (r.opened .link (i + 1), i + 1)
  else if c == ']' then p.closeBracket s i r
  else if c == '*' || c == '_' || (s.github && c == '~') then
    let (piece, e) := p.markers s.github c i
    (r.push piece, e)
  else if s.github then orText ((p.bareAddress? r.reach i).map link)
  else asText

/-- Reads the passage from a position on; every step goes forward. -/
def readFrom (p : Passage) (s : Setting) (i : Nat) (r : Reading) : Reading :=
  if h : i < p.chars.size then
    let (r', e) := p.readAt s p.chars[i] i r
    readFrom p s (max (i + 1) e) r'
  else r
termination_by p.chars.size - i

/-- The spans of a passage from a position on, if it was looked at up to `reach` before. White space at
the start of the passage and at its end does not count. -/
def spans (p : Passage) (s : Setting) (start reach : Nat) : List Markup :=
  let margin := if start = 0 then .ofLine (p.isCut 0) else .inner
  Piece.settle s.github margin true (Piece.resolve (p.readFrom s start ⟨[], [], reach⟩).finish)

end Passage

end MarkTree.Markdown
