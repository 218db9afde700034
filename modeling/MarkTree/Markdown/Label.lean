import MarkTree.Markdown.Passage
import MarkTree.Text.CaseFold
import MarkTree.Text.CharacterReference
import MarkTree.Text.Punctuation

/-!
# Labels, destinations and titles

The parts of links and definitions. A part is found by its place in the passage; what it says is
decoded afterwards, with escapes and character references replaced and the white space around line
endings gone.
-/

namespace MarkTree.Markdown

/-- White space inside a passage: a space, a tab or a line ending. -/
def isSpace (c : Char) : Bool := isBlank c || c == '\n'

/-- Whether a character has no printed form in ASCII; a null character counts as printed. -/
def isControl (c : Char) : Bool := (0 < c.toNat && c.toNat < 0x20) || c.toNat == 0x7f

/-- Reduces a label as it was written. Runs of white space become one space, except that the first
run inside a label that does not start with white space disappears; white space at the ends does not
count, and neither does case. -/
def normalizeLabel (label : String) : String :=
  let space (c : Char) : Bool := isBlank c || c == '\n' || c == '\r'
  let words := (label.toList.splitBy fun a b => space a == space b).filter fun w =>
    w.head?.any (!space ·)
  let join : List (List Char) → List Char := fun ws => (ws.intersperse [' ']).flatten
  let joined :=
    match words with
    | first :: second :: rest =>
      if label.toList.head?.any space then join words else join ((first ++ second) :: rest)
    | _ => join words
  Text.foldCase (String.ofList joined)

/-- A part of a passage: where what it says starts and stops, and where the passage goes on. -/
structure Part where
  start : Nat
  stop : Nat
  next : Nat
deriving DecidableEq, Repr

namespace Passage

/-- The character reference at a position: what it stands for, and where it ends. -/
def reference? (p : Passage) (i : Nat) : Option (String × Nat) := do
  let name := p.skipTo (fun c => c.isAlphanum || c == '#') (i + 33) (i + 1)
  guard (p.has name ';')
  let text ← Text.referenced? ((p.chars.extract (i + 1) name).toList)
  return (text, name + 1)

/-- Whether text stands at a position, and neither an escape nor a character reference that ends
before `stop`. -/
def isPlain (p : Passage) (stop i : Nat) : Bool :=
  match p.at? i with
  | some '\\' => !(i + 1 < stop && (p.at? (i + 1)).any Text.isAsciiPunctuation)
  | some '&' => !(p.reference? i).any fun (_, j) => j ≤ stop
  | c => c.isSome

/-- What is left of the white space between the start of a line and its text at `i`: nothing, unless
a container takes a part of a tab. Then one character is left, the last one in front of text. -/
def margin (p : Passage) (line stop i : Nat) : List Char :=
  if p.isCut line && i < stop && p.isPlain stop i then (p.before? i).toList else []

/-- The decoded characters from `i` up to `stop`, in front of `acc`, the last one first. -/
def decodeTo (p : Passage) (stop : Nat) : Nat → Nat → List Char → List Char
  | 0, _, acc => acc
  | left + 1, i, acc =>
    if stop ≤ i then acc
    else
      match p.at? i with
      | none => acc
      | some '\n' =>
        let j := p.skipTo isBlank stop (i + 1)
        decodeTo p stop left j (p.margin (i + 1) stop j ++ (p.endingAt i).toList.reverse ++ acc)
      | some c =>
        if c == '\\' && !p.isPlain stop i then
          decodeTo p stop left (i + 2) ((p.at? (i + 1)).toList ++ acc)
        else if c == '&' && !p.isPlain stop i then
          match p.reference? i with
          | some (t, j) => decodeTo p stop left j (t.toList.reverse ++ acc)
          | none => acc
        else
          let j := p.skipTo isBlank stop i
          if i < j && j < stop && p.has j '\n' then decodeTo p stop left j acc
          else decodeTo p stop left (i + 1) (c :: acc)

/-- What a stretch of the passage says, with escapes and character references replaced. -/
def decoded (p : Passage) (start stop : Nat) : String :=
  String.ofList (p.decodeTo stop (stop - start) start []).reverse

/-- The end of a text that a character closes. A backslash protects the characters in `escapable`;
the characters in `banned` may not stand there otherwise. -/
def closed (p : Passage) (close : Char) (escapable banned : List Char) : Nat → Nat → Attempt Nat
  | 0, i => .error i
  | left + 1, i =>
    match p.at? i with
    | none => .error i
    | some c =>
      if c == close then .ok i
      else if banned.contains c then .error i
      else if c == '\\' && (p.at? (i + 1)).any (escapable.contains ·) then
        closed p close escapable banned left (i + 2)
      else closed p close escapable banned left (i + 1)

/-- The end of a destination without angle brackets. Parentheses in it balance, at most `most`
inside each other; `depth` of them are open. -/
def bareDestination (p : Passage) (most : Nat) : Nat → Nat → Nat → Attempt Nat
  | 0, _, i => .error i
  | left + 1, depth, i =>
    match p.at? i with
    | none => if depth = 0 then .ok i else .error i
    | some c =>
      if depth = 0 && (isSpace c || c == ')') then .ok i
      else if c == '(' && depth < most then bareDestination p most left (depth + 1) (i + 1)
      else if c == ')' then bareDestination p most left (depth - 1) (i + 1)
      else if isControl c || c == ' ' || c == '(' then .error i
      else if c == '\\' && (p.at? (i + 1)).any (['(', ')', '\\'].contains ·) then
        bareDestination p most left depth (i + 2)
      else bareDestination p most left depth (i + 1)

/-- The destination at a position, with at most `most` parentheses inside each other. -/
def destination (p : Passage) (most i : Nat) : Attempt Part := do
  if p.has i '<' then
    let j ← p.closed '>' ['<', '>', '\\'] ['\n', '<'] (p.size - i) (i + 1)
    return ⟨i + 1, j, j + 1⟩
  else
    .expect ((p.at? i).any fun c => !(isControl c || c == ' ' || c == ')')) i
    let j ← p.bareDestination most (p.size - i + 1) 0 i
    return ⟨i, j, j⟩

/-- The title at a position, in quotes or parentheses. -/
def title (p : Passage) (i : Nat) : Attempt Part := do
  match (p.at? i).filter (['"', '\'', '('].contains ·) with
  | none => .error i
  | some c =>
    let close := if c == '(' then ')' else c
    let j ← p.closed close [close, '\\'] [] (p.size - i) (i + 1)
    return ⟨i + 1, j, j + 1⟩

/-- A title that says something. -/
def titleText? (p : Passage) (t : Part) : Option String :=
  let s := p.decoded t.start t.stop
  if s.isEmpty then none else some s

/-- The characters of a label without its line endings and the white space behind them. -/
def labelInside : List Char → List Char
  | [] => []
  | '\n' :: cs => labelInside (cs.dropWhile isBlank)
  | c :: cs => c :: labelInside cs
termination_by cs => cs.length
decreasing_by
  · have := (cs.dropWhile_sublist isBlank).length_le
    simp only [List.length_cons]
    omega
  · simp

/-- The label in brackets at a position: it says something, and takes less than a thousand bytes. -/
def label (p : Passage) (i : Nat) : Attempt Part := do
  .expect (p.has i '[') i
  let j ← p.closed ']' ['[', ']', '\\'] ['['] (p.size - i) (i + 1)
  let inside := labelInside (p.chars.extract (i + 1) j).toList
  .expect (inside.any (!isBlank ·) && (String.ofList inside).utf8ByteSize ≤ 999) j
  return ⟨i + 1, j, j + 1⟩

/-- The label that a part writes, reduced. -/
def labelText (p : Passage) (l : Part) : String := normalizeLabel (p.raw l.start l.stop)

end Passage

/-- What a link definition says. -/
structure LinkDefinition where
  label : String
  url : String
  title : Option String
deriving DecidableEq, Repr

namespace Passage

def atLineEnd (p : Passage) (i : Nat) : Bool := p.at? i == none || p.has i '\n'

/-- The link definition at the start of a line, and the end of the line where it ends. -/
def definition? (p : Passage) (i : Nat) : Option (LinkDefinition × Nat) := do
  let label ← (p.label (p.skip isBlank i)).toOption
  guard (p.has label.next ':')
  let url ← (p.destination p.size (p.skip isSpace (label.next + 1))).toOption
  let read (title : Option String) : LinkDefinition :=
    ⟨p.labelText label, p.decoded url.start url.stop, title⟩
  let titled : Option (LinkDefinition × Nat) := do
    let t := p.skip isSpace url.next
    guard (url.next < t)
    let title ← (p.title t).toOption
    let e := p.skip isBlank title.next
    guard (p.atLineEnd e)
    return (read (p.titleText? title), e)
  titled <|> do
    let e := p.skip isBlank url.next
    guard (p.atLineEnd e)
    return (read none, e)

/-- The definitions from a position on, one after the other, each with its start and its end, and
where the last of them ends. -/
def definitionsFrom (p : Passage) : Nat → Nat → List (LinkDefinition × Nat × Nat) × Nat
  | 0, i => ([], i)
  | left + 1, i =>
    match p.definition? i with
    | none => ([], i)
    | some (d, e) =>
      if p.has e '\n' then
        let (ds, j) := definitionsFrom p left (e + 1)
        ((d, i, e) :: ds, j)
      else ([(d, i, e)], p.size)

end Passage

end MarkTree.Markdown
