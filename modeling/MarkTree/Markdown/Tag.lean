import MarkTree.Markdown.Label

/-!
# Embedded HTML

Where a piece of HTML inside a paragraph ends: a tag, a comment, an instruction, a declaration or a
section of character data. Each function takes the position of the opening angle bracket, or of what
follows it, and gives the position behind the closing one.
-/

namespace MarkTree.Markdown

/-- The characters that may start a name of a tag. -/
def isAsciiLetter (c : Char) : Bool := c.isAlpha

/-- The characters of a name of a tag behind the first. -/
def isTagChar (c : Char) : Bool := c.isAlphanum || c == '-'

/-- The characters that may start a name of an attribute. -/
def startsAttribute (c : Char) : Bool := c.isAlpha || c == ':' || c == '_'

def isAttributeChar (c : Char) : Bool := startsAttribute c || c.isDigit || c == '-' || c == '.'

namespace Passage

/-- The position behind the first occurrence of a text from `i` on. -/
def find? (p : Passage) (w : String) : Nat → Nat → Option Nat
  | 0, _ => none
  | left + 1, i =>
    match p.word? w i with
    | some j => some j
    | none => find? p w left (i + 1)

/-- The position behind the first occurrence of a text from `i` on, anywhere in the passage. -/
def search (p : Passage) (w : String) (i : Nat) : Attempt Nat :=
  match p.find? w (p.size - i) i with
  | some j => .ok j
  | none => .error p.size

/-- Whether the value of an attribute may end at a position. -/
def endsValue (p : Passage) (i : Nat) : Bool :=
  (p.at? i).any fun c => isSpace c || c == '/' || c == '>'

/-- The end of the value of an attribute that starts at `i`, behind the equals sign. -/
def attributeValue (p : Passage) (i : Nat) : Attempt Nat := do
  let i := p.skip isSpace i
  match p.at? i with
  | none => .error i
  | some c =>
    if c == '"' || c == '\'' then
      let j := p.skip (· != c) (i + 1)
      .expect (p.has j c) j
      .expect (p.endsValue (j + 1)) (j + 1)
      return j + 1
    else
      .expect (!(['<', '=', '>', backtick].contains c)) i
      let j := p.skip (fun c => !(isSpace c || ['"', '\'', '/', '<', '=', '>', backtick].contains c)) (i + 1)
      .expect (p.endsValue j) j
      return j

/-- The end of a tag whose name or last attribute ends at `i`. -/
def tagRest (p : Passage) : Nat → Nat → Attempt Nat
  | 0, i => .error i
  | left + 1, i =>
    let j := p.skip isSpace i
    match p.at? j with
    | some '>' => .ok (j + 1)
    | some '/' => if p.has (j + 1) '>' then .ok (j + 2) else .error (j + 1)
    | some c =>
      if startsAttribute c then
        let e := p.skip isAttributeChar j
        let v := p.skip isSpace e
        if p.has v '=' then
          match p.attributeValue (v + 1) with
          | .ok w => tagRest p left w
          | .error stop => .error stop
        else tagRest p left e
      else .error j
    | none => .error j

def openTag (p : Passage) (i : Nat) : Attempt Nat := do
  .expect ((p.at? (i + 1)).any isAsciiLetter) (i + 1)
  let j := p.skip isTagChar (i + 1)
  .expect (p.endsValue j) j
  p.tagRest (p.size - j + 1) j

def closingTag (p : Passage) (i : Nat) : Attempt Nat := do
  .expect ((p.at? (i + 2)).any isAsciiLetter) (i + 2)
  let j := p.skip isSpace (p.skip isTagChar (i + 2))
  .expect (p.has j '>') j
  return j + 1

/-- The end of a comment, a declaration or a section of character data. -/
def declaration (p : Passage) (i : Nat) : Attempt Nat := do
  if p.has (i + 2) '-' && p.has (i + 3) '-' then p.search "-->" (i + 2)
  else if p.text (i + 2) (i + 9) == "[CDATA[" then p.search "]]>" (i + 9)
  else
    .expect ((p.at? (i + 2)).any isAsciiLetter) (i + 2)
    p.search ">" (i + 2)

/-- The end of the piece of HTML at a position. -/
def html (p : Passage) (i : Nat) : Attempt Nat :=
  match p.at? (i + 1) with
  | some '/' => p.closingTag i
  | some '!' => p.declaration i
  | some '?' => p.search "?>" (i + 2)
  | _ => p.openTag i

/-- Whether only white space stands between a line ending behind `i` and `k`. -/
def leadsLine (p : Passage) (i k : Nat) : Bool :=
  ((p.chars.extract i k).toList.reverse.dropWhile isBlank).head? == some '\n'

/-- The HTML between two positions; the white space at the start of its further lines is dropped. -/
def htmlText (p : Passage) (i j : Nat) : String :=
  String.join ((List.range' i (j - i)).map fun k =>
    match p.at? k with
    | some '\n' => p.endingAt k
    | some c => if isBlank c && p.leadsLine i k then "" else c.toString
    | none => "")

end Passage

end MarkTree.Markdown
