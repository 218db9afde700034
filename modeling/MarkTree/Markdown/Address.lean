import MarkTree.Markdown.Tag

/-!
# Addresses

Addresses between angle brackets, and addresses that stand in the text without any mark. A bare
address ends in front of punctuation behind which only more punctuation follows, but keeps a closing
parenthesis that it opened; a semicolon takes a whole character reference with it.
-/

namespace MarkTree.Markdown

/-- The characters of the local part of an address in angle brackets. -/
def isLocalChar (c : Char) : Bool :=
  c.isAlphanum || ['#', '$', '%', '&', '\'', '*', '+', '/', '=', '?', '^', '_', backtick,
    '\x7b', '|', '\x7d', '~', '.', '-'].contains c

namespace Passage

/-- The end of the domain of a mail address: labels of at most 63 characters, joined by dots. -/
def mailDomain? (p : Passage) : Nat → Nat → Option Nat
  | 0, _ => none
  | left + 1, i => do
    guard ((p.at? i).any Char.isAlphanum)
    let j := p.skip (fun c => c.isAlphanum || c == '-') i
    guard (j - i ≤ 63 && !p.has (j - 1) '-')
    if p.has j '.' then mailDomain? p left (j + 1) else return j

/-- The address in angle brackets at a position: where it leads, its text, and where it ends. -/
def bracketed? (p : Passage) (i : Nat) : Option (String × String × Nat) := do
  guard (p.has i '<')
  let url : Option (String × String × Nat) := do
    guard ((p.at? (i + 1)).any Char.isAlpha)
    let s := p.skip (fun c => c.isAlphanum || c == '+' || c == '-' || c == '.') (i + 1)
    guard (p.has s ':' && 2 ≤ s - (i + 1) && s - (i + 1) ≤ 32)
    let e := p.skip (fun c => !(c.toNat < 0x21 || c == '<' || c == '>' || c.toNat == 0x7f)) (s + 1)
    guard (p.has e '>')
    let t := p.text (i + 1) e
    return (t, t, e + 1)
  let mail : Option (String × String × Nat) := do
    let s := p.skip isLocalChar (i + 1)
    guard (i + 1 < s && p.has s '@')
    let e ← p.mailDomain? (p.size - s) (s + 1)
    guard (p.has e '>')
    let t := p.text (i + 1) e
    return ("mailto:" ++ t, t, e + 1)
  url <|> mail

/-- The punctuation that a bare address does not end with. -/
def isTrailing (c : Char) : Bool :=
  ['!', '"', '\'', ')', '*', ',', '.', ':', ';', '?', '_', '~'].contains c

/-- Whether only punctuation follows up to the end of an address. What follows the passage in the
source counts too: behind a cell of a table it may be a bar, which is no end. -/
def trails (p : Passage) : Nat → Nat → Bool
  | 0, _ => true
  | left + 1, i =>
    match p.at? i with
    | none => Text.classOf (p.beyond? i) == .space
    | some c =>
      if isTrailing c then trails p left (i + 1)
      else if c == '&' then
        let j := p.skip Char.isAlpha (i + 1)
        if i + 1 < j && p.has j ';' then trails p left (j + 1) else false
      else if c == '<' then true
      else if c == ']' then
        match p.at? (i + 1) with
        | none => true
        | some d => isSpace d || d == '(' || d == '[' || trails p left (i + 1)
      else Text.classOf (some c) == .space

/-- Whether an address ends at a position. -/
def addressEnds (p : Passage) (i : Nat) : Bool := p.trails (p.size - i + 1) i

/-- The end of the domain at a position. It says something, and its last two labels are free of
underscores; `seen`, `last` and `previous` tell what is known of that. -/
def domain? (p : Passage) (seen last previous : Bool) : Nat → Nat → Option Nat
  | 0, _ => none
  | left + 1, i =>
    let finish : Option Nat := if last || previous || !seen then none else some i
    match p.at? i with
    | none => finish
    | some c =>
      if c == '.' || c == '_' then
        if p.addressEnds i then finish
        else if c == '_' then domain? p seen true previous left (i + 1)
        else domain? p seen false last left (i + 1)
      else if c == '-' then domain? p seen last previous left (i + 1)
      else if Text.classOf (some c) == .other then domain? p true last previous left (i + 1)
      else finish

/-- The end of what follows the domain, with the parentheses opened and closed so far. -/
def pathEnd (p : Passage) (opened closed : Nat) : Nat → Nat → Nat
  | 0, i => i
  | left + 1, i =>
    match p.at? i with
    | none => i
    | some c =>
      if c == '(' then pathEnd p (opened + 1) closed left (i + 1)
      else if c == ')' && closed < opened then pathEnd p opened (closed + 1) left (i + 1)
      else if isTrailing c || c == '&' || c == '<' || c == ']' then
        if p.addressEnds i then i
        else pathEnd p opened (if c == ')' then closed + 1 else closed) left (i + 1)
      else if Text.classOf (some c) == .space then i
      else pathEnd p opened closed left (i + 1)

/-- The end of an address whose domain starts at a position. -/
def addressFrom? (p : Passage) (i : Nat) : Option Nat := do
  let d ← p.domain? false false false (p.size - i + 1) i
  return p.pathEnd 0 0 (p.size - d + 1) d

/-- What stands before a position for a bare address. At the start of a line that is the mark of a
container in front of it, but on a line which was looked at before, up to `reach`, the line ending. -/
def neighbour? (p : Passage) (reach i : Nat) : Option Char :=
  if i = 0 then none
  else if p.isReread reach i then some '\n'
  else p.before? i

/-- The bare address at a position: where it leads, its text, and where it ends. One with a protocol
does not follow a letter; one without starts a word. -/
def bareAddress? (p : Passage) (reach i : Nat) : Option (String × String × Nat) := do
  let previous := p.neighbour? reach i
  let protocol : Option (String × String × Nat) := do
    guard (!previous.any Char.isAlpha)
    let d ← p.word? "http://" i <|> p.word? "https://" i
    let e ← p.addressFrom? d
    let t := p.text i e
    return (t, t, e)
  let site : Option (String × String × Nat) := do
    guard (previous.all fun c => isSpace c || ['\r', '(', '*', '_', '[', ']', '~'].contains c)
    let d ← p.word? "www." i
    guard (d < p.size)
    let e ← p.addressFrom? i
    let t := p.text i e
    return ("http://" ++ t, t, e)
  protocol <|> site

end Passage

/-! ## Mail addresses in a text -/

/-- The characters in front of the at sign of a bare mail address. -/
def isMailChar (c : Char) : Bool := c.isAlphanum || ['+', '-', '.', '_'].contains c

/-- The domain of a bare mail address and what follows it; behind `xmpp:` it may go on with a slash.
A dot counts only in front of a letter or digit. -/
def mailTail (slash : Bool) : List Char → List Char × List Char
  | [] => ([], [])
  | c :: rest =>
    let dot := c == '.' && rest.head?.any Char.isAlphanum
    if c.isAlphanum || c == '-' || c == '_' || dot || (slash && c == '/') then
      let (domain, after) := mailTail slash rest
      (c :: domain, after)
    else ([], c :: rest)

/-- A mail address found in a text: the text before it, the address, where it leads, and the text
after it. -/
structure Mail where
  before : List Char
  address : String
  url : String
  after : List Char

/-- The mail address around an at sign. `back` holds the characters before the sign, the last one
first, and `rest` those after it. -/
def mailAround? (back rest : List Char) : Option Mail := do
  let user := back.takeWhile isMailChar
  let front := back.drop user.length
  guard (user ≠ [] && front.head? != some '/')
  let named (w : String) : Bool :=
    (front.take w.length).map Char.toLower == w.toList.reverse &&
      !(front.drop w.length).head?.any Char.isAlphanum
  let scheme := ["mailto:", "xmpp:"].find? named
  let (domain, after) := mailTail (scheme == some "xmpp:") rest
  guard (domain.contains '.' && domain.getLast?.any Char.isAlpha)
  let taken := (scheme.elim 0 String.length)
  let address := String.ofList ((front.take taken).reverse ++ user.reverse ++ '@' :: domain)
  let url := if scheme.isSome then address else "mailto:" ++ address
  return ⟨(front.drop taken).reverse, address, url, after⟩

/-- The first mail address in a text, given the characters passed so far, the last one first. -/
def findMail? : List Char → List Char → Option Mail
  | _, [] => none
  | back, c :: rest =>
    if c == '@' then
      match mailAround? back rest with
      | some m => some m
      | none => findMail? (c :: back) rest
    else findMail? (c :: back) rest

end MarkTree.Markdown
