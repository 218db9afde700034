import MarkTree.Markdown.Tag

/-!
# Blocks of HTML

Seven kinds of lines start a block of HTML. Five of them start a text that ends with the line that
holds a closing mark; the other two start a block that a blank line ends. All of them are told by the
characters of the line from the angle bracket on. A line may also stop too early for that: then it
could have started a block if more stood on it.
-/

namespace MarkTree.Markdown

/-- The names of tags whose contents are no markup. -/
def rawTags : List String := ["pre", "script", "style", "textarea"]

/-- The names of tags that start a block wherever they stand at the start of a line. -/
def blockTags : List String :=
  ["address", "article", "aside", "base", "basefont", "blockquote", "body", "caption", "center",
    "col", "colgroup", "dd", "details", "dialog", "dir", "div", "dl", "dt", "fieldset", "figcaption",
    "figure", "footer", "form", "frame", "frameset", "h1", "h2", "h3", "h4", "h5", "h6", "head",
    "header", "hr", "html", "iframe", "legend", "li", "link", "main", "menu", "menuitem", "nav",
    "noframes", "ol", "optgroup", "option", "p", "param", "search", "section", "summary", "table",
    "tbody", "td", "tfoot", "th", "thead", "title", "tr", "track", "ul"]

/-- What ends a block of HTML. -/
inductive HtmlEnd
  | blankLine
  /-- The line that holds one of these texts. -/
  | mark (texts : List String)
  /-- The line that ends character data. -/
  | data
deriving Repr

/-- Whether two closing brackets and an angle bracket stand in a line. Brackets are taken in pairs
from the first of a row on, so that none may be left over before the angle bracket. -/
def endsData : List Char → Bool
  | ']' :: ']' :: '>' :: _ => true
  | ']' :: ']' :: cs => endsData cs
  | _ :: cs => endsData cs
  | [] => false

/-- Whether a word, given in lower case, stands in a line. -/
def holdsWord (word : List Char) : List Char → Bool
  | [] => word.isEmpty
  | c :: cs => word.isPrefixOf ((c :: cs).map Char.toLower) || holdsWord word cs

/-- Whether a line ends the block. -/
def HtmlEnd.isIn (line : List Char) : HtmlEnd → Bool
  | .blankLine => false
  | .mark texts => texts.any fun t => holdsWord t.toList line
  | .data => endsData line

/-! ## Tags that stand alone on a line -/

/-- A place in a tag whose name is read. -/
inductive TagPlace
  | beforeAttribute
  | attribute
  | afterAttribute
  | beforeValue
  | quoted (mark : Char)
  | afterQuoted
  | bare
  /-- Behind the name of a closing tag. -/
  | beforeEnd
  /-- Behind a slash, where only the closing bracket may follow. -/
  | slash
  /-- Behind the tag. -/
  | done
deriving DecidableEq, Repr

namespace TagPlace

/-- Goes on in front of an attribute, whose name may start with a digit. -/
def startAttribute? (c : Char) : Option TagPlace :=
  if c == '/' then some .slash
  else if c == '>' then some .done
  else if isBlank c then some .beforeAttribute
  else if startsAttribute c || c.isDigit then some .attribute
  else none

/-- Goes on behind the name of an attribute. -/
def leaveAttribute? (c : Char) : Option TagPlace :=
  if c == '=' then some .beforeValue
  else if isBlank c then some .afterAttribute
  else startAttribute? c

/-- Goes on in a value without quotes. What ends it may be an equals sign in front of another value. -/
def bare? (c : Char) : Option TagPlace :=
  if isBlank c || ['"', '\'', '/', '<', '=', '>', backtick].contains c then leaveAttribute? c
  else some .bare

/-- Where a tag goes on with a character; nowhere if the character may not stand there. -/
def next? (c : Char) : TagPlace → Option TagPlace
  | .beforeAttribute => startAttribute? c
  | .attribute => if isAttributeChar c then some .attribute else leaveAttribute? c
  | .afterAttribute => leaveAttribute? c
  | .beforeValue =>
    if ['<', '=', '>', backtick].contains c then none
    else if c == '"' || c == '\'' then some (.quoted c)
    else if isBlank c then some .beforeValue
    else bare? c
  | .quoted mark => some (if c == mark then .afterQuoted else .quoted mark)
  | .afterQuoted => if isBlank c || c == '/' || c == '>' then startAttribute? c else none
  | .bare => bare? c
  | .beforeEnd =>
    if isBlank c then some .beforeEnd else if c == '>' then some .done else none
  | .slash => if c == '>' then some .done else none
  | .done => if isBlank c then some .done else none

end TagPlace

/-! ## The start of a block -/

/-- What a line that starts with an angle bracket is. -/
inductive HtmlStart
  /-- No block of HTML. -/
  | other
  /-- The line stops before that is decided. -/
  | unfinished
  /-- It starts a block, and ends it too if `done`. -/
  | starts (ends : HtmlEnd) (done : Bool)

namespace HtmlStart

/-- A block that may end with the rest of its first line. -/
def upTo (ends : HtmlEnd) (rest : List Char) : HtmlStart := .starts ends (ends.isIn rest)

/-- What a line is that has an exclamation mark behind its angle bracket. -/
def ofDeclaration : List Char → HtmlStart
  | [] | ['-'] => .unfinished
  | '-' :: '-' :: rest => upTo (.mark ["-->"]) ('-' :: '-' :: rest)
  | c :: rest =>
    if isAsciiLetter c then upTo (.mark [">"]) rest
    else
      let mark := "[CDATA[".toList
      if mark.isPrefixOf (c :: rest) then upTo .data ((c :: rest).drop mark.length)
      else if (c :: rest).isPrefixOf mark then .unfinished
      else .other

/-- What a line is that starts with a tag, from the first letter of its name on. A tag of any other
name starts a block only if nothing else stands on the line and `alone` allows it. -/
def ofTag (alone closing : Bool) (cs : List Char) : HtmlStart :=
  let name := String.ofList ((cs.takeWhile isTagChar).map Char.toLower)
  let rest := cs.dropWhile isTagChar
  if rest.head?.any fun c => !(isBlank c || c == '/' || c == '>') then .other
  else
    let slash := rest.head? == some '/'
    if !slash && !closing && rawTags.contains name then
      upTo (.mark (rawTags.map fun t => "</" ++ t ++ ">")) rest
    else if blockTags.contains name then
      match rest with
      | ['/'] => .unfinished
      | '/' :: c :: _ => if c == '>' then .starts .blankLine false else .other
      | _ => .starts .blankLine false
    else if !alone then .other
    else
      let place : TagPlace := if closing then .beforeEnd else .beforeAttribute
      match rest.foldlM (fun place c => place.next? c) place with
      | some .done => .starts .blankLine false
      | some _ => .unfinished
      | none => .other

/-- What a line is. `alone` says that a tag of any name may start a block: the line does not follow
text directly. -/
def ofLine (alone : Bool) : List Char → HtmlStart
  | ['<'] | ['<', '/'] => .unfinished
  | '<' :: '!' :: rest => ofDeclaration rest
  | '<' :: '?' :: rest => upTo (.mark ["?>"]) ('?' :: rest)
  | '<' :: '/' :: c :: rest => if isAsciiLetter c then ofTag alone true (c :: rest) else .other
  | '<' :: c :: rest => if isAsciiLetter c then ofTag alone false (c :: rest) else .other
  | _ => .other

end HtmlStart

end MarkTree.Markdown
