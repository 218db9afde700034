import MarkTree.Markdown.Address
import MarkTree.Markup

/-!
# Pieces of a passage

Reading a passage gives pieces: text, line endings, finished parts, and runs of markers that may turn
out to open or close a span. `Piece.resolve` pairs the runs; what is left of them is text.
`Piece.settle` then makes markup of the pieces: it takes the white space around line endings away,
finds mail addresses, and joins neighbouring texts.
-/

namespace MarkTree.Markdown

/-- A piece of a passage. -/
inductive Piece
  /-- Text as it was written. -/
  | text (value : String)
  /-- Text that an escape or a character reference stands for. -/
  | decoded (value : String)
  /-- A line ending. `cut` says that a container takes a part of a tab from the line behind it. -/
  | ending (value : String) (cut : Bool)
  /-- A backslash in front of a line ending. -/
  | hardBreak
  /-- A part that is complete. -/
  | part (markup : Markup)
  /-- Equal markers in a row, and whether they may open or close a span. -/
  | run (marker : Char) (size : Nat) (opens closes : Bool)
  /-- A container around other pieces. -/
  | around (container : Container) (inside : List Piece)
deriving Repr, Inhabited

namespace Piece

/-! ## Pairing runs of markers -/

/-- A run that pairs with nothing is text. -/
def asText : Piece → Piece
  | .run marker size _ _ => .text (String.ofList (List.replicate size marker))
  | piece => piece

/-- A run of markers that looks for its partner. -/
structure Run where
  marker : Char
  size : Nat
  opens : Bool
  closes : Bool

/-- Whether `opener` may be paired with `closer`. If one of the two could do both, their sizes must
not add up to a multiple of three, unless the closer's size is one itself. Tildes pair with as many
tildes, one or two. -/
def Run.pairs (opener closer : Run) : Bool :=
  opener.opens && opener.marker == closer.marker &&
    !((opener.closes || closer.opens) && closer.size % 3 != 0 &&
      (opener.size + closer.size) % 3 == 0) &&
    (closer.marker != '~' || (closer.size == opener.size && closer.size ≤ 2))

/-- The piece as a run that pairs with `closer`. -/
def pairing? (closer : Run) : Piece → Option Run
  | .run marker size opens closes =>
    let opener : Run := ⟨marker, size, opens, closes⟩
    if opener.pairs closer then some opener else none
  | _ => none

/-- The nearest run that pairs with `closer` among the pieces before it, the last piece first: the
pieces between the two, the run, and the pieces before it. -/
def opener? (closer : Run) : List Piece → Option (List Piece × Run × List Piece)
  | [] => none
  | piece :: before =>
    match pairing? closer piece with
    | some opener => some ([], opener, before)
    | none => (opener? closer before).map fun (between, opener, front) =>
      (piece :: between, opener, front)

/-- The container that a pair of runs makes, with the number of markers each run gives. -/
def spanOf (marker : Char) (take : Nat) : Container :=
  if marker == '~' then .delete else if take = 2 then .strong else .emphasis

/-- Puts a run behind the pieces `before`, of which the last is first, and pairs it with earlier runs
as often as it can. Every pair takes one marker from it at least. -/
def close (opens closes : Bool) (marker : Char) : Nat → Nat → List Piece → List Piece
  | _, 0, before => before
  | 0, size, before => .run marker size opens closes :: before
  | fuel + 1, size, before =>
    let closer : Run := ⟨marker, size, opens, closes⟩
    match if closes then opener? closer before else none with
    | none => .run marker size opens closes :: before
    | some (between, opener, front) =>
      let take := if 2 ≤ opener.size ∧ 2 ≤ size then 2 else 1
      let made := Piece.around (spanOf marker take) (between.reverse.map asText)
      let front :=
        if opener.size = take then front
        else .run opener.marker (opener.size - take) opener.opens opener.closes :: front
      close opens closes marker fuel (size - take) (made :: front)

/-- Pairs the runs among some pieces; what is left of them becomes text. -/
def resolve (pieces : List Piece) : List Piece :=
  let step (before : List Piece) (piece : Piece) : List Piece :=
    match piece with
    | .run marker size opens closes => close opens closes marker size size before
    | piece => piece :: before
  (pieces.foldl step []).reverse.map asText

/-! ## From pieces to markup -/

def joinTexts : List Piece → List Piece
  | [] => []
  | .text a :: rest =>
    match joinTexts rest with
    | .text b :: rest' => .text (a ++ b) :: rest'
    | rest' => .text a :: rest'
  | piece :: rest => piece :: joinTexts rest

def trimEnd (s : String) : String := String.ofList (s.toList.reverse.dropWhile isBlank).reverse

def blankEnd (s : String) : List Char := s.toList.reverse.takeWhile isBlank

/-- Whether the white space at the end of a line breaks it: two spaces or more and no tab. -/
def breaksLine (s : String) : Bool := 2 ≤ (blankEnd s).length && (blankEnd s).all (· == ' ')

/-- Where a piece stands. -/
inductive Margin
  /-- Behind another piece. -/
  | inner
  /-- At the start of a line. -/
  | fresh
  /-- At the start of a line from which a container takes a part of a tab. -/
  | cut
deriving DecidableEq, Repr

/-- The margin of a line. -/
def Margin.ofLine (cut : Bool) : Margin := if cut then .cut else .fresh

/-- The text without the white space in front of it that does not count: none inside a line, and all
at the start of one. Behind a part of a tab the last character of it is left. -/
def lineStart (margin : Margin) (s : String) : String :=
  let cs := s.toList.dropWhile isBlank
  match margin with
  | .inner => s
  | .fresh => String.ofList cs
  | .cut =>
    if cs.isEmpty then "" else String.ofList ((s.toList.takeWhile isBlank).getLast?.getD '\t' :: cs)

/-- Takes away the white space around line endings, and at the end if `whole` says that the passage
ends there. Spaces that break the line leave a break in place of the line ending. `margin` tells where
the first piece stands. -/
def trim (whole : Bool) : Margin → List Piece → List Piece
  | _, [] => []
  | margin, [.text s] =>
    let s := lineStart margin s
    [.text (if whole then trimEnd s else s)]
  | margin, .text s :: .ending e cut :: rest =>
    let s := lineStart margin s
    let ending := if breaksLine s then .part (.leaf .lineBreak) else .ending e cut
    .text (trimEnd s) :: ending :: trim whole (.ofLine cut) rest
  | margin, .text s :: rest => .text (lineStart margin s) :: trim whole .inner rest
  | _, .hardBreak :: .ending _ cut :: rest =>
    .part (.leaf .lineBreak) :: trim whole (.ofLine cut) rest
  | _, .ending e cut :: rest => .ending e cut :: trim whole (.ofLine cut) rest
  | _, piece :: rest => piece :: trim whole .inner rest
termination_by _ pieces => pieces.length

def cutMails : Nat → List Char → List Piece
  | 0, cs => [.text (String.ofList cs)]
  | fuel + 1, cs =>
    match findMail? [] cs with
    | none => [.text (String.ofList cs)]
    | some m =>
      .text (String.ofList m.before) ::
        .part (.node (.link m.url none) [.leaf (.text m.address)]) :: cutMails fuel m.after

/-- Finds the mail addresses in the texts among some pieces. -/
def findMails (pieces : List Piece) : List Piece :=
  pieces.flatMap fun piece =>
    match piece with
    | .text s => cutMails s.length s.toList
    | piece => [piece]

/-- Puts a text in front of markup, joined with a text that stands there. -/
def prepend (s : String) (rest : List Markup) : List Markup :=
  match rest with
  | .leaf (.text t) :: rest' => .leaf (.text (s ++ t)) :: rest'
  | _ => if s.isEmpty then rest else .leaf (.text s) :: rest

/-- Prepares pieces: joined, trimmed, and with mail addresses found unless `mails` is off. -/
def prepare (mails : Bool) (margin : Margin) (whole : Bool) (pieces : List Piece) : List Piece :=
  let trimmed := trim whole margin (joinTexts pieces)
  if mails then findMails trimmed else trimmed

/-- The markup of pieces, to a bounded depth. Inside a link no mail address is looked for. -/
def settleTo (mails : Bool) : Nat → List Piece → List Markup
  | 0, _ => []
  | depth + 1, pieces =>
    pieces.foldr (fun piece rest =>
      match piece with
      | .text s | .decoded s | .ending s _ => prepend s rest
      | .hardBreak => rest
      | .part m => m :: rest
      | .run marker size _ _ => prepend (String.ofList (List.replicate size marker)) rest
      | .around c inside =>
        let mails := mails && !(c matches .link .. || c matches .linkReference ..)
        .node c (settleTo mails depth (prepare mails .inner false inside)) :: rest) []

mutual

/-- How deep containers stand inside each other. -/
def depth : Piece → Nat
  | .around _ inside => depthIn inside + 1
  | _ => 0

def depthIn : List Piece → Nat
  | [] => 0
  | piece :: rest => max (depth piece) (depthIn rest)

end

/-- The markup of some pieces. `margin` tells where they start, and `whole` that no piece of the
passage comes after them. -/
def settle (mails : Bool) (margin : Margin) (whole : Bool) (pieces : List Piece) : List Markup :=
  settleTo mails (depthIn pieces + 1) (prepare mails margin whole pieces)

end Piece

end MarkTree.Markdown
