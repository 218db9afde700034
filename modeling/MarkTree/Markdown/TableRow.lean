import MarkTree.Markdown.Source

/-!
# Rows of tables

A bar separates the cells of a row, unless a backslash stands in front of it. Bars at the two ends of
a row separate nothing. The second row of a table says nothing but how many columns there are.
-/

namespace MarkTree.Markdown.Source

/-- The stretches between the bars of a row. `from` is where the current one starts. -/
def betweenBars (src : Source) (stop : Nat) : Nat → Nat → Nat → List Span
  | 0, start, _ => [.between start stop]
  | left + 1, start, i =>
    if stop ≤ i then [.between start stop]
    else
      match src.chars[i]? with
      | some '|' => .between start i :: betweenBars src stop left (i + 1) (i + 1)
      | some '\\' =>
        match src.chars[i + 1]? with
        | some '\\' | some '|' => betweenBars src stop left start (i + 2)
        | _ => betweenBars src stop left start (i + 1)
      | _ => betweenBars src stop left start (i + 1)

/-- A stretch without the white space at its ends. -/
def trimmed (src : Source) (s : Span) : Span :=
  let text := (src.chars.extract s.start s.stop).toList
  let before := (text.takeWhile isBlank).length
  let after := ((text.drop before).reverse.takeWhile isBlank).length
  .between (s.start + before) (s.stop - after)

def isEmpty (s : Span) : Bool := s.stop ≤ s.start

def cells (src : Source) (row : Span) : List Span :=
  let parts := (src.betweenBars row.stop (row.stop - row.start) row.start row.start).map src.trimmed
  let parts :=
    match parts with
    | first :: second :: rest => if isEmpty first then second :: rest else parts
    | _ => parts
  match parts.getLast? with
  | some last => if isEmpty last && 1 < parts.length then parts.dropLast else parts
  | none => parts

/-- Whether a row says more than a single bar does, so that it can be the head of a table. -/
def isHead (src : Source) (row : Span) : Bool :=
  let row := src.trimmed row
  !(row.stop = row.start + 1 && src.chars[row.start]? == some '|')

/-- Whether a text is a row of dashes, perhaps with colons at its ends. -/
def isRule (cs : List Char) : Bool :=
  let cs := if cs.head? == some ':' then cs.drop 1 else cs
  let cs := if cs.getLast? == some ':' then cs.dropLast else cs
  cs != [] && cs.all (· == '-')

/-- The number of columns that a row of rules announces. A single rule without colon or bar
announces nothing. -/
def columns? (src : Source) (row : Span) : Option Nat :=
  let text := (src.chars.extract row.start row.stop).toList
  let parts := src.cells row
  if text.any (fun c => c == ':' || c == '|') &&
      parts.all (fun s => isRule (src.chars.extract s.start s.stop).toList) then
    some parts.length
  else none

end MarkTree.Markdown.Source
