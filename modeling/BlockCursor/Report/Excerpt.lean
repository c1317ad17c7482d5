import BlockCursor.Report.Paint
import BlockCursor.Script.Problem
import BlockCursor.Text.Blank
import BlockCursor.Text.Line
import BlockCursor.Text.Width

/-!
# Excerpts

An excerpt shows the lines of a text that a span touches, each with its number, and points at the
span.  A span within one line is underlined, and an arrow leads from its middle to the label:

```text
 1 │ in sideways
   │    ────┬───
   │        ╰───── expected next, prev, in or out
```

A span of several lines is drawn beside them: its first and last line are shown, and what lies
between them is left out.

```text
 1 │ ╭─▶ next
   ┆ ┆
 3 │ ├─▶ prev
   │ │
   │ ╰───────── too many moves
```

Without a label nothing is pointed at, and of several lines only a gap is shown.

* `Place` — how a line lies to the span.
* `excerpt` — the rows of an excerpt.
-/

namespace BlockCursor.Report

open Text

/-- What an excerpt shows: a span of some lines, its label, and how wide line numbers are. -/
structure Excerpt where
  span : Span
  label : Option String
  lines : List Line
  /-- The numbers of the first and the last line of the span, counted from zero. -/
  first : Nat
  last : Nat

namespace Excerpt

variable (e : Excerpt)

/-- The position of the last character of the span, or of the empty span itself. -/
def lastPosition : Nat :=
  max (e.span.stop - 1) e.span.start

/-- Whether a position lies in the span. -/
def covers (position : Nat) : Bool :=
  e.span.start ≤ position && position < e.span.stop

/-- The width of the widest line number. -/
def numberWidth : Nat :=
  (toString (e.last + 1)).length

/-! ## Characters -/

/-- How far apart tab stops are. -/
def tabWidth : Nat := 4

/-- A character of a line as it is shown, and its width in columns.  White space is shown as blanks,
and a tab leads to the next tab stop. -/
def shown (c : Char) (index : Nat) : Char × Nat :=
  if c == '\t' then (' ', tabWidth - index % tabWidth)
  else if isBlank c then (' ', 1)
  else (c, columns c)

/-- The characters of a line that are shown: blanks and the terminator at its end are not. -/
def visible (line : Line) : List Char :=
  (line.chars.reverse.dropWhile isBlank).reverse

/-- The text of a line. -/
def lineText (line : Line) : String :=
  String.join ((visible line).zipIdx.map fun (c, i) =>
    let (c, width) := shown c i
    let ink : Ink := if e.covers (line.start + i) then .mark else .faint
    copies (if isBlank c then width else 1) (ink.paint (String.singleton c)))

/-! ## The frame -/

/-- The frame beside a line of the text. -/
def numbered (index : Nat) : String :=
  let number := toString (index + 1)
  let padding := copies (e.numberWidth - number.length) " "
  " " ++ Ink.frame.paint (padding ++ number ++ " │") ++ " "

/-- The frame beside a row that is no line of the text, with a given bar. -/
def beside (bar : String) : String :=
  " " ++ Ink.gap.paint (copies (e.numberWidth + 1) " " ++ bar) ++ " "

/-! ## Rows of marks -/

/-- A piece of a row of marks, under one character: what stands in its first column and what in the
others. -/
structure Piece where
  head : String
  tail : String

/-- A coloured piece. -/
def marked (head tail : String) : Piece :=
  ⟨Ink.mark.paint head, Ink.mark.paint tail⟩

/-- A row of marks under the characters of a line, and on for as many columns as it needs. -/
def marks (line : Line) (length : Nat) (piece : (index : Nat) → Piece) : String :=
  let chars := visible line
  String.join ((List.range length).map fun i =>
    let width := ((chars[i]?).map fun c => (shown c i).2).getD 1
    let p := piece i
    if width = 0 then "" else p.head ++ copies (width - 1) p.tail)

/-- The rows that underline the span within a line, and lead to the label. -/
def underline (line : Line) (label : String) : List String :=
  let middle := max ((e.span.start + e.span.stop) / 2) e.span.start - line.start
  let length := e.span.stop - line.start + 2
  let under (i : Nat) : Piece :=
    if e.covers (line.start + i) then marked (if i = middle then "┬" else "─") "─"
    else if i = middle then marked "│" " "
    else ⟨" ", " "⟩
  let arrow (i : Nat) : Piece :=
    if i < middle then ⟨" ", " "⟩ else marked (if i = middle then "╰" else "─") "─"
  [e.beside "│" ++ marks line length under,
    e.beside "│" ++ marks line length arrow ++ " " ++ label]

/-- The rows below the last line of a span of several lines, which lead to the label. -/
def closing (line : Line) (label : String) : List String :=
  let length := line.chars.length + 2
  [e.beside "│" ++ Ink.mark.paint "│" ++ "   " ++ marks line length fun _ => ⟨" ", " "⟩,
    e.beside "│" ++ Ink.mark.paintEach ["╰", "─", "─", "─"] ++
      marks line length (fun _ => marked "─" "─") ++ " " ++ label]

/-! ## Lines -/

/-- How a line lies to the span. -/
inductive Place
  /-- The span lies within the line. -/
  | whole
  /-- The span starts in the line and goes on. -/
  | opening
  /-- The span ends in the line and started before. -/
  | closing
  /-- The span goes on over the start of the line. -/
  | inside
  /-- None of these. -/
  | apart
deriving DecidableEq, Repr

/-- How a line lies to the span. -/
def place (line : Line) : Place :=
  if e.first = e.last then
    if line.start ≤ e.span.start && e.span.stop ≤ line.stop then .whole else .apart
  else if e.label.isSome && line.start ≤ e.span.start && e.span.start < line.stop then .opening
  else if e.label.isSome && line.start ≤ e.lastPosition && e.lastPosition < line.stop then .closing
  else if e.covers line.start then .inside
  else .apart

/-- The row in place of lines that are left out. -/
def gapRow (place : Place) : String :=
  if place = .inside then
    e.beside "┆" ++ (if e.label.isSome then Ink.mark.paint "┆" ++ "   " else "")
  else e.beside "│"

/-- A line and the rows below it; a line that is left out becomes a gap, unless there is one just
above.  Answers the rows and whether they are a gap. -/
def lineRows (afterGap : Bool) (index : Nat) (line : Line) : List String × Bool :=
  let label := e.label.getD ""
  match e.place line with
  | .whole =>
    let rows := if e.label.isSome then e.underline line label else []
    ((e.numbered index ++ e.lineText line) :: rows, false)
  | .opening =>
    ([e.numbered index ++ Ink.mark.paintEach ["╭", "─", "▶", " "] ++ e.lineText line], false)
  | .closing =>
    ((e.numbered index ++ Ink.mark.paintEach ["├", "─", "▶", " "] ++ e.lineText line) ::
      e.closing line label, false)
  | place => (if afterGap then [] else [e.gapRow place], true)

/-- The rows for lines, numbered from `index` on. -/
def rowsFrom (afterGap : Bool) (index : Nat) : List Line → List String
  | [] => []
  | line :: rest =>
    let (rows, gap) := e.lineRows afterGap index line
    rows ++ rowsFrom gap (index + 1) rest

/-- The rows of an excerpt. -/
def rows : List String :=
  e.rowsFrom false e.first ((e.lines.drop e.first).take (e.last + 1 - e.first))

end Excerpt

/-- The excerpt of a text around a span; there is none for a span that leaves the text. -/
def excerpt? (source : String) (span : Span) (label : Option String) : Option Excerpt := do
  let lines := linesOf source.toList
  let first ← indexAt? lines span.start
  let last ← if span.stop ≤ span.start then some first else indexAt? lines (span.stop - 1)
  return { span, label, lines, first, last }

end BlockCursor.Report
