import BlockCursor.Report.Excerpt

/-!
# Reports

A report of a diagnostic names its message and, if its span lies in the text, shows the place: a
head with line and column, both counted from one, an excerpt, and a foot.

* `Diagnostic.report` — the report of one diagnostic.
* `reports` — the reports of several, one after the other.
-/

namespace BlockCursor

open Text Report

namespace Report

/-- What stands for the name of a text that has none. -/
def unnamed : String := "<unknown>"

/-- The head of an excerpt: where its span starts. -/
def headRows (e : Excerpt) : List String :=
  let indent := copies (e.numberWidth + 2) " "
  let column := e.span.start - ((e.lines[e.first]?).map Line.start).getD 0 + 1
  let place := s!"{unnamed}:{e.first + 1}:{column}"
  [indent ++ Ink.frame.paintEach ["╭", "─", "["] ++ place ++ Ink.frame.paint "]",
    indent ++ Ink.frame.paint "│"]

/-- The foot of an excerpt. -/
def footRow (e : Excerpt) : String :=
  Ink.frame.paint (copies (e.numberWidth + 2) "─" ++ "╯")

end Report

/-- The rows of the report of a diagnostic. -/
def Diagnostic.rows (source : String) (d : Diagnostic) : List String :=
  let title := Ink.mark.paint "Error:" ++ " " ++ d.message
  match excerpt? source d.span d.label with
  | none => [title]
  | some e => title :: (headRows e ++ e.rows ++ [footRow e])

/-- The report of a diagnostic about a text. -/
def Diagnostic.report (source : String) (d : Diagnostic) : String :=
  String.join ((d.rows source).map (· ++ "\n"))

/-- The reports of diagnostics about a text. -/
def reports (source : String) (ds : List Diagnostic) : String :=
  String.join (ds.map (Diagnostic.report source))

end BlockCursor
