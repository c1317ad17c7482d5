import BlockCursor.Toml.Value

/-!
# TOML documents

A document is a row of lines, each with a pair or a header, with blank lines and comments between
them.  The pairs before the first header belong to the table of the document itself, and the pairs
after a header to the table that the header names.

* `Line` — a pair or a header.
* `Section` — a header with the pairs below it.
* `read` — the data tree of a document.
-/

namespace BlockCursor.Toml

/-- Where the pairs of a section go: into a table, or into one more table of a list. -/
inductive Header
  | table (path : List String) (key : String)
  | entry (path : List String) (key : String)
deriving DecidableEq, Repr

/-- A line that says something. -/
inductive Line
  | pair (pair : Pair)
  | header (header : Header)

/-- A header up to its closing brackets. -/
def header : List Char → Option (Header × List Char)
  | '[' :: '[' :: cs => do
    let (path, key, rest) ← keyPath cs
    match rest with
    | ']' :: ']' :: rest => return (.entry path key, rest)
    | _ => none
  | '[' :: cs => do
    let (path, key, rest) ← keyPath cs
    match rest with
    | ']' :: rest => return (.table path key, rest)
    | _ => none
  | _ => none

/-- A line, up to the blanks and the comment at its end. -/
def line (cs : List Char) : Option (Line × List Char) :=
  match cs with
  | '[' :: _ => (header cs).map fun (h, rest) => (.header h, rest)
  | _ => (pair value cs).map fun (p, rest) => (.pair p, rest)

/-- The lines of a document. -/
def readLines (cs : List Char) : Option (List Line) :=
  match skipLines cs with
  | none => none
  | some [] => some []
  | some start =>
    match line start with
    | none => none
    | some (l, rest) =>
      if lineIsOver rest && rest.length < cs.length then (readLines rest).map (l :: ·) else none
termination_by cs.length
decreasing_by
  rename_i h
  simp only [Bool.and_eq_true, decide_eq_true_eq] at h
  exact h.2

/-- A header with the pairs below it. -/
structure Section where
  header : Header
  pairs : List Pair

/-- The pairs before the first header, and the sections. -/
def sections : List Line → List Pair × List Section
  | [] => ([], [])
  | .pair p :: rest =>
    let (pairs, after) := sections rest
    (p :: pairs, after)
  | .header h :: rest =>
    let (pairs, after) := sections rest
    ([], ⟨h, pairs⟩ :: after)

/-- The table of a document with one more section. -/
def Table.addSection (root : Table) (s : Section) : Option Table :=
  match s.header with
  | .table path key => root.openTable path key s.pairs
  | .entry path key => root.appendTable path key s.pairs

/-- The table that the lines of a document say. -/
def tableOfLines (ls : List Line) : Option Table := do
  let (pairs, rest) := sections ls
  rest.foldlM Table.addSection (← Table.opened.putAll pairs)

/-- A document without the byte order mark that may stand in front of it. -/
def withoutMark : List Char → List Char
  | '\ufeff' :: cs => cs
  | cs => cs

/-- The data tree of a document; there is none if the text is not a TOML document. -/
def read (text : String) : Option Data := do
  let ls ← readLines (lines (withoutMark text.toList))
  return (← tableOfLines ls).toData

end BlockCursor.Toml
