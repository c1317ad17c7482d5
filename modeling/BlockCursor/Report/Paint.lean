/-!
# Coloured text

Reports are written for a terminal, in four colours.  Each coloured piece begins with the code of
its colour and ends with the code that takes the colour back.
-/

namespace BlockCursor.Report

/-- What a piece of a report is coloured for. -/
inductive Ink
  /-- The frame around the lines. -/
  | frame
  /-- The frame beside rows that are no lines of the text. -/
  | gap
  /-- Text that the report is not about. -/
  | faint
  /-- What the report is about. -/
  | mark
deriving DecidableEq, Repr

/-- The code of a colour. -/
def Ink.code : Ink → String
  | .frame => "38;5;246"
  | .gap => "38;5;240"
  | .faint => "38;5;249"
  | .mark => "31"

/-- A coloured piece of text. -/
def Ink.paint (ink : Ink) (piece : String) : String :=
  s!"\x1b[{ink.code}m{piece}\x1b[0m"

/-- Coloured pieces in a row. -/
def Ink.paintEach (ink : Ink) (pieces : List String) : String :=
  String.join (pieces.map ink.paint)

/-- A number of copies of a piece. -/
def copies (n : Nat) (piece : String) : String :=
  String.join (List.replicate n piece)

end BlockCursor.Report
