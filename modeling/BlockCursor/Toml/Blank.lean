/-!
# Blanks, lines and comments of TOML

A TOML document is read as a list of characters in which every line ends with a line feed alone
(`lines`).  Blanks are spaces and tabs.  A comment goes from `#` to the end of its line and, like
every other text of a document, holds no control characters but tabs.

* `skipBlanks` — past blanks.
* `skipLines` — past blanks, comments and line ends.
* `lineIsOver` — whether nothing but blanks and a comment is left on a line.
-/

namespace BlockCursor.Toml

/-- A text with a line feed alone at the end of every line. -/
def lines : List Char → List Char
  | '\r' :: '\n' :: cs => '\n' :: lines cs
  | c :: cs => c :: lines cs
  | [] => []

/-- A blank within a line. -/
def isBlank (c : Char) : Bool :=
  c == ' ' || c == '\t'

/-- A character that may stand in comments and quoted texts. -/
def isShown (c : Char) : Bool :=
  c == '\t' || (' '.toNat ≤ c.toNat && c.toNat != 0x7f)

/-- Past blanks. -/
def skipBlanks (cs : List Char) : List Char :=
  cs.dropWhile isBlank

/-- Past blanks, comments and line ends, from inside a comment or from outside. -/
def skipLinesFrom : (comment : Bool) → List Char → Option (List Char)
  | _, [] => some []
  | _, '\n' :: cs => skipLinesFrom false cs
  | true, c :: cs => if isShown c then skipLinesFrom true cs else none
  | false, c :: cs =>
    if c == '#' then skipLinesFrom true cs
    else if isBlank c then skipLinesFrom false cs
    else some (c :: cs)

/-- Past blanks, comments and line ends.  There is no such place when a comment is malformed. -/
def skipLines (cs : List Char) : Option (List Char) :=
  skipLinesFrom false cs

/-- Whether nothing but blanks and a comment is left on a line. -/
def lineIsOver (cs : List Char) : Bool :=
  match skipBlanks cs with
  | [] => true
  | c :: _ => c == '\n' || c == '#'

end BlockCursor.Toml
