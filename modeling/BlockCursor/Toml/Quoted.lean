import BlockCursor.Toml.Blank

/-!
# Quoted texts of TOML

A text stands between two marks, `"` or `'`, or between three marks on either side; then it may run
over several lines.  Between double marks a backslash begins an escape.  A long text leaves out a
line end that comes first in it, and one or two of its marks may stand right before the closing
three.

The text between the marks is read one character at a time (`Quote.step`); a `Quote.Place` says what
the reading is in the middle of.

* `Quote.text` — a text up to its closing mark.
* `quotedText`, `quotedLine` — a quoted text with its opening mark, of any form or short.
-/

namespace BlockCursor.Toml

/-- How a text is quoted: its mark, and whether the mark stands three times. -/
structure Quote where
  mark : Char
  long : Bool
deriving DecidableEq, Repr

namespace Quote

/-- What the reading of a quoted text is in the middle of. -/
inductive Place
  /-- Plain text. -/
  | plain
  /-- A row of marks inside a long text. -/
  | marks (count : Nat)
  /-- An escape, after its backslash. -/
  | escape
  /-- The hexadecimal digits of a character, with so many of them left. -/
  | code (left value : Nat)
  /-- Blanks between a backslash and the end of its line. -/
  | lineEnd
  /-- Blanks and line ends after a backslash at the end of a line. -/
  | skipping
deriving DecidableEq, Repr

/-- What one character does. -/
inductive Step
  /-- The reading goes on, with more text. -/
  | more (place : Place) (text : List Char)
  /-- The character is the last mark. -/
  | last (text : List Char)
  /-- The quoted text ended before the character. -/
  | over (text : List Char)
  /-- The character may not stand here. -/
  | refused
deriving DecidableEq, Repr

/-- The value of a hexadecimal digit. -/
def hexDigit? (c : Char) : Option Nat :=
  if c.isDigit then some (c.toNat - '0'.toNat)
  else if 'a' ≤ c && c ≤ 'f' then some (c.toNat - 'a'.toNat + 10)
  else if 'A' ≤ c && c ≤ 'F' then some (c.toNat - 'A'.toNat + 10)
  else none

/-- The character that a letter after a backslash stands for. -/
def escaped? : Char → Option Char
  | 'b' => some '\x08'
  | 't' => some '\t'
  | 'n' => some '\n'
  | 'f' => some '\x0c'
  | 'r' => some '\r'
  | '"' => some '"'
  | '\\' => some '\\'
  | _ => none

/-- What a character does in plain text. -/
def plainStep (q : Quote) (c : Char) : Step :=
  if c == q.mark then if q.long then .more (.marks 1) [] else .last []
  else if c == '\\' && q.mark == '"' then .more .escape []
  else if c == '\n' then if q.long then .more .plain [c] else .refused
  else if isShown c then .more .plain [c]
  else .refused

/-- A step with more text in front. -/
def Step.after (front : List Char) : Step → Step
  | .more place text => .more place (front ++ text)
  | .last text => .last (front ++ text)
  | .over text => .over (front ++ text)
  | .refused => .refused

/-- Marks inside a text. -/
def markText (q : Quote) (count : Nat) : List Char :=
  List.replicate count q.mark

/-- What a character does after a backslash. -/
def escapeStep (q : Quote) (c : Char) : Step :=
  match escaped? c with
  | some meant => .more .plain [meant]
  | none =>
    if c == 'u' then .more (.code 4 0) []
    else if c == 'U' then .more (.code 8 0) []
    else if q.long && isBlank c then .more .lineEnd []
    else if q.long && c == '\n' then .more .skipping []
    else .refused

/-- What a hexadecimal digit does.  The last one makes a character if its value is that of one. -/
def codeStep (left value : Nat) (c : Char) : Step :=
  match hexDigit? c with
  | none => .refused
  | some d =>
    let value := 16 * value + d
    if 1 < left then .more (.code (left - 1) value) []
    else if value.isValidChar then .more .plain [Char.ofNat value]
    else .refused

/-- What a character does. -/
def step (q : Quote) (place : Place) (c : Char) : Step :=
  match place with
  | .plain => q.plainStep c
  | .marks n =>
    if c == q.mark then
      if n = 4 then .last (q.markText 2) else .more (.marks (n + 1)) []
    else if 3 ≤ n then .over (q.markText (n - 3))
    else (q.plainStep c).after (q.markText n)
  | .escape => q.escapeStep c
  | .code left value => codeStep left value c
  | .lineEnd =>
    if isBlank c then .more .lineEnd [] else if c == '\n' then .more .skipping [] else .refused
  | .skipping => if isBlank c || c == '\n' then .more .skipping [] else q.plainStep c

/-- The text up to the closing mark, and what follows the mark. -/
def text (q : Quote) : Place → List Char → Option (List Char × List Char)
  | .marks n, [] => if 3 ≤ n then some (q.markText (n - 3), []) else none
  | _, [] => none
  | place, c :: cs =>
    match q.step place c with
    | .more place front => (q.text place cs).map fun (read, rest) => (front ++ read, rest)
    | .last front => some (front, cs)
    | .over front => some (front, c :: cs)
    | .refused => none

/-- The text of a quote, which begins after its opening mark. -/
def open? (q : Quote) (cs : List Char) : Option (String × List Char) :=
  let cs := match q.long, cs with
    | true, '\n' :: rest => rest
    | _, _ => cs
  (q.text .plain cs).map fun (read, rest) => (String.ofList read, rest)

end Quote

/-- A quoted text on one line. -/
def quotedLine : List Char → Option (String × List Char)
  | '"' :: cs => (Quote.mk '"' false).open? cs
  | '\'' :: cs => (Quote.mk '\'' false).open? cs
  | _ => none

/-- A quoted text of any form. -/
def quotedText : List Char → Option (String × List Char)
  | '"' :: '"' :: '"' :: cs => (Quote.mk '"' true).open? cs
  | '\'' :: '\'' :: '\'' :: cs => (Quote.mk '\'' true).open? cs
  | cs => quotedLine cs

end BlockCursor.Toml
