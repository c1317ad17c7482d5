import BlockCursor.Text.Blank
import BlockCursor.Text.Span

/-!
# Reading the form of a script

A script is a row of steps.  A step is a name, optionally followed by `*` and digits, with blanks
allowed around the `*`.  Between steps stand blanks, commas and comments, which run from `#` to the
end of the line.  Whether a name is a move and a count is in range is not asked here.

The reader goes through the text one character at a time and keeps a `Mode`: what it is in the
middle of.  Every mode can still be completed to a well-formed script, so the first character that
no mode takes is the place where the text stops being the beginning of one.

* `RawStep` — a step as written.
* `Mode.advance` — what one more character makes of a mode.
* `readSteps` — the steps of a whole text, or the one place where its form is broken.
-/

namespace BlockCursor.Script

open Text

/-- A step as written: its name, and the digits of its count. -/
structure RawStep where
  name : Spanned String
  count : Option (Spanned String) := none
deriving DecidableEq, Repr

/-- From the first character of the name to the last character of the step. -/
def RawStep.span (r : RawStep) : Span :=
  ⟨r.name.span.start, (r.count.getD r.name).span.stop⟩

/-- What could have stood where the form is broken, apart from a name or a blank. -/
inductive Expectation
  /-- A digit is due after `*`, and nothing else will do. -/
  | digit
  /-- A comma or a comment. -/
  | separator
  /-- A comma, a comment, or the `*` of a count, since a name has just been read. -/
  | separatorOrCount
deriving DecidableEq, Repr

/-- Where the form of a text is broken: the position, the character found there (none at the end of
the text), and what was expected. -/
structure FormError where
  position : Nat
  found : Option Char
  expected : Expectation
deriving DecidableEq, Repr

/-- Names begin with a letter or an underscore. -/
def isNameStart (c : Char) : Bool :=
  c.isAlpha || c == '_'

/-- Names go on with letters, digits and underscores. -/
def isNamePart (c : Char) : Bool :=
  c.isAlphanum || c == '_'

/-- What the reader is in the middle of.  Characters that are being collected are kept last first,
with the position of the first. -/
inductive Mode
  /-- Between steps. -/
  | free
  /-- In a comment. -/
  | comment
  /-- In a name. -/
  | name (start : Nat) (collected : List Char)
  /-- After a name and blanks, where a `*` would still belong to it. -/
  | gap (word : Spanned String)
  /-- After `*`, where a digit is due. -/
  | times (word : Spanned String)
  /-- In the digits of a count. -/
  | digits (word : Spanned String) (start : Nat) (collected : List Char)
deriving DecidableEq, Repr

namespace Mode

/-- The text collected so far, ending before position `stop`. -/
def collect (start stop : Nat) (collected : List Char) : Spanned String :=
  ⟨String.ofList collected.reverse, start, stop⟩

/-- What a character begins where a new step may begin. -/
def begin? (position : Nat) (c : Char) : Option Mode :=
  if isBlank c || c == ',' then some .free
  else if c == '#' then some .comment
  else if isNameStart c then some (.name position [c])
  else none

/-- A finished step, and the mode after it; `expected` is the complaint if `c` begins nothing. -/
def beginAfter (step : Option RawStep) (expected : Expectation) (position : Nat) (c : Char) :
    Except Expectation (Option RawStep × Mode) :=
  match begin? position c with
  | some mode => .ok (step, mode)
  | none => .error expected

/-- What the character `c` at `position` makes of a mode: the step that it completes, if any, and
the mode after it. -/
def advance (mode : Mode) (position : Nat) (c : Char) :
    Except Expectation (Option RawStep × Mode) :=
  match mode with
  | .free => beginAfter none .separator position c
  | .comment => .ok (none, if c == '\n' then .free else .comment)
  | .name start collected =>
    let word := collect start position collected
    if isNamePart c then .ok (none, .name start (c :: collected))
    else if isBlank c then .ok (none, .gap word)
    else if c == '*' then .ok (none, .times word)
    else beginAfter (some { name := word }) .separatorOrCount position c
  | .gap word =>
    if isBlank c then .ok (none, .gap word)
    else if c == '*' then .ok (none, .times word)
    else beginAfter (some { name := word }) .separatorOrCount position c
  | .times word =>
    if isBlank c then .ok (none, .times word)
    else if c.isDigit then .ok (none, .digits word position [c])
    else .error .digit
  | .digits word start collected =>
    if c.isDigit then .ok (none, .digits word start (c :: collected))
    else
      beginAfter (some { name := word, count := some (collect start position collected) })
        .separator position c

/-- What the end of the text at `position` makes of a mode: the last step, if one is open. -/
def finish (mode : Mode) (position : Nat) : Except Expectation (Option RawStep) :=
  match mode with
  | .free | .comment => .ok none
  | .name start collected => .ok (some { name := collect start position collected })
  | .gap word => .ok (some { name := word })
  | .times _ => .error .digit
  | .digits word start collected =>
    .ok (some { name := word, count := some (collect start position collected) })

end Mode

/-- The steps that the rest of a text adds, read from a given mode and position. -/
def readStepsFrom (mode : Mode) (position : Nat) : List Char → Except FormError (List RawStep)
  | [] =>
    match mode.finish position with
    | .ok step => .ok step.toList
    | .error expected => .error ⟨position, none, expected⟩
  | c :: rest =>
    match mode.advance position c with
    | .ok (step, mode') => (step.toList ++ ·) <$> readStepsFrom mode' (position + 1) rest
    | .error expected => .error ⟨position, some c, expected⟩

/-- The steps of a text, as written. -/
def readSteps (text : List Char) : Except FormError (List RawStep) :=
  readStepsFrom .free 0 text

end BlockCursor.Script
