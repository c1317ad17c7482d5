/-!
# Lines of a text

A line goes up to and with its terminator: a carriage return, a line feed, the two together, a
vertical tab, a form feed, or one of the three separators U+0085, U+2028 and U+2029.  There is no
line after a terminator at the end of a text, and none in the empty text.

* `linesOf` — the lines of a text, with the position where each starts.
* `indexAt?` — the number of the line at a position.
-/

namespace BlockCursor.Text

/-- A line with its terminator, and the position of its first character. -/
structure Line where
  start : Nat
  chars : List Char
deriving DecidableEq, Repr, Inhabited

/-- The position behind a line and its terminator. -/
def Line.stop (l : Line) : Nat :=
  l.start + l.chars.length

/-- Whether a character alone ends a line. -/
def isTerminator (c : Char) : Bool :=
  "\r\n\x0b\x0c\u0085\u2028\u2029".contains c

/-- A text cut behind every terminator. -/
def cutLines : List Char → List (List Char)
  | [] => []
  | '\r' :: '\n' :: cs => ['\r', '\n'] :: cutLines cs
  | c :: cs =>
    if isTerminator c then [c] :: cutLines cs
    else
      match cutLines cs with
      | [] => [[c]]
      | l :: ls => (c :: l) :: ls

/-- Lines with the positions where they start. -/
def placed (start : Nat) : List (List Char) → List Line
  | [] => []
  | l :: ls => ⟨start, l⟩ :: placed (start + l.length) ls

/-- The lines of a text. -/
def linesOf (cs : List Char) : List Line :=
  placed 0 (cutLines cs)

/-- The number of the line at a position.  The position just behind a text belongs to its last line,
and what lies further on to none. -/
def indexAt? (ls : List Line) (position : Nat) : Option Nat := do
  let last ← ls.getLast?
  if position ≤ last.stop then
    some ((ls.takeWhile fun l => l.start ≤ position).length - 1)
  else none

end BlockCursor.Text
