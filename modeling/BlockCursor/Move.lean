/-!
# The four moves

A cursor moves to the next or the previous place, into the thing it sits on, or out of it.
-/

namespace BlockCursor

/-- One of the four moves of a cursor. -/
inductive Move
  | next
  | prev
  | into
  | out
deriving DecidableEq, Repr, Inhabited

namespace Move

/-- All moves, in the order in which tables list them. -/
def all : List Move := [.next, .prev, .into, .out]

/-- The word for a move, in scripts and in output. -/
def name : Move → String
  | .next => "next"
  | .prev => "prev"
  | .into => "in"
  | .out => "out"

/-- The move a word stands for. -/
def ofName? (word : String) : Option Move :=
  all.find? fun m => m.name == word

theorem ofName?_name (m : Move) : ofName? m.name = some m := by
  cases m <;> decide

end Move

end BlockCursor
