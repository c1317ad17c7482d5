import BlockCursor.Navigation.Navigator

/-!
# Cursors

A cursor is a current node and nothing more.  It holds no workspace: each move is given the
navigator to move by, so that the workspace may be edited between moves.

* `Cursor.go` — one move, which leaves the cursor where it is at the edge of the tree.
* `Cursor.goInPlace` — the same move on a cursor that is kept, whatever comes of it.
* `Cursor.walk` — a row of moves, with a trail of what each of them did.
-/

namespace BlockCursor

/-- A place to move from. -/
structure Cursor where
  current : Node := .workspace Point.origin
deriving Repr, Inhabited

/-- A move that a cursor was asked to make: where it stood, and where it went, if anywhere. -/
structure Stride where
  move : Move
  origin : Node
  arrival : Option Node
deriving Repr

namespace Cursor

/-- Makes a move.  Answers whether the cursor moved, and the cursor after it. -/
def go (cursor : Cursor) (nav : Navigator) (m : Move) : Except CursorError (Bool × Cursor) :=
  match nav.navigate cursor.current m with
  | .error e => .error e
  | .ok none => .ok (false, cursor)
  | .ok (some n) => .ok (true, ⟨n⟩)

/-- Makes a move in place.  The cursor is set when there is a node to set it to, and a failure
leaves it as it was set last. -/
def goInPlace (nav : Navigator) (m : Move) : EStateM CursorError Cursor Bool := do
  let cursor ← get
  match nav.navigate cursor.current m with
  | .error e => throw e
  | .ok none => return false
  | .ok (some n) =>
    set (⟨n⟩ : Cursor)
    return true

end Cursor

/-- What a cursor did on its way, and the cursor after it. -/
structure Trail where
  strides : Array Stride := #[]
  cursor : Cursor
deriving Repr

/-- The trail with one more move. -/
def Trail.extend (nav : Navigator) (t : Trail) (m : Move) : Except CursorError Trail :=
  match t.cursor.go nav m with
  | .error e => .error e
  | .ok (moved, after) =>
    let arrival := if moved then some after.current else none
    .ok ⟨t.strides.push ⟨m, t.cursor.current, arrival⟩, after⟩

/-- Makes moves one after the other. -/
def Cursor.walk (cursor : Cursor) (nav : Navigator) (moves : List Move) :
    Except CursorError Trail :=
  moves.foldlM (Trail.extend nav) { cursor }

end BlockCursor
