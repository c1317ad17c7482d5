import BlockCursor.Decimal.Text

/-!
# Points

A point on the surface of a workspace, away from any block.
-/

namespace BlockCursor

/-- A point on the surface of a workspace. -/
structure Point where
  x : Float
  y : Float
deriving Repr, Inhabited

namespace Point

/-- The point where a cursor starts unless it is told otherwise. -/
def origin : Point := ⟨0, 0⟩

/-- The point moved by a distance along each axis. -/
def offset (p : Point) (dx dy : Float) : Point :=
  ⟨p.x + dx, p.y + dy⟩

/-- The text of a point, such as `(60, 20.5)`. -/
def text (p : Point) : String :=
  s!"({Decimal.plain p.x}, {Decimal.plain p.y})"

end Point

end BlockCursor
