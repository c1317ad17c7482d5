/-!
# Spans

Positions in a text are counted in characters from zero.  A `Span` is the half-open range between
two positions, and `Spanned α` is a value together with the place it was read from.
-/

namespace BlockCursor.Text

/-- The characters from position `start` up to, but without, position `stop`. -/
structure Span where
  start : Nat
  stop : Nat
deriving DecidableEq, Repr, Inhabited

/-- The same range, `n` characters further on. -/
def Span.shift (n : Nat) (s : Span) : Span :=
  ⟨s.start + n, s.stop + n⟩

/-- A value and where it was written. -/
structure Spanned (α : Type) where
  value : α
  span : Span
deriving DecidableEq, Repr

/-- The same value, written `n` characters further on. -/
def Spanned.shift {α : Type} (n : Nat) (x : Spanned α) : Spanned α :=
  ⟨x.value, x.span.shift n⟩

end BlockCursor.Text
