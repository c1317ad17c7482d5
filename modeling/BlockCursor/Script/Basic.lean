import BlockCursor.Move
import BlockCursor.Text.Span

/-!
# Move scripts

A script is a list of moves, each with a repeat count: `in, next*2, out`.

* `Step` — a move and how often it is made.
* `Script` — the steps in order, each with the span it was written in.
* `Script.moves` — the moves with their repeats written out.
-/

namespace BlockCursor

open Text

/-- A move, made `count` times. -/
structure Step where
  move : Move
  count : Nat
deriving DecidableEq, Repr

/-- The largest repeat count that a step may carry. -/
def Step.maxCount : Nat := 1000

/-- The moves that a step stands for. -/
def Step.moves (s : Step) : List Move :=
  List.replicate s.count s.move

/-- The steps of a script, in order. -/
structure Script where
  steps : List (Spanned Step) := []
deriving DecidableEq, Repr

namespace Script

/-- Every move in order, with repeats written out. -/
def moves (s : Script) : List Move :=
  s.steps.flatMap fun step => step.value.moves

/-- The number of moves, found without writing them out. -/
def moveCount (s : Script) : Nat :=
  s.steps.foldr (fun step n => step.value.count + n) 0

theorem moves_length (s : Script) : s.moves.length = s.moveCount := by
  obtain ⟨steps⟩ := s
  simp only [moves, moveCount]
  induction steps with
  | nil => rfl
  | cons step rest ih =>
    rw [List.flatMap_cons, List.length_append, ih, List.foldr_cons]
    simp [Step.moves]

end Script

end BlockCursor
