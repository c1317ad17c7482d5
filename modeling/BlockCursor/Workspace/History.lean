import BlockCursor.Workspace.Edit

/-!
# Histories of a workspace

An `Edit` names one of the five edits with its arguments, and `Workspace.apply` makes it.  A
workspace is `Reachable` when some row of edits leads to it from the empty one; edits that are
refused may be part of the row and change nothing.
-/

namespace BlockCursor

/-- An edit and its arguments. -/
inductive Edit
  | insert (spec : BlockSpec)
  | setLabel (block : BlockId) (label : String)
  | connect (parent child : ConnectionId)
  | disconnect (connection : ConnectionId)
  | dispose (block : BlockId)
deriving DecidableEq, Repr

namespace Workspace

/-- Makes an edit, or says why it is refused. -/
def apply (ws : Workspace) : Edit → Except EditError Workspace
  | .insert spec => .ok (ws.insert spec).2
  | .setLabel b label => ws.setLabel b label
  | .connect parent child => ws.connect parent child
  | .disconnect c => ws.disconnect c
  | .dispose b => ws.dispose b

/-- The workspace after an edit, which is the same one if the edit is refused. -/
def applyD (ws : Workspace) (e : Edit) : Workspace :=
  match ws.apply e with
  | .ok after => after
  | .error _ => ws

/-- The workspace after a row of edits. -/
def applyAll (ws : Workspace) (edits : List Edit) : Workspace :=
  edits.foldl applyD ws

/-- A workspace that some row of edits leads to. -/
def Reachable (ws : Workspace) : Prop :=
  ∃ edits, applyAll empty edits = ws

theorem reachable_empty : Reachable empty := ⟨[], rfl⟩

/-- One more edit leads to one more reachable workspace. -/
theorem Reachable.applyD {ws : Workspace} (h : ws.Reachable) (e : Edit) :
    (ws.applyD e).Reachable := by
  obtain ⟨edits, rfl⟩ := h
  exact ⟨edits ++ [e], by simp [applyAll]⟩

end Workspace

end BlockCursor
