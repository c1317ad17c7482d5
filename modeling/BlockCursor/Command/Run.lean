import BlockCursor.Command.Arguments
import BlockCursor.Command.Journal
import BlockCursor.Navigation.Cursor
import BlockCursor.Script.Parse
import BlockCursor.Workspace.Outline

/-!
# Running a command

A run reads the settings and then the layout; a walk goes on with the start location, the script and
the moves.  The first stage that fails ends the run.  Each move is printed before the next one is
made.

* `Command.walkOver` — the moves of a script, with a line for each.
* `Command.run` — the run of a command with given settings.
* `Arguments.run` — a whole run.
-/

namespace BlockCursor

namespace Command

/-- The workspace in a file.  Links that were made are told even if building fails after them. -/
def loadWorkspace (readText : ReadText) (path : String) : Run Workspace := do
  let layout ← Run.require (WorkspaceLayout.load readText path) .layout
  let (draft, error) := layout.draft
  draft.links.forM fun link => Run.tell (Event.linked link)
  match error with
  | some e => throw (.layout (.unbuildable path e))
  | none =>
    Run.tell (Event.layoutBuilt draft.workspace.tops.length)
    return draft.workspace

/-- The text of the script: given as it is, or in a file. -/
def scriptText (readText : ReadText) : (script scriptFile : Option String) → Except Failure String
  | some text, _ => .ok text
  | none, some path => (readText path).mapError (Failure.unreadableScript path)
  | none, none => .error .noScript

/-- Makes one move and prints what it did. -/
def stride (ws : Workspace) (nav : Navigator) (cursor : Cursor) (m : Move) : Run Cursor := do
  let (moved, after) ← Run.require (cursor.go nav m) .move
  let made : Stride := ⟨m, cursor.current, if moved then some after.current else none⟩
  Run.tell (Event.moved ws made)
  Run.print (made.line ws)
  return after

/-- Walks over a workspace, one move after the other. -/
def walkOver (ws : Workspace) (settings : Settings) (start : Node) (script : Script) :
    Run Unit := do
  Run.tell (Event.walkBegun start script.moveCount)
  let nav := Navigator.ofWorkspace ws settings.workspaceStep
  let _ ← script.moves.foldlM (stride ws nav) ⟨start⟩

/-- Runs a command. -/
def run (readText : ReadText) (settings : Settings) : Command → Run Unit
  | .walk layout start script scriptFile => do
    let ws ← loadWorkspace readText layout
    let node ← Run.require (Start.resolve ws start) .start
    let source ← Run.require (scriptText readText script scriptFile) id
    let script ← Run.require (Script.parse source) (.badScript source)
    walkOver ws settings node script
  | .listStacks layout => do
    let ws ← loadWorkspace readText layout
    ws.stackLines.forM Run.print
  | .outline layout => do
    let ws ← loadWorkspace readText layout
    Run.print ws.outline

end Command

namespace Arguments

/-- A whole run; `found` is the settings file in its usual place, if there is one. -/
def run (args : Arguments) (readText : ReadText) (found : Option String) : Run Unit := do
  let settings ← Run.require (Settings.choose readText args.config found) .settings
  Run.tell (Event.settingsLoaded settings)
  args.command.run readText settings

/-- What a run writes, and the failure that ends it, if one does. -/
def record (args : Arguments) (readText : ReadText) (found : Option String) :
    Array Entry × Option Failure :=
  match (args.run readText found) #[] with
  | .ok _ entries => (entries, none)
  | .error e entries => (entries, some e)

end Arguments

end BlockCursor
