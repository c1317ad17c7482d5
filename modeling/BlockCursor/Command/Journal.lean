import BlockCursor.Layout.File
import BlockCursor.Log.Event
import BlockCursor.Navigation.Describe
import BlockCursor.Navigation.Start
import BlockCursor.Report.Diagnostic
import BlockCursor.Settings

/-!
# What a run writes

A run writes lines of output and log events, in one row, and it may fail.

* `Entry` — one of the two.
* `Failure` — at which stage a run fails, and why.
* `Run` — a step of a run.
-/

namespace BlockCursor

/-- Something that a run writes. -/
inductive Entry
  /-- A line of output. -/
  | output (line : String)
  /-- An event for the log. -/
  | event (event : Log.Event)
deriving DecidableEq, Repr

/-- At which stage a run fails, and why. -/
inductive Failure
  | settings (error : SettingsError)
  | layout (error : LayoutFileError)
  | start (error : StartError)
  /-- There is no script to walk by. -/
  | noScript
  | unreadableScript (path : String) (cause : FileError)
  /-- A script with problems. -/
  | badScript (source : String) (problems : List Script.Problem)
  /-- A move goes wrong. -/
  | move (error : CursorError)
deriving Repr

/-- The message of a failure. -/
def Failure.message : Failure → String
  | .settings e => e.message
  | .layout e => e.message
  | .start e => e.message
  | .noScript => "Nothing to walk: pass --script or --script-file"
  | .unreadableScript path cause => s!"Failed to read script file: {path}: {cause.message}"
  | .badScript source problems =>
    "Invalid move script\n" ++ reports source (problems.map Script.Problem.diagnostic)
  | .move e => e.message

/-- A step of a run: it adds entries to what has been written, and it may fail. -/
abbrev Run := EStateM Failure (Array Entry)

namespace Run

/-- Writes something. -/
def write (entry : Entry) : Run Unit :=
  modify fun entries => entries.push entry

/-- Writes a line of output. -/
def print (line : String) : Run Unit :=
  write (.output line)

/-- Tells an event. -/
def tell (event : Log.Event) : Run Unit :=
  write (.event event)

/-- An answer, or a failure in its place. -/
def require {ε α : Type} (x : Except ε α) (failure : ε → Failure) : Run α :=
  match x with
  | .ok a => pure a
  | .error e => throw (failure e)

end Run

/-! ## The events -/

namespace Event

open Log

/-- The log has been opened. -/
def logOpened (path : String) : Log.Event :=
  ⟨.debug, "blocknav", "logging initialized", [("log_file", path)]⟩

/-- There are settings. -/
def settingsLoaded (settings : Settings) : Log.Event :=
  ⟨.debug, "blocknav_bin", "loaded settings", [("settings", settings.text)]⟩

/-- A block of a layout has been hung from another. -/
def linked (link : Link) : Log.Event :=
  ⟨.debug, "blocknav_tree::workspace", "connected",
    [("parent", link.parent.text), ("child", link.child.text), ("block", link.block.text)]⟩

/-- The workspace of a layout is there. -/
def layoutBuilt (count : Nat) : Log.Event :=
  ⟨.debug, "blocknav_tree::layout", "built workspace from layout", [("stacks", toString count)]⟩

/-- A walk begins. -/
def walkBegun (start : Node) (moves : Nat) : Log.Event :=
  ⟨.info, "blocknav_bin::commands::walk", "walking",
    [("start", start.text), ("moves", toString moves)]⟩

/-- A move has been made. -/
def moved (ws : Workspace) (s : Stride) : Log.Event :=
  let fields := [("from", s.origin.text), ("direction", s.move.name)]
  match s.arrival with
  | some n => ⟨.trace, "blocknav::navigator", "moved", fields ++ [("to", n.text)]⟩
  | none =>
    if s.origin.isLive ws then ⟨.trace, "blocknav::navigator", "at boundary", fields⟩
    else
      ⟨.trace, "blocknav::navigator", "stale location",
        [("node", s.origin.text), ("direction", s.move.name)]⟩

/-- A run has failed. -/
def failed (failure : Failure) : Log.Event :=
  ⟨.error, "blocknav", failure.message, []⟩

end Event

end BlockCursor
