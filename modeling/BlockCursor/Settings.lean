import BlockCursor.Decimal.Text
import BlockCursor.Files.Basic
import BlockCursor.Toml.Decode

/-!
# Settings

There is one setting, `workspace_step`: how far a cursor moves over the workspace in one step.  It
stands in a TOML file, and it has to be a positive number.  A file that was asked for by name goes
before one that was found in its usual place, and without any file the setting is 10.

* `Settings.ofData` — the settings that a document says.
* `Settings.load` — the settings of a file.
* `Settings.choose` — the settings of the file that goes first.
-/

namespace BlockCursor

/-- The settings of the program. -/
structure Settings where
  workspaceStep : Float := 10
deriving Repr

/-- Why there are no settings. -/
inductive SettingsError
  /-- The file cannot be read. -/
  | unreadable (path : String) (cause : FileError)
  /-- The file does not hold settings. -/
  | undecodable (path : String) (cause : Toml.DecodeError)
  /-- The step is no positive number. -/
  | badStep (path : String) (step : Float)
deriving Repr

namespace SettingsError

/-- The message without its cause. -/
def headline : SettingsError → String
  | .unreadable path _ => s!"Failed to read config file: {path}"
  | .undecodable path _ => s!"Failed to parse config file: {path}"
  | .badStep path step =>
    s!"Invalid workspace_step {Decimal.plain step} in {path}: must be a positive number"

/-- The message with its cause, if it has one. -/
def message (e : SettingsError) : String :=
  match e with
  | .unreadable _ cause => s!"{e.headline}: {cause.message}"
  | .undecodable _ cause => s!"{e.headline}: {cause.message}"
  | .badStep _ _ => e.headline

end SettingsError

namespace Settings

/-- The settings, as a record. -/
def record : Record := ⟨"Settings", ["workspace_step"]⟩

/-- The settings that a document says. -/
def ofData (d : Data) : Except Mismatch Settings :=
  Settings.mk <$> record.readOnlyField .toml (Data.asFloat .toml) (Settings.workspaceStep {}) d

/-- Whether a step is a positive number. -/
def isStep (x : Float) : Bool :=
  x.isFinite && 0 < x

/-- The settings in the text of a file. -/
def ofText (path text : String) : Except SettingsError Settings := do
  let settings ← (Toml.decode ofData text).mapError (SettingsError.undecodable path)
  if isStep settings.workspaceStep then return settings
  else throw (.badStep path settings.workspaceStep)

/-- The settings of a file. -/
def load (readText : ReadText) (path : String) : Except SettingsError Settings := do
  ofText path (← (readText path).mapError (SettingsError.unreadable path))

/-- The settings of the file that goes first: the one asked for, else the one found. -/
def choose (readText : ReadText) (asked found : Option String) : Except SettingsError Settings :=
  match asked.or found with
  | some path => load readText path
  | none => .ok {}

/-- The settings as a log shows them. -/
def text (s : Settings) : String :=
  "Settings \x7b workspace_step: " ++ Decimal.literal s.workspaceStep ++ " \x7d"

end Settings

end BlockCursor
