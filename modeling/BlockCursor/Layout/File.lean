import BlockCursor.Files.Basic
import BlockCursor.Layout.Build
import BlockCursor.Layout.Data
import BlockCursor.Toml.Decode

/-!
# Layout files

A workspace is read from a file in three stages: the text of the file, the layout that the text
says, and the workspace that the layout describes.

* `WorkspaceLayout.load` — the first two stages.
* `LayoutFileError` — at which stage there is no workspace, and why.
-/

namespace BlockCursor

/-- Why there is no workspace in a file. -/
inductive LayoutFileError
  /-- The file cannot be read. -/
  | unreadable (path : String) (cause : FileError)
  /-- The text does not say a layout. -/
  | undecodable (path : String) (cause : Toml.DecodeError)
  /-- The layout cannot be built. -/
  | unbuildable (path : String) (cause : LayoutError)
deriving DecidableEq, Repr

/-- The message for a file without a workspace. -/
def LayoutFileError.message : LayoutFileError → String
  | .unreadable path cause => s!"Failed to read layout file: {path}: {cause.message}"
  | .undecodable path cause => s!"Failed to parse layout file: {path}: {cause.message}"
  | .unbuildable path cause => s!"Invalid layout in {path}: {cause.message}"

/-- The layout in a file. -/
def WorkspaceLayout.load (readText : ReadText) (path : String) :
    Except LayoutFileError WorkspaceLayout := do
  let text ← (readText path).mapError (LayoutFileError.unreadable path)
  (Toml.decode (WorkspaceLayout.ofData .toml) text).mapError (LayoutFileError.undecodable path)

end BlockCursor
