import BlockCursor.Data.Mismatch
import BlockCursor.Toml.Document

/-!
# Decoding TOML documents

A document is decoded in two stages: its text is read as a data tree, and the tree is read as what
the document is to say.
-/

namespace BlockCursor.Toml

/-- Why a document does not say what it is to say. -/
inductive DecodeError
  /-- The text is no TOML document. -/
  | malformed
  /-- The document says something else. -/
  | mismatch (mismatch : Mismatch)
deriving DecidableEq, Repr

/-- The message for a document that cannot be decoded. -/
def DecodeError.message : DecodeError → String
  | .malformed => "TOML parse error: the text is no TOML document"
  | .mismatch m => s!"TOML parse error: {m.message}"

/-- Decodes the text of a document. -/
def decode {α : Type} (ofData : Data → Except Mismatch α) (text : String) :
    Except DecodeError α :=
  match read text with
  | none => .error .malformed
  | some d => (ofData d).mapError DecodeError.mismatch

end BlockCursor.Toml
