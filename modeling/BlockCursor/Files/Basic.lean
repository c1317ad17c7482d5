/-!
# Files

Programs read files as text.  What can go wrong is a short list of causes, each with the message and
the number that the operating system gives it.

* `FileError` — why a file cannot be used.
* `ReadText` — a way to read files, given by whoever knows where they are.
-/

namespace BlockCursor

/-- Why a file or directory cannot be used. -/
inductive FileError
  | notFound
  | accessDenied
  | alreadyExists
  | notDirectory
  | isDirectory
  /-- A part of the path has more than 255 bytes, or the path more than 4095. -/
  | nameTooLong
  /-- The bytes of the file are no text. -/
  | notText
  /-- Any other cause, as it is told. -/
  | other (message : String)
deriving DecidableEq, Repr

/-- The message for a file that cannot be used. -/
def FileError.message : FileError → String
  | .notFound => "No such file or directory (os error 2)"
  | .accessDenied => "Permission denied (os error 13)"
  | .alreadyExists => "File exists (os error 17)"
  | .notDirectory => "Not a directory (os error 20)"
  | .isDirectory => "Is a directory (os error 21)"
  | .nameTooLong => "File name too long (os error 36)"
  | .notText => "stream did not contain valid UTF-8"
  | .other message => message

/-- Reads the text of the file at a path. -/
abbrev ReadText := (path : String) → Except FileError String

end BlockCursor
