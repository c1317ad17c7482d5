import BlockCursor.Files.Basic
import BlockCursor.Files.Path

/-!
# File trees

A tree of directories and files, with a current directory that relative paths start from.  Places in
the tree are rows of names from the root on.

A path is followed one part at a time: `..` leads to the directory around, and an empty part or a
single dot leads nowhere else but asks for a directory to be there.

* `FileTree.resolve` — the place that a path names.
* `FileTree.readText`, `FileTree.isFile` — what is there.
* `FileTree.makeDirectories` — a directory, with the directories around it that are missing.
* `FileTree.openForAppending`, `FileTree.append` — a file that is written at its end.
-/

namespace BlockCursor

/-- A tree of directories and files. -/
structure FileTree where
  /-- The current directory. -/
  current : List String := []
  /-- The directories, besides the root and those around something. -/
  directories : List (List String) := []
  /-- The files with their text; a file without text holds bytes that are none. -/
  files : List (List String × Option String) := []
deriving DecidableEq, Repr

namespace FileTree

variable (t : FileTree)

/-- The file at a place. -/
def file? (place : List String) : Option (Option String) :=
  (t.files.find? fun f => f.1 == place).map Prod.snd

/-- Whether there is a directory at a place. -/
def isDirectoryAt (place : List String) : Bool :=
  place.isPrefixOf t.current || t.directories.any place.isPrefixOf ||
    t.files.any fun f => place.isPrefixOf f.1 && place != f.1

/-- Follows the parts of a path from a place. -/
def follow (place : List String) : List String → Except FileError (List String)
  | [] => .ok place
  | part :: rest =>
    if (t.file? place).isSome then .error .notDirectory
    else if !t.isDirectoryAt place then .error .notFound
    else if part == "" || part == "." then follow place rest
    else if part == ".." then follow place.dropLast rest
    else if Path.partLimit < part.utf8ByteSize then .error .nameTooLong
    else follow (place ++ [part]) rest

/-- The place that a path names when these of its parts are followed. -/
def resolveAlong (path : String) (parts : List String) : Except FileError (List String) :=
  if path.isEmpty then .error .notFound
  else if Path.pathLimit < path.utf8ByteSize then .error .nameTooLong
  else t.follow (if Path.isAbsolute path then [] else t.current) parts

/-- The place that a path names.  It need not be taken, but the directory around it is there. -/
def resolve (path : String) : Except FileError (List String) :=
  t.resolveAlong path (Path.parts path)

/-- The text of a file. -/
def readText : ReadText := fun path => do
  let place ← t.resolve path
  match t.file? place with
  | some (some text) => .ok text
  | some none => .error .notText
  | none => .error (if t.isDirectoryAt place then .isDirectory else .notFound)

/-- Whether a path names a file. -/
def isFile (path : String) : Bool :=
  match t.resolve path with
  | .ok place => (t.file? place).isSome
  | .error _ => false

/-- Whether a path names a directory. -/
def isDirectory (path : String) : Bool :=
  match t.resolve path with
  | .ok place => t.isDirectoryAt place
  | .error _ => false

/-- Makes one directory.  Slashes at the end of its path do not ask for it to be there already. -/
def makeDirectory (path : String) : Except FileError FileTree := do
  let parts := ((Path.parts path).reverse.dropWhile String.isEmpty).reverse
  let place ← t.resolveAlong path parts
  if (t.file? place).isSome || t.isDirectoryAt place then .error .alreadyExists
  else .ok { t with directories := place :: t.directories }

/-- Makes one directory unless it is there. -/
def ensureDirectory (path : String) : FileTree × Except FileError Unit :=
  match t.makeDirectory path with
  | .ok made => (made, .ok ())
  | .error e => (t, if t.isDirectory path then .ok () else .error e)

/-- Makes a directory unless it is there, and first the directories around it that are missing, at
most `depth` of them.  What has been made before something fails stays. -/
def makeDirectoriesWithin :
    (depth : Nat) → FileTree → (path : String) → FileTree × Except FileError Unit
  | 0, t, _ => (t, .ok ())
  | depth + 1, t, path =>
    if path.isEmpty then (t, .ok ())
    else
      match t.makeDirectory path, Path.parent? path with
      | .error .notFound, none => (t, .error .notFound)
      | .error .notFound, some around =>
        match makeDirectoriesWithin depth t around with
        | (made, .ok _) => made.ensureDirectory path
        | failed => failed
      | _, _ => t.ensureDirectory path

/-- Makes a directory unless it is there, and first the directories around it that are missing. -/
def makeDirectories (path : String) : FileTree × Except FileError Unit :=
  makeDirectoriesWithin (path.length + 1) t path

/-- Makes sure that there is a file that can be written at its end. -/
def openForAppending (path : String) : Except FileError FileTree := do
  let place ← t.resolve path
  if (t.file? place).isSome then .ok t
  else if t.isDirectoryAt place then .error .isDirectory
  else .ok { t with files := t.files ++ [(place, some "")] }

/-- Writes at the end of a file that is there. -/
def append (path text : String) : FileTree :=
  match t.resolve path with
  | .error _ => t
  | .ok place =>
    { t with files := t.files.map fun f =>
        if f.1 == place then (f.1, f.2.map (· ++ text)) else f }

end FileTree

end BlockCursor
