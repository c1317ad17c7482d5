/-!
# Paths

A path is a text whose parts are separated by slashes.  Slashes at its end, and parts that are a
single dot, say nothing, except for a dot that is all there is in front.

* `join` — a path inside a directory.
* `fileName?`, `parent?` — the last part of a path, and what stands before it.
* `hasExtension` — whether the last part has a dot behind its first character.
-/

namespace BlockCursor.Path

/-- Whether a path starts at the root. -/
def isAbsolute (path : String) : Bool :=
  path.startsWith "/"

/-- A path inside a directory.  An absolute path stays what it is. -/
def join (directory path : String) : String :=
  if isAbsolute path || directory.isEmpty then path
  else if directory.endsWith "/" then directory ++ path
  else directory ++ "/" ++ path

/-- A path read from its end, without what says nothing there. -/
def dropSilent : List Char → List Char
  | '/' :: cs => dropSilent cs
  | '.' :: '/' :: cs => dropSilent cs
  | cs => cs

/-- The last part of a path, and the rest in front of it, both read from the end. -/
def splitLast (path : String) : List Char × List Char :=
  (dropSilent path.toList.reverse).span (· != '/')

/-- The last part of a path; a dot or two are no name. -/
def fileName? (path : String) : Option String :=
  let name := String.ofList (splitLast path).1.reverse
  if name == "" || name == "." || name == ".." then none else some name

/-- The path without its last part.  The root has nothing in front of it. -/
def parent? (path : String) : Option String :=
  let (name, front) := splitLast path
  if name.isEmpty then none
  else
    let rest := String.ofList (dropSilent front).reverse
    some (if rest.isEmpty && isAbsolute path then "/" else rest)

/-- Whether the last part of a path has a dot behind its first character. -/
def hasExtension (path : String) : Bool :=
  match fileName? path with
  | none => false
  | some name => (name.toList.drop 1).contains '.'

/-- The most bytes that a part of a path may have. -/
def partLimit : Nat := 255

/-- The most bytes that a path may have. -/
def pathLimit : Nat := 4095

/-- The parts of a path between its slashes. -/
def parts (path : String) : List String :=
  (path.toList.splitOn '/').map String.ofList

end BlockCursor.Path
