import BlockCursor.Files.Path

/-!
# Where the log goes

The log of a run goes into a file of its own, whose name holds the number of the process.  A path
may be given for it: a path with an extension names the file, and any other path the directory.

* `Place.choose` — the place of the log.
* `dataDirectory`, `settingsFile` — where a user's files are.
-/

namespace BlockCursor.Log

/-- The directory of a log, and the name of its file. -/
structure Place where
  directory : String
  name : String
deriving DecidableEq, Repr

/-- The path of a log. -/
def Place.path (p : Place) : String :=
  Path.join p.directory p.name

/-- The name of a log unless a path names another. -/
def defaultName (process : Nat) : String :=
  s!"blocknav-{process}.log"

/-- The directory of logs, inside the directory for a user's data. -/
def defaultDirectory (data : Option String) : String :=
  Path.join (Path.join (data.getD ".") "blocknav") "logs"

/-- The place of the log, for the path that was asked for. -/
def Place.choose (asked data : Option String) (process : Nat) : Place :=
  match asked with
  | none => ⟨defaultDirectory data, defaultName process⟩
  | some path =>
    if Path.hasExtension path then
      let directory := ((Path.parent? path).filter fun d => !d.isEmpty).getD "."
      ⟨directory, (Path.fileName? path).getD (defaultName process)⟩
    else ⟨path, defaultName process⟩

end BlockCursor.Log

namespace BlockCursor

/-- A directory for a user's files: the one that a variable names with an absolute path, else one in
the user's home. -/
def userDirectory (named home : Option String) (usual : String) : Option String :=
  (named.filter Path.isAbsolute).or (home.map (Path.join · usual))

/-- The settings file in a user's directory for settings. -/
def settingsFile (directory : String) : String :=
  Path.join (Path.join directory "blocknav") "config.toml"

end BlockCursor
