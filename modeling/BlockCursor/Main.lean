import BlockCursor.Command.Program

/-!
# The command line

Gathers what a run depends on, leaves the run to `Launch.outcome`, and writes what it answers.
-/

namespace BlockCursor

/-- The cause that the operating system gives for a failure. -/
def fileErrorOf : IO.Error → FileError
  | .noFileOrDirectory .. => .notFound
  | .permissionDenied .. => .accessDenied
  | .alreadyExists .. => .alreadyExists
  | .inappropriateType .. => .isDirectory
  | e => .other (toString e)

/-- The text of a file. -/
def readFileText (path : String) : IO (Except FileError String) := do
  try
    let bytes ← IO.FS.readBinFile path
    match String.fromUTF8? bytes with
    | some text => return .ok text
    | none => return .error .notText
  catch e => return .error (fileErrorOf e)

/-- Whether there is a regular file at a path. -/
def isFileAt (path : String) : IO Bool := do
  match ← readFileText path with
  | .ok _ | .error .notText => return true
  | .error _ => return false

/-- The number of this process. -/
def processNumber : IO Nat := do
  match ← readFileText "/proc/self/stat" with
  | .ok text => return ((text.splitOn " ").head?.bind String.toNat?).getD 0
  | .error _ => return 0

/-- The variables that the program looks at. -/
def variableNames : List String :=
  ["BLOCKNAV_LOG", "BLOCKNAV_LOG_FILE", "HOME", "RUST_LOG", "XDG_CONFIG_HOME", "XDG_DATA_HOME"]

/-- The paths of the files that a run may read. -/
def Launch.paths (launch : Launch) (args : Arguments) : List String :=
  let ofCommand := match args.command with
    | .walk layout _ _ scriptFile => layout :: scriptFile.toList
    | .listStacks layout | .outline layout => [layout]
  args.config.toList ++ launch.settingsPath.toList ++ ofCommand

/-- What an action answers, or why files keep it from that. -/
def attempt {α : Type} (action : IO α) : IO (Except FileError α) := do
  try return .ok (← action)
  catch e => return .error (fileErrorOf e)

/-- Runs the command of the arguments. -/
def Launch.run (launch : Launch) (args : Arguments) (directory : Except FileError Unit) :
    IO Outcome := do
  let mut read : List (String × Except FileError String) := []
  for path in launch.paths args do
    read := read ++ [(path, ← readFileText path)]
  let readText : ReadText := fun path =>
    ((read.find? fun entry => entry.1 == path).map Prod.snd).getD (.error .notFound)
  let mut found := false
  if let some path := launch.settingsPath then
    found ← isFileAt path
  return launch.outcome args directory readText fun _ => found

/-- Runs the program with arguments that name something to do. -/
def Launch.perform (launch : Launch) (args : Arguments) : IO Outcome := do
  let place := launch.logPlace args
  match ← attempt (IO.FS.createDirAll place.directory) with
  | .error cause => launch.run args (.error cause)
  | .ok _ =>
    match ← attempt (IO.FS.Handle.mk place.path .append) with
    | .error cause => return Launch.unopenedOutcome cause
    | .ok handle =>
      if launch.isFilterTorn then return Launch.tornOutcome
      let result ← launch.run args (.ok ())
      handle.putStr result.log
      return result

end BlockCursor

open BlockCursor in
/-- Reads the arguments and the environment, runs the command and writes what comes of it. -/
def main (arguments : List String) : IO UInt32 := do
  let mut values : List (String × String) := []
  for name in variableNames do
    if let some value ← IO.getEnv name then
      values := values ++ [(name, value)]
  let launch : Launch :=
    { arguments
      environment := fun name => (values.find? fun entry => entry.1 == name).map Prod.snd
      process := ← processNumber }
  let result ← match launch.parsed with
    | .error usage => pure (Launch.usageOutcome usage)
    | .ok args => launch.perform args
  IO.print result.output
  IO.eprint result.errors
  return result.code.toUInt32
