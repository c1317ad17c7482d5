import BlockCursor.Command.Run
import BlockCursor.Files.Tree
import BlockCursor.Log.Filter
import BlockCursor.Log.Place

/-!
# The program

The program reads its arguments, opens its log, runs the command and ends with a code: 0 if all went
well, 1 if the run failed, 2 if the arguments do not fit, and 101 if the program broke off.

Events go into the log, and among the output as well when the environment asks for a filter.  If
there is no directory for the log and none can be made, that is only warned about, and then events
go nowhere; if its file cannot be opened in the directory, the program breaks off.  It breaks off as
well when the filter cannot be used.

* `Launch` — what the program is started with.
* `Outcome` — the code at the end, and what has been written.
* `Launch.outcome` — the outcome of a run, given the files.
* `Launch.execute` — the whole program on a tree of files.
-/

namespace BlockCursor

/-- What the program is started with. -/
structure Launch where
  arguments : List String
  /-- The values of environment variables. -/
  environment : String → Option String
  /-- The user's home directory where the environment names none. -/
  accountHome : Option String := none
  /-- The number of the process. -/
  process : Nat

/-- The code at the end of a run, and what it has written to the output, to the errors and into the
log. -/
structure Outcome where
  code : Nat
  output : String := ""
  errors : String := ""
  log : String := ""
deriving DecidableEq, Repr

namespace Launch

variable (launch : Launch)

/-- The arguments, or why there are none. -/
def parsed : Except Usage Arguments :=
  Arguments.parse launch.arguments (launch.environment "BLOCKNAV_LOG_FILE")

/-- The filter that the environment asks for. -/
def filterText : Option String :=
  Log.filterText (launch.environment "BLOCKNAV_LOG") (launch.environment "RUST_LOG")

/-- The user's home directory. -/
def home : Option String :=
  ((launch.environment "HOME").filter fun h => !h.isEmpty).or launch.accountHome

/-- Where the log goes. -/
def logPlace (args : Arguments) : Log.Place :=
  let data := userDirectory (launch.environment "XDG_DATA_HOME") launch.home ".local/share"
  Log.Place.choose args.logPath data launch.process

/-- The usual place of the settings file. -/
def settingsPath : Option String :=
  (userDirectory (launch.environment "XDG_CONFIG_HOME") launch.home ".config").map settingsFile

/-- What an entry writes among the output. -/
def outputText (filter : Option Log.Filter) : Entry → String
  | .output line => line ++ "\n"
  | .event e => if filter.any (·.passes e) then e.line else ""

/-- What an entry writes into the log. -/
def logText (filter : Log.Filter) : Entry → String
  | .output _ => ""
  | .event e => if filter.passes e then e.line else ""

/-- The error text of a failure. -/
def failureText (failure : Option Failure) : String :=
  match failure with
  | none => ""
  | some f => s!"Error: {f.message}\n"

/-- The outcome of a run whose log is at a path. -/
def outcomeWithLog (path : String) (entries : List Entry) (failure : Option Failure) : Outcome :=
  let entries := .event (Event.logOpened path) :: entries ++
    failure.toList.map fun f => .event (Event.failed f)
  let fileFilter := Log.Filter.read (launch.filterText.getD "warn")
  let outputFilter := launch.filterText.map Log.Filter.read
  let complaints := String.join ((launch.filterText.map Log.Filter.complaints).getD [])
  { code := if failure.isSome then 1 else 0
    output := String.join (entries.map (outputText outputFilter))
    errors := complaints ++ complaints ++ failureText failure
    log := String.join (entries.map (logText fileFilter)) }

/-- The outcome of a run without a log. -/
def outcomeWithoutLog (cause : FileError) (entries : List Entry) (failure : Option Failure) :
    Outcome :=
  { code := if failure.isSome then 1 else 0
    output := String.join (entries.map (outputText none))
    errors := s!"Warning: Failed to initialize logging: {cause.message}\n" ++ failureText failure }

/-- The outcome of a run, given the files and whether there is a directory for the log. -/
def outcome (args : Arguments) (opened : Except FileError Unit) (readText : ReadText)
    (isFile : String → Bool) : Outcome :=
  let found := launch.settingsPath.filter isFile
  let (entries, failure) := args.record readText found
  match opened with
  | .ok _ => launch.outcomeWithLog (launch.logPlace args).path entries.toList failure
  | .error cause => outcomeWithoutLog cause entries.toList failure

/-- The version of the program. -/
def version : String := "blocknav_bin 0.1.0"

/-- How the program is called. -/
def help : String :=
  "Walk a block workspace with the structural cursor\n\n" ++
  "blocknav walk --layout FILE --start PLACE [--script MOVES | --script-file FILE]\n" ++
  "blocknav stacks --layout FILE\n" ++
  "blocknav outline --layout FILE\n\n" ++
  "All commands take --config FILE and --log-file PATH.\n"

/-- The outcome when the arguments name nothing to do. -/
def usageOutcome : Usage → Outcome
  | .help => { code := 0, output := help }
  | .version => { code := 0, output := version ++ "\n" }
  | .refused => { code := 2, errors := help }

/-- The outcome when the file of the log cannot be opened in its directory. -/
def unopenedOutcome (cause : FileError) : Outcome :=
  { code := 101, errors := s!"failed to create initial log file: {cause.message}\n" }

/-- Whether the filter that the environment asks for cannot be used. -/
def isFilterTorn : Bool :=
  launch.filterText.any Log.Filter.isTorn

/-- The outcome when the filter that the environment asks for cannot be used. -/
def tornOutcome : Outcome :=
  { code := 101, errors := s!"{Log.Flaw.torn.message}\n" }

/-- The whole program on a tree of files. -/
def execute (files : FileTree) : Outcome × FileTree :=
  match launch.parsed with
  | .error usage => (usageOutcome usage, files)
  | .ok args =>
    let place := launch.logPlace args
    match files.makeDirectories place.directory with
    | (files, .error cause) =>
      (launch.outcome args (.error cause) files.readText files.isFile, files)
    | (files, .ok _) =>
      match files.openForAppending place.path with
      | .error cause => (unopenedOutcome cause, files)
      | .ok files =>
        if launch.isFilterTorn then (tornOutcome, files)
        else
          let result := launch.outcome args (.ok ()) files.readText files.isFile
          (result, files.append place.path result.log)

end Launch

end BlockCursor
