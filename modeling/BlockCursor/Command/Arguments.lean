import BlockCursor.Text.Blank

/-!
# Command-line arguments

The program has three commands.  Options have long names and take one value each, which follows as
the next argument or behind an equals sign:

| command | options |
|---|---|
| `walk` | `--layout FILE`, `--start PLACE`, and at most one of `--script MOVES`, `--script-file FILE` |
| `stacks` | `--layout FILE` |
| `outline` | `--layout FILE` |
| any | `--config FILE`, `--log-file PATH`, also in front of the command |

An option stands at most once in front of the command and once behind it, and there what stands
behind counts.  A value that follows as an argument does not begin with a hyphen unless it is
nothing else, and files and paths are not empty.  The log's path may come from the environment, for
each of the two places where the option can stand.

* `Command`, `Arguments` — what the program is asked to do.
* `Arguments.parse` — the arguments, or why there are none.
-/

namespace BlockCursor

/-- What the program is asked to do. -/
inductive Command
  /-- Moves a cursor from a start location. -/
  | walk (layout start : String) (script scriptFile : Option String)
  /-- Lists the stacks of a workspace. -/
  | listStacks (layout : String)
  /-- Shows a whole workspace. -/
  | outline (layout : String)
deriving DecidableEq, Repr

/-- The arguments of the program. -/
structure Arguments where
  config : Option String
  logPath : Option String
  command : Command
deriving DecidableEq, Repr

/-- Why arguments name nothing to do. -/
inductive Usage
  /-- Help is asked for. -/
  | help
  /-- The version is asked for. -/
  | version
  /-- The arguments do not fit. -/
  | refused
deriving DecidableEq, Repr

namespace Arguments

/-! ## Options -/

/-- The options, each with a value. -/
inductive Flag
  | config
  | logPath
  | layout
  | start
  | script
  | scriptFile
deriving DecidableEq, Repr

namespace Flag

/-- All options. -/
def all : List Flag := [.config, .logPath, .layout, .start, .script, .scriptFile]

/-- The name of an option. -/
def name : Flag → String
  | .config => "config"
  | .logPath => "log-file"
  | .layout => "layout"
  | .start => "start"
  | .script => "script"
  | .scriptFile => "script-file"

/-- Whether a value fits an option: what names a file is not empty. -/
def accepts (flag : Flag) (value : String) : Bool :=
  match flag with
  | .start | .script => true
  | .config | .logPath | .layout | .scriptFile => !value.isEmpty

end Flag

/-- The three commands by name. -/
inductive CommandName
  | walk
  | listStacks
  | outline
deriving DecidableEq, Repr

/-- The command that a word names. -/
def CommandName.ofName? : String → Option CommandName
  | "walk" => some .walk
  | "stacks" => some .listStacks
  | "outline" => some .outline
  | _ => none

/-- Where arguments stand: in front of the command, or behind it. -/
inductive Position
  | front
  | behind (command : CommandName)
deriving DecidableEq, Repr

/-- The options that may stand somewhere. -/
def Position.flags : Position → List Flag
  | .front => [.config, .logPath]
  | .behind .walk => Flag.all
  | .behind _ => [.config, .logPath, .layout]

/-- The option of a name that may stand somewhere. -/
def Position.flag? (p : Position) (name : String) : Option Flag :=
  p.flags.find? fun flag => flag.name == name

/-- The options that stand at one of the two places. -/
abbrev Given := List (Flag × String)

/-- The value of an option. -/
def Given.value? (given : Given) (flag : Flag) : Option String :=
  (given.find? fun entry => entry.1 == flag).map Prod.snd

/-- One more option with a value that fits, which has not been given yet. -/
def Given.put (given : Given) (flag : Flag) (value : String) : Except Usage Given :=
  if (given.value? flag).isSome || !flag.accepts value then .error .refused
  else .ok (given ++ [(flag, value)])

/-! ## Reading -/

/-- A name and the value behind an equals sign. -/
def splitValue (word : String) : String × Option String :=
  match Text.cut? '=' word.toList with
  | some (name, value) => (String.ofList name, some (String.ofList value))
  | none => (word, none)

/-- Whether an argument can be the value of the option in front of it. -/
def canFollow (word : String) : Bool :=
  !word.startsWith "-" || word == "-"

/-- What an argument is. -/
inductive Word
  /-- Two hyphens, and the name of an option with the value behind an equals sign. -/
  | long (name : String) (value : Option String)
  /-- One hyphen and letters. -/
  | short (first : Char)
  /-- Two hyphens alone: no options follow. -/
  | stop
  /-- Anything else. -/
  | plain (word : String)
deriving DecidableEq, Repr

/-- What an argument is. -/
def Word.of (word : String) : Word :=
  match word.toList with
  | ['-', '-'] => .stop
  | '-' :: '-' :: rest =>
    let (name, value) := splitValue (String.ofList rest)
    .long name value
  | '-' :: c :: _ => .short c
  | _ => .plain word

/-- What asks for help or for the version, which only stands in front of the command. -/
def inquiry? (p : Position) : Word → Option Usage
  | .long "help" none | .short 'h' => some .help
  | .long "version" none | .short 'V' => if p = .front then some .version else none
  | _ => none

/-- Reads options up to an argument that is none: the options, and the arguments from there on. -/
def readOptions (p : Position) (given : Given) : List String → Except Usage (Given × List String)
  | [] => .ok (given, [])
  | word :: rest =>
    match inquiry? p (Word.of word), Word.of word, rest with
    | some usage, _, _ => .error usage
    | none, .long name (some value), rest =>
      match p.flag? name with
      | some flag => do readOptions p (← given.put flag value) rest
      | none => .error .refused
    | none, .long name none, value :: rest =>
      match p.flag? name with
      | some flag =>
        if canFollow value then do readOptions p (← given.put flag value) rest
        else .error .refused
      | none => .error .refused
    | none, .long _ none, [] | none, .short _, _ => .error .refused
    | none, .stop, _ | none, .plain _, _ => .ok (given, word :: rest)

/-- An option that has to be there. -/
def Given.require (given : Given) (flag : Flag) : Except Usage String :=
  match given.value? flag with
  | some value => .ok value
  | none => .error .refused

/-- The command that options behind its name describe. -/
def Given.command (given : Given) (name : CommandName) : Except Usage Command := do
  let layout ← given.require .layout
  match name with
  | .listStacks => return .listStacks layout
  | .outline => return .outline layout
  | .walk =>
    let start ← given.require .start
    match given.value? .script, given.value? .scriptFile with
    | some _, some _ => throw .refused
    | script, scriptFile => return .walk layout start script scriptFile

/-- The path of the log at one of the two places, where the environment stands in for the option. -/
def Given.logPath (given : Given) (named : Option String) : Except Usage (Option String) :=
  match given.value? .logPath, named with
  | some path, _ => .ok (some path)
  | none, some path => if path.isEmpty then .error .refused else .ok (some path)
  | none, none => .ok none

/-- What asking for help about a command answers. -/
def helpAbout : List String → Usage
  | [] => .help
  | [word] => if (CommandName.ofName? word).isSome || word == "help" then .help else .refused
  | _ => .refused

/-- Reads the options behind the name of a command. -/
def parseBehind (front : Given) (named : Option String) (name : CommandName)
    (words : List String) : Except Usage Arguments := do
  let (behind, rest) ← readOptions (.behind name) [] words
  if rest != [] && rest != ["--"] then throw .refused
  let command ← behind.command name
  let logPath ← behind.logPath named
  let _ ← front.logPath named
  return {
    config := (behind.value? .config).or (front.value? .config)
    logPath := ((behind.value? .logPath).or (front.value? .logPath)).or logPath
    command }

/-- Reads the arguments of the program; `named` is the path of the log that the environment
names. -/
def parse (words : List String) (named : Option String) : Except Usage Arguments := do
  let (front, rest) ← readOptions .front [] words
  match rest with
  | [] => throw .refused
  | word :: rest =>
    if word == "help" then throw (helpAbout rest)
    else
      match CommandName.ofName? word with
      | some name => parseBehind front named name rest
      | none => throw .refused

end Arguments

end BlockCursor
