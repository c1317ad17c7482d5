/-!
# Log events

What the program does is told as events.  An event has a level, comes from a part of the program
that is named by its target, and holds a message and named values.

* `Event.line` — the line of an event in a log.
-/

namespace BlockCursor.Log

/-- How much an event matters. -/
inductive Level
  | error
  | warn
  | info
  | debug
  | trace
deriving DecidableEq, Repr, Inhabited

namespace Level

/-- All levels, from the one that matters most on. -/
def all : List Level := [.error, .warn, .info, .debug, .trace]

/-- The word for a level. -/
def name : Level → String
  | .error => "ERROR"
  | .warn => "WARN"
  | .info => "INFO"
  | .debug => "DEBUG"
  | .trace => "TRACE"

/-- The place of a level among all, counted from one. -/
def rank : Level → Nat
  | .error => 1
  | .warn => 2
  | .info => 3
  | .debug => 4
  | .trace => 5

end Level

/-- Something that happened. -/
structure Event where
  level : Level
  target : String
  message : String
  fields : List (String × String) := []
deriving DecidableEq, Repr

/-- A character of a message in a log.  Those that a terminal might obey are written as escapes. -/
def escaped (c : Char) : String :=
  match c with
  | '\x1b' => "\\x1b"
  | '\x07' => "\\x07"
  | '\x08' => "\\x08"
  | '\x0c' => "\\x0c"
  | '\x7f' => "\\x7f"
  | _ =>
    if 0x80 ≤ c.toNat && c.toNat ≤ 0x9f then
      "\\u\x7b" ++ String.ofList (Nat.toDigits 16 c.toNat) ++ "\x7d"
    else String.singleton c

/-- The line of an event in a log; a message of several lines stays as it is. -/
def Event.line (e : Event) : String :=
  let message := String.join (e.message.toList.map escaped)
  let fields := e.fields.map fun (name, value) => s!" {name}={value}"
  s!"{e.level.name} {e.target}: {message}" ++ String.join fields ++ "\n"

end BlockCursor.Log
