import BlockCursor.Script.Basic
import BlockCursor.Script.Syntax

/-!
# What can be wrong with a script

* `Problem` — a cause and the span it is about.
* `Problem.message`, `Problem.label?` — the text of a problem, and the short text that points at
  its span in a report.
* `Diagnostic` — a located message as a report shows it, whatever it came from.
-/

namespace BlockCursor

open Text

/-- A message about a span of a text, with a short text that points at the span. -/
structure Diagnostic where
  span : Span
  message : String
  label : Option String := none
deriving DecidableEq, Repr

/-- The message after its span, on one line. -/
def Diagnostic.line (d : Diagnostic) : String :=
  s!"{d.span.start}..{d.span.stop}: {d.message}"

namespace Script

/-- Why a script is refused. -/
inductive Cause
  /-- The form is broken. -/
  | form (found : Option Char) (expected : Expectation)
  /-- A name that is not a move. -/
  | unknownMove (name : String)
  /-- A repeat count of zero. -/
  | zeroCount
  /-- A repeat count above the largest one allowed, as written. -/
  | largeCount (digits : String)
deriving DecidableEq, Repr

/-- A cause and where it lies. -/
structure Problem where
  span : Span
  cause : Cause
deriving DecidableEq, Repr

/-- How a message names what was found. -/
def foundText : Option Char → String
  | none => "end of input"
  | some c => s!"'{c}'"

/-- The message of a cause.  Expected characters stand in the order of their code points. -/
def Cause.message : Cause → String
  | .form found .digit => s!"unexpected {foundText found}"
  | .form found .separator => s!"expected '#' or ',', found {foundText found}"
  | .form found .separatorOrCount => s!"expected '#' or '*' or ',', found {foundText found}"
  | .unknownMove name => s!"unknown move '{name}'"
  | .zeroCount => "repeat count must be at least 1"
  | .largeCount digits => s!"repeat count '{digits}' is too large"

/-- The short text at the span.  Errors of form have none. -/
def Cause.label? : Cause → Option String
  | .form _ _ => none
  | .unknownMove _ => some "expected next, prev, in or out"
  | .zeroCount => some "zero repeats"
  | .largeCount _ => some s!"at most {Step.maxCount}"

/-- A problem as a report shows it. -/
def Problem.diagnostic (p : Problem) : Diagnostic :=
  ⟨p.span, p.cause.message, p.cause.label?⟩

/-- A broken form is a problem of the one character found there, or of the empty span at the end. -/
def FormError.problem (e : FormError) : Problem :=
  ⟨⟨e.position, e.position + e.found.toList.length⟩, .form e.found e.expected⟩

end Script

end BlockCursor
