import BlockCursor.Decimal.Reading
import BlockCursor.Log.Event
import BlockCursor.Log.Pattern
import BlockCursor.Text.Blank

/-!
# Log filters

A filter decides which events go into a log.  It is written as directives with commas between them.
A directive is a target with the least level for events from there, a target alone for all its
events, or a level alone for events from anywhere.  A target stands for all targets that begin with
it, and of the directives that are about an event the most specific one decides.

Behind the target a field may be named in brackets and braces, `target[{field}]=level`, and then
the directive is about events with that field.  A directive with a span's name or a field's value in
the brackets is about what happens in spans; events here belong to no span, so it lets none of them
pass.  Directives that cannot be read are left out, and without any directive errors pass.

* `Threshold` — the levels that pass.
* `Filter.read`, `Filter.complaints` — a filter, and what cannot be read of it.
* `Filter.passes` — whether an event passes.
* `filterText` — the filter that environment variables ask for.
-/

namespace BlockCursor.Log

/-- The levels that pass: those of at most this rank, and none at all for zero. -/
abbrev Threshold := Nat

/-- The threshold that lets everything pass. -/
def everything : Threshold := Level.trace.rank

/-- The threshold that a number stands for. -/
def thresholdOfNumber? (word : List Char) : Option Threshold :=
  let digits := match word with
    | '+' :: ds => ds
    | _ => word
  if digits.isEmpty || !digits.all Char.isDigit then none
  else
    let n := digits.foldl (fun n c => 10 * n + (c.toNat - '0'.toNat)) 0
    if n ≤ everything then some n else none

/-- The threshold that a word stands for: a level in any case, `off`, or a number. -/
def threshold? (word : String) : Option Threshold :=
  let upper := String.ofList (word.toList.map Char.toUpper)
  if upper == "OFF" then some 0
  else
    ((Level.all.find? fun l => l.name == upper).map Level.rank).or
      (thresholdOfNumber? word.toList)

/-! ## Directives -/

/-- A directive of a filter. -/
inductive Directive
  /-- Events from targets that begin with a text, or from anywhere, and if a field is named only
  those with that field. -/
  | events (target field : Option String) (threshold : Threshold)
  /-- Events in spans with a name, or in spans where a field has a value. -/
  | spans
deriving DecidableEq, Repr

/-- Why a directive cannot be read. -/
inductive Flaw
  /-- It has not the form of a directive. -/
  | form
  /-- There is no level behind the equals sign. -/
  | level
  /-- The value of a field is no expression. -/
  | pattern
  /-- It is cut inside a character. -/
  | torn
deriving DecidableEq, Repr

/-- The wording of a flaw. -/
def Flaw.message : Flaw → String
  | .form => "invalid filter directive"
  | .level =>
    "error parsing level filter: expected one of \"off\", \"error\", \"warn\", \"info\", " ++
      "\"debug\", \"trace\", or a number 0-5"
  | .pattern => "invalid field filter: error building NFA"
  | .torn => "the directive is cut inside a character"

namespace Directive

/-! Blanks around a directive are passed over, but they count where it is cut: the places of its
parts are bytes from its first character that is no blank, and the parts are taken from the
directive as written.  So with blanks in front the parts are not what they seem, and may begin or
end inside a character. -/

/-- Characters with the bytes in front of each. -/
def placed (place : Nat) : List Char → List (Nat × Char)
  | [] => []
  | c :: cs => (place, c) :: placed (place + c.utf8Size) cs

/-- A text behind its first `n` bytes, and the text in front. -/
def splitBytes : (n : Nat) → List Char → Except Flaw (List Char × List Char)
  | 0, cs => .ok ([], cs)
  | _ + 1, [] => .error .torn
  | n + 1, c :: cs =>
    if n + 1 < c.utf8Size then .error .torn
    else (splitBytes (n + 1 - c.utf8Size) cs).map fun (front, rest) => (c :: front, rest)

variable (text : List Char)

/-- The part of a text from one byte to another. -/
def part (start stop : Nat) : Except Flaw (List Char) := do
  let (front, _) ← splitBytes stop text
  return (← splitBytes start front).2

/-- The part of a text from a byte to its end. -/
def partFrom (start : Nat) : Except Flaw (List Char) :=
  Prod.snd <$> splitBytes start text

/-- The level that stands from a byte on; no text lets everything pass. -/
def readLevel (start : Nat) : Except Flaw Threshold := do
  let word ← partFrom text start
  if word.isEmpty then return everything
  match threshold? (String.ofList word) with
  | some t => return t
  | none => throw .level

/-- What may follow the closing bracket: nothing, or a level. -/
def readEnd : List (Nat × Char) → Except Flaw Threshold
  | [] => .ok everything
  | (i, '=') :: _ => readLevel text (i + 1)
  | _ => .error .form

/-- A field in braces: its name, and whether it has a value. -/
def readField (written : List Char) : Except Flaw (String × Bool) :=
  match written, Text.cut? '=' written with
  | [], _ => .error .form
  | _, none => .ok (String.ofList written, false)
  | _, some (name, rest) =>
    let value := rest.takeWhile (· != '=')
    if (Decimal.read (String.ofList value)).isOk || Pattern.isComplete value then
      .ok (String.ofList name, true)
    else .error .pattern

/-- Reads what follows the opening bracket, which is up to byte `start`. -/
def readBrackets (target : Option String) (start : Nat) (cs : List (Nat × Char)) :
    Except Flaw Directive := do
  let (_, rest) := cs.span fun (_, c) => c != ']' && c != '\x7b'
  match rest with
  | (i, ']') :: rest =>
    let _ ← part text start i
    let _ ← readEnd text rest
    return .spans
  | (i, _) :: rest =>
    let name ← part text start i
    let (_, rest) := rest.span fun (_, c) => c != '\x7d'
    match rest with
    | (j, _) :: (_, ']') :: rest' =>
      let (field, hasValue) ← readField (← part text (i + 1) j)
      let threshold ← readEnd text rest'
      if hasValue || !name.isEmpty then return .spans
      else return .events target (some field) threshold
    | (j, _) :: _ =>
      let _ ← readField (← part text (i + 1) j)
      throw .form
    | [] => throw .form
  | [] => throw .form

/-- Whether a directive can begin with a character. -/
def canBegin (c : Char) : Bool :=
  "-:_".contains c || Text.isAlphanumeric c

/-- Reads a directive that begins with its target or with a level. -/
def readWord (cs : List (Nat × Char)) : Except Flaw Directive := do
  let (_, rest) := cs.span fun (_, c) => c != '=' && c != '['
  match rest with
  | (i, c) :: rest =>
    let target := some (String.ofList (← part text 0 i))
    if c == '=' then return .events target none (← readLevel text (i + 1))
    else readBrackets text target (i + 1) rest
  | [] =>
    let word := String.ofList text
    match threshold? word with
    | some t => return .events none none t
    | none => return .events (some word) none everything

/-- Reads a directive. -/
def read (written : String) : Except Flaw Directive :=
  let text := written.toList
  match placed 0 (Text.trim written).toList with
  | [] => .error .form
  | (_, '[') :: cs => readBrackets text none 1 cs
  | (i, c) :: cs => if canBegin c then readWord text ((i, c) :: cs) else .error .form

end Directive

/-! ## Filters -/

/-- A filter: its directives, in order. -/
structure Filter where
  directives : List Directive
deriving DecidableEq, Repr

namespace Filter

/-- The directives of a filter as written. -/
def pieces (text : String) : List String :=
  (text.splitOn ",").filter fun piece => !piece.isEmpty

/-- Reads a filter from the directives that can be read; without any, errors pass. -/
def read (text : String) : Filter :=
  let directives := (pieces text).filterMap fun piece => (Directive.read piece).toOption
  ⟨if directives.isEmpty then [.events none none Level.error.rank] else directives⟩

/-- The complaint about a directive, if it cannot be read. -/
def complaint? (piece : String) : Option String :=
  match Directive.read piece with
  | .ok _ => none
  | .error flaw => some ("ignoring " ++ "`" ++ piece ++ "`: " ++ flaw.message ++ "\n")

/-- The complaints about the directives of a filter that cannot be read. -/
def complaints (text : String) : List String :=
  (pieces text).filterMap complaint?

/-- Whether a directive of a filter is cut inside a character.  Such a filter cannot be used. -/
def isTorn (text : String) : Bool :=
  (pieces text).any fun piece =>
    match Directive.read piece with
    | .error flaw => flaw == .torn
    | .ok _ => false

/-- How well a directive fits an event.  What counts is first the target, where a longer one is
better and any is better than none, then whether a field is named, and then the name of the
field. -/
structure Fit where
  target : Nat
  named : Nat
  field : String
  threshold : Threshold
deriving DecidableEq, Repr

/-- Whether a fit is at least as good as another. -/
def Fit.atLeast (a b : Fit) : Bool :=
  if a.target != b.target then b.target < a.target
  else if a.named != b.named then b.named < a.named
  else !(a.field < b.field)

/-- Whether an event has a field; its message is one. -/
def hasField (e : Event) (field : String) : Bool :=
  field == "message" || e.fields.any fun f => f.1 == field

/-- How well a directive fits an event, if it is about the event. -/
def fit? (e : Event) : Directive → Option Fit
  | .events target field threshold =>
    if (target.all fun t => e.target.startsWith t) && field.all (hasField e) then
      some {
        target := (target.map fun t => t.utf8ByteSize + 1).getD 0
        named := if field.isSome then 1 else 0
        field := field.getD ""
        threshold }
    else none
  | .spans => none

/-- The better of two fits, and of two equal ones the later. -/
def better (best : Option Fit) (fit : Fit) : Option Fit :=
  match best with
  | none => some fit
  | some b => if fit.atLeast b then some fit else some b

/-- The threshold for an event; without a directive about it none pass. -/
def thresholdFor (f : Filter) (e : Event) : Threshold :=
  (((f.directives.filterMap (fit? e)).foldl better none).map Fit.threshold).getD 0

/-- Whether an event passes. -/
def passes (f : Filter) (e : Event) : Bool :=
  e.level.rank ≤ f.thresholdFor e

end Filter

/-! ## Filters in the environment -/

/-- The targets that all targets of this program begin with. -/
def ownTargets : List String :=
  ["blocknav", "blocknav_tree", "blocknav_config", "blocknav_bin"]

/-- The filter with a level for this program, and warnings from anywhere else. -/
def filterTextForLevel (level : String) : String :=
  "warn" ++ String.join (ownTargets.map fun target => s!",{target}={level}")

/-- The filter that two variables ask for, the first before the second.  The first may hold just a
level for this program, the second is taken as it is. -/
def filterText (own general : Option String) : Option String :=
  match own with
  | none => general
  | some text =>
    if text.any fun c => c == '=' || c == ':' || c == ',' then some text
    else some (filterTextForLevel (Text.trim text))

end BlockCursor.Log
