import BlockCursor.Decimal.Reading
import BlockCursor.Navigation.Node
import BlockCursor.Text.Blank

/-!
# Start locations

A start location is written `TYPE:REFERENCE`.  Blocks are referred to by label, inputs and fields by
name:

| location | node |
|---|---|
| `workspace:X,Y` | a point on the workspace |
| `stack:LABEL` | the stack that holds the block |
| `block:LABEL` | the block |
| `previous:LABEL`, `next:LABEL`, `output:LABEL` | a connection of the block |
| `input:LABEL.INPUT` | the socket of a named input |
| `field:LABEL.INPUT.FIELD` | a field of a named input |

The type ends at the first colon, a label at the first dot, and an input's name before a field at
the next dot; whatever follows may hold any character.

* `Start.resolve` — the node that a start location names.
* `StartError` — why there is none, with `StartError.message`.
-/

namespace BlockCursor

open Text

/-- Why a start location names no node. -/
inductive StartError
  /-- There is no colon. -/
  | noType (spec : String)
  /-- What stands before the colon is no kind of node. -/
  | unknownType (word : String)
  /-- A point without a comma. -/
  | noComma (reference : String)
  /-- A coordinate that is no number, with the axis it is on. -/
  | badCoordinate (axis : String) (written : String) (cause : Decimal.ReadError)
  /-- No block carries the label. -/
  | noBlock (label : String)
  /-- The block has no connection of the kind. -/
  | noConnection (label : String) (kind : ConnectionKind)
  /-- An input location without a dot. -/
  | inputForm (reference : String)
  /-- The block has no input of the name. -/
  | noInput (label name : String)
  /-- The input has no socket. -/
  | noSocket (reference : String)
  /-- A field location with fewer than two dots. -/
  | fieldForm (reference : String)
  /-- The input has no field of the name. -/
  | noField (field label input : String)
deriving DecidableEq, Repr

/-- The message for a start location that names no node. -/
def StartError.message : StartError → String
  | .noType spec => s!"Start location '{spec}' must look like TYPE:REFERENCE"
  | .unknownType word => s!"Unknown location type '{word}'"
  | .noComma reference => s!"Workspace location '{reference}' must be X,Y"
  | .badCoordinate axis written cause =>
    s!"Invalid {axis} coordinate '{written}': {cause.message}"
  | .noBlock label => s!"No block labelled '{label}'"
  | .noConnection label kind => s!"Block '{label}' has no {kind.name} connection"
  | .inputForm reference => s!"Input location '{reference}' must be LABEL.INPUT"
  | .noInput label name => s!"Block '{label}' has no input '{name}'"
  | .noSocket reference => s!"Input '{reference}' has no socket"
  | .fieldForm reference => s!"Field location '{reference}' must be LABEL.INPUT.FIELD"
  | .noField field label input => s!"No field '{field}' in input '{label}.{input}'"

namespace Start

/-- The two parts of a text around the first separator. -/
def split? (sep : Char) (s : String) : Option (String × String) :=
  (cut? sep s.toList).map fun (before, after) => (String.ofList before, String.ofList after)

/-- An answer, or the reason why there is none. -/
def orError {α : Type} (x : Option α) (e : StartError) : Except StartError α :=
  match x with
  | some a => .ok a
  | none => .error e

/-- One coordinate; blanks around the number do not count. -/
def coordinate (axis written : String) : Except StartError Float :=
  (Decimal.read (trim written)).mapError (StartError.badCoordinate axis written)

/-- The point that a reference names. -/
def point (reference : String) : Except StartError Point := do
  let (x, y) ← orError (split? ',' reference) (.noComma reference)
  return ⟨← coordinate "x" x, ← coordinate "y" y⟩

variable (ws : Workspace)

/-- The block with a label. -/
def block (label : String) : Except StartError BlockId :=
  orError (ws.labelled? label) (.noBlock label)

/-- The input with a name of the block with a label. -/
def input (label name : String) : Except StartError InputId := do
  let b ← block ws label
  orError (ws.inputNamed? b name) (.noInput label name)

/-- A connection of the block with a label. -/
def connection (label : String) (kind : ConnectionKind)
    (find : BlockId → Option ConnectionId) : Except StartError ConnectionId := do
  let b ← block ws label
  orError (find b) (.noConnection label kind)

/-- The node of a kind that a reference names. -/
def nodeOfKind (reference : String) : NodeKind → Except StartError Node
  | .workspace => Node.workspace <$> point reference
  | .stack => do
    let b ← block ws reference
    return .stack ((ws.root? b).getD b)
  | .block => Node.block <$> block ws reference
  | .previous => Node.previous <$> connection ws reference .previous ws.previous?
  | .next => Node.next <$> connection ws reference .next ws.next?
  | .output => Node.output <$> connection ws reference .output ws.output?
  | .input => do
    let (label, name) ← orError (split? '.' reference) (.inputForm reference)
    let i ← input ws label name
    let socket ← orError (ws.socket? i) (.noSocket reference)
    return .input socket
  | .field => do
    let (label, path) ← orError (split? '.' reference) (.fieldForm reference)
    let (name, field) ← orError (split? '.' path) (.fieldForm reference)
    let i ← input ws label name
    let f ← orError (ws.fieldNamed? i field) (.noField field label name)
    return .field f

/-- The node that a start location names. -/
def resolve (spec : String) : Except StartError Node := do
  let (word, reference) ← orError (split? ':' spec) (.noType spec)
  let kind ← orError (NodeKind.ofName? word) (.unknownType word)
  nodeOfKind ws reference kind

end Start

end BlockCursor
