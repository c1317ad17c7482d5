import BlockCursor.Navigation.Cursor

/-!
# Describing nodes

How a node is shown to a user: its kind, and the names of what it refers to.  A block is called by
its label, or by its kind and id if it has none; inputs and fields follow their block after dots.

* `Node.describe` — the description of a node.
* `Stride.line` — what a move did, on one line.
* `Workspace.stackLines` — the stacks of a workspace, one line each.
-/

namespace BlockCursor

/-- What a block is called. -/
def Workspace.blockName (ws : Workspace) (b : BlockId) : String :=
  match ws.labelOf? b with
  | some label => label
  | none =>
    let kind := (ws.blockKind? b).getD "?"
    s!"{kind}#{b.text}"

/-- What the block of a connection or field is called. -/
def Workspace.ownerName (ws : Workspace) (b : Option BlockId) : String :=
  (b.map ws.blockName).getD "?"

/-- What a connection is called: its block, and its input if it is a socket. -/
def Workspace.connectionName (ws : Workspace) (c : ConnectionId) : String :=
  let owner := ws.ownerName (ws.owner? c)
  match (ws.parentInput? c).bind ws.inputName? with
  | some input => s!"{owner}.{input}"
  | none => owner

/-- What a field is called: its block, its input and itself. -/
def Workspace.fieldPath (ws : Workspace) (f : FieldId) : String :=
  let input := ws.fieldInput? f
  let owner := ws.ownerName (input.bind ws.inputBlock?)
  let row := (input.bind ws.inputName?).getD "?"
  let field := (ws.fieldName? f).getD "?"
  s!"{owner}.{row}.{field}"

/-- The name of what a node refers to. -/
def Node.name (ws : Workspace) : Node → String
  | .workspace p => p.text
  | .stack b | .block b => ws.blockName b
  | .field f => ws.fieldPath f
  | .input c | .output c | .previous c | .next c => ws.connectionName c

/-- The description of a node: its kind and name, or that it is gone. -/
def Node.describe (ws : Workspace) (n : Node) : String :=
  if n.isLive ws then s!"{n.kind.name} {n.name ws}" else s!"{n.text} (gone)"

/-- What a move did, on one line. -/
def Stride.line (ws : Workspace) (s : Stride) : String :=
  match s.arrival with
  | some n => s!"{s.move.name} -> {n.describe ws}"
  | none => s!"{s.move.name} -> (stays)"

/-- The stacks of a workspace in order, one line each. -/
def Workspace.stackLines (ws : Workspace) : List String :=
  ws.tops.zipIdx.map fun (top, i) => s!"{i}: {(Node.stack top).describe ws}"

end BlockCursor
