import BlockCursor.Workspace.Basic

/-!
# Editing a workspace

Five edits: a new block is put on the workspace as a stack of its own (`insert`), a block gets a
label (`setLabel`), a block is hung from another one (`connect`) or taken off it (`disconnect`), and
a block is removed with everything below it (`dispose`).  Every edit but the first can be refused,
and a refusal leaves the workspace as it is, since an edit that succeeds answers a new one.

* `BlockSpec` — what a new block is to be like.
* `EditError` — why an edit is refused, with `EditError.message`.
-/

namespace BlockCursor

/-! ## New blocks -/

/-- A field of a new block. -/
structure FieldSpec where
  name : String
  editable : Bool
deriving DecidableEq, Repr

/-- An input of a new block, with its row of fields. -/
structure InputSpec where
  name : String
  kind : InputKind
  fields : List FieldSpec := []
deriving DecidableEq, Repr

/-- A new block: its kind, which connections it has, and its inputs. -/
structure BlockSpec where
  kind : String
  previous : Bool := false
  next : Bool := false
  output : Bool := false
  inputs : List InputSpec := []
deriving DecidableEq, Repr

/-! ## Refusals -/

/-- Why an edit is refused. -/
inductive EditError
  /-- The block is not live. -/
  | unknownBlock (block : BlockId)
  /-- The connection is not live. -/
  | unknownConnection (connection : ConnectionId)
  /-- The two connections are not of kinds that fit. -/
  | incompatible (parent : ConnectionId) (parentKind : ConnectionKind)
      (child : ConnectionId) (childKind : ConnectionKind)
  /-- Something hangs from the parent connection already. -/
  | occupied (connection : ConnectionId)
  /-- The lower block hangs from something already. -/
  | alreadyAttached (block : BlockId)
  /-- The lower block would hang from itself or from something below it. -/
  | cycle (parent child : BlockId)
  /-- There is no link to break. -/
  | notConnected (connection : ConnectionId)
  /-- Another block carries the label. -/
  | duplicateLabel (label : String)
  /-- The block carries a label already. -/
  | alreadyLabelled (block : BlockId) (label : String)
deriving DecidableEq, Repr

/-- The message of a refusal. -/
def EditError.message : EditError → String
  | .unknownBlock b => s!"Unknown block: {b.text}"
  | .unknownConnection c => s!"Unknown connection: {c.text}"
  | .incompatible p pk c ck => s!"Cannot connect {c.text} ({ck.name}) to {p.text} ({pk.name})"
  | .occupied c => s!"Connection {c.text} is already connected"
  | .alreadyAttached b => s!"Block {b.text} is already attached to a parent"
  | .cycle p c => s!"Connecting {c.text} under {p.text} would create a cycle"
  | .notConnected c => s!"Connection {c.text} is not connected"
  | .duplicateLabel l => s!"Label `{l}` is already in use"
  | .alreadyLabelled b l => s!"Block {b.text} is already labelled `{l}`"

namespace Workspace

/-! ## Inserting -/

/-- A new, unlinked connection. -/
def addConnection (ws : Workspace) (block : BlockId) (role : Role) : ConnectionId × Workspace :=
  (⟨ws.connections.size⟩, { ws with connections := ws.connections.push ⟨block, role, none⟩ })

/-- A new connection if it is wanted. -/
def addConnectionIf (ws : Workspace) (wanted : Bool) (block : BlockId) (role : Role) :
    Option ConnectionId × Workspace :=
  if wanted then
    let (c, ws) := ws.addConnection block role
    (some c, ws)
  else (none, ws)

/-- The fields of a row, numbered in order. -/
def addFields (ws : Workspace) (input : InputId) : List FieldSpec → List FieldId × Workspace
  | [] => ([], ws)
  | spec :: rest =>
    let f : FieldId := ⟨ws.fields.size⟩
    let ws := { ws with fields := ws.fields.push ⟨input, spec.name, spec.editable⟩ }
    let (row, ws) := ws.addFields input rest
    (f :: row, ws)

/-- A new input with its socket and its row. -/
def addInput (ws : Workspace) (block : BlockId) (spec : InputSpec) : InputId × Workspace :=
  let i : InputId := ⟨ws.inputs.size⟩
  let (socket, ws) := ws.addConnectionIf spec.kind.hasSocket block (.socket i)
  let (row, ws) := ws.addFields i spec.fields
  (i, { ws with inputs := ws.inputs.push ⟨block, spec.name, spec.kind, row, socket⟩ })

/-- The inputs of a block, numbered in order. -/
def addInputs (ws : Workspace) (block : BlockId) : List InputSpec → List InputId × Workspace
  | [] => ([], ws)
  | spec :: rest =>
    let (i, ws) := ws.addInput block spec
    let (inputs, ws) := ws.addInputs block rest
    (i :: inputs, ws)

/-- Puts a new block on the workspace, as the last stack.  Its connections are numbered previous,
next, output, and then the sockets in the order of the inputs. -/
def insert (ws : Workspace) (spec : BlockSpec) : BlockId × Workspace :=
  let b : BlockId := ⟨ws.blocks.size⟩
  let (previous, ws) := ws.addConnectionIf spec.previous b .previous
  let (next, ws) := ws.addConnectionIf spec.next b .next
  let (output, ws) := ws.addConnectionIf spec.output b .output
  let (inputs, ws) := ws.addInputs b spec.inputs
  (b, { ws with
    blocks := ws.blocks.push ⟨spec.kind, previous, next, output, inputs⟩
    tops := ws.tops ++ [b] })

/-! ## Labelling -/

/-- Gives a live block a label that no other block carries.  A block keeps its first label. -/
def setLabel (ws : Workspace) (b : BlockId) (label : String) : Except EditError Workspace :=
  if !ws.hasBlock b then .error (.unknownBlock b)
  else if (ws.labelled? label).isSome then .error (.duplicateLabel label)
  else
    match ws.labelOf? b with
    | some existing => .error (.alreadyLabelled b existing)
    | none => .ok { ws with labels := ws.labels ++ [(label, b)] }

/-! ## Linking -/

/-- Whether two connections are of kinds that fit: next to previous, a statement socket to previous,
or a value socket to output. -/
def fits (ws : Workspace) (parent child : Connection) : Bool :=
  match parent.role, child.role with
  | .next, .previous => true
  | .socket i, .previous => ws.inputKind? i == some .statement
  | .socket i, .output => ws.inputKind? i == some .value
  | _, _ => false

/-- Sets one end of a link. -/
def setTarget (ws : Workspace) (c : ConnectionId) (target : Option ConnectionId) : Workspace :=
  { ws with connections := ws.connections.modify c.index fun x => { x with target } }

/-- Links two connections both ways, so that the block `b` is no longer the top of a stack. -/
def link (ws : Workspace) (parent child : ConnectionId) (b : BlockId) : Workspace :=
  let ws := (ws.setTarget parent (some child)).setTarget child (some parent)
  { ws with tops := ws.tops.filter (· != b) }

/-- Hangs the block of `child` from the connection `parent`. -/
def connect (ws : Workspace) (parent child : ConnectionId) : Except EditError Workspace :=
  match ws.connection? parent with
  | none => .error (.unknownConnection parent)
  | some p =>
    match ws.connection? child with
    | none => .error (.unknownConnection child)
    | some c =>
      if !ws.fits p c then .error (.incompatible parent p.role.kind child c.role.kind)
      else if p.target.isSome then .error (.occupied parent)
      else if (ws.parent? c.block).isSome then .error (.alreadyAttached c.block)
      else if ws.root? p.block = some c.block then .error (.cycle p.block c.block)
      else .ok (ws.link parent child c.block)

/-- Of the two ends of a link, the one that belongs to the lower block. -/
def lowerEnd (c : ConnectionId) (role : Role) (target : ConnectionId) : ConnectionId :=
  match role with
  | .previous | .output => c
  | .next | .socket _ => target

/-- Breaks the link at a connection, named from either end.  The lower block becomes the last
stack. -/
def disconnect (ws : Workspace) (c : ConnectionId) : Except EditError Workspace :=
  match ws.connection? c with
  | none => .error (.unknownConnection c)
  | some x =>
    match x.target with
    | none => .error (.notConnected c)
    | some target =>
      let child := lowerEnd c x.role target
      match ws.owner? child with
      | none => .error (.unknownConnection child)
      | some b =>
        let ws := (ws.setTarget c none).setTarget target none
        .ok { ws with tops := ws.tops ++ [b] }

/-! ## Disposing -/

/-- The workspace without the given blocks and without their inputs, connections, fields, labels
and places among the tops. -/
def without (ws : Workspace) (gone : List BlockId) : Workspace where
  blocks := ws.blocks.keep fun n _ => !gone.contains ⟨n⟩
  inputs := ws.inputs.keep fun _ i => !gone.contains i.block
  connections := ws.connections.keep fun _ c => !gone.contains c.block
  fields := ws.fields.keep fun _ f =>
    match ws.inputBlock? f.input with
    | some b => !gone.contains b
    | none => true
  tops := ws.tops.filter fun b => !gone.contains b
  labels := ws.labels.filter fun entry => !gone.contains entry.2

/-- Breaks the link at a connection if there is one. -/
def release (ws : Workspace) (c : ConnectionId) : Except EditError Workspace :=
  if (ws.target? c).isSome then ws.disconnect c else .ok ws

/-- Removes a block with everything below it, after taking it off what it hangs from. -/
def dispose (ws : Workspace) (b : BlockId) : Except EditError Workspace :=
  if !ws.hasBlock b then .error (.unknownBlock b)
  else do
    let ws ← ((ws.previous? b).toList ++ (ws.output? b).toList).foldlM release ws
    return ws.without (ws.subtree b)

end Workspace

end BlockCursor
