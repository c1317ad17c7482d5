import BlockCursor.Arena
import BlockCursor.Workspace.Kind

/-!
# Workspaces

A workspace holds blocks.  A block has up to three connections of its own — previous at its top,
next at its bottom, output at its side — and a list of inputs; an input has a row of fields and,
unless it is a dummy, a socket.  Connections are linked in pairs, a lower block to what it hangs
from, and blocks that hang from nothing are the tops of the workspace's stacks.

* `Workspace` — four arenas, the tops in order, and the labels of blocks.
* The queries answer `none` or the empty list for objects that are gone.
* `Workspace.parent?`, `Workspace.root?` — upward through the links.
* `Workspace.children`, `Workspace.subtree` — downward through the links.
-/

namespace BlockCursor

/-- A block: what it was made as, and its parts. -/
structure Block where
  kind : String
  previous : Option ConnectionId
  next : Option ConnectionId
  output : Option ConnectionId
  inputs : List InputId
deriving DecidableEq, Repr

/-- An input of a block, with its row of fields and its socket. -/
structure Input where
  block : BlockId
  name : String
  kind : InputKind
  fields : List FieldId
  socket : Option ConnectionId
deriving DecidableEq, Repr

/-- A connection of a block, and the connection it is linked to. -/
structure Connection where
  block : BlockId
  role : Role
  target : Option ConnectionId
deriving DecidableEq, Repr

/-- A field in the row of an input. -/
structure Field where
  input : InputId
  name : String
  editable : Bool
deriving DecidableEq, Repr

/-- A workspace and everything on it. -/
structure Workspace where
  blocks : Arena Block := {}
  inputs : Arena Input := {}
  connections : Arena Connection := {}
  fields : Arena Field := {}
  /-- The top blocks of the stacks, in order. -/
  tops : List BlockId := []
  /-- The labels in use, each with its block. -/
  labels : List (String × BlockId) := []
deriving Repr

namespace Workspace

/-- The workspace without any block. -/
def empty : Workspace := {}

variable (ws : Workspace)

/-! ## The objects -/

/-- The block with an id, unless it is gone. -/
def block? (b : BlockId) : Option Block := ws.blocks.get? b.index

/-- The input with an id, unless it is gone. -/
def input? (i : InputId) : Option Input := ws.inputs.get? i.index

/-- The connection with an id, unless it is gone. -/
def connection? (c : ConnectionId) : Option Connection := ws.connections.get? c.index

/-- The field with an id, unless it is gone. -/
def field? (f : FieldId) : Option Field := ws.fields.get? f.index

/-- Whether a block is live. -/
def hasBlock (b : BlockId) : Bool := (ws.block? b).isSome

/-- Whether an input is live. -/
def hasInput (i : InputId) : Bool := (ws.input? i).isSome

/-- Whether a connection is live. -/
def hasConnection (c : ConnectionId) : Bool := (ws.connection? c).isSome

/-- Whether a field is live. -/
def hasField (f : FieldId) : Bool := (ws.field? f).isSome

/-! ## The parts of a block -/

/-- The kind a block was made as. -/
def blockKind? (b : BlockId) : Option String := (ws.block? b).map Block.kind

/-- The previous connection of a block. -/
def previous? (b : BlockId) : Option ConnectionId := (ws.block? b).bind Block.previous

/-- The next connection of a block. -/
def next? (b : BlockId) : Option ConnectionId := (ws.block? b).bind Block.next

/-- The output connection of a block. -/
def output? (b : BlockId) : Option ConnectionId := (ws.block? b).bind Block.output

/-- The inputs of a block, in display order. -/
def inputsOf (b : BlockId) : List InputId := ((ws.block? b).map Block.inputs).getD []

/-- The block that an input belongs to. -/
def inputBlock? (i : InputId) : Option BlockId := (ws.input? i).map Input.block

/-- The name of an input. -/
def inputName? (i : InputId) : Option String := (ws.input? i).map Input.name

/-- The kind of an input. -/
def inputKind? (i : InputId) : Option InputKind := (ws.input? i).map Input.kind

/-- The row of fields of an input, in display order. -/
def fieldsOf (i : InputId) : List FieldId := ((ws.input? i).map Input.fields).getD []

/-- The socket of an input. -/
def socket? (i : InputId) : Option ConnectionId := (ws.input? i).bind Input.socket

/-- The input that a field belongs to. -/
def fieldInput? (f : FieldId) : Option InputId := (ws.field? f).map Field.input

/-- The name of a field. -/
def fieldName? (f : FieldId) : Option String := (ws.field? f).map Field.name

/-- Whether a field is live and editable. -/
def isEditable (f : FieldId) : Bool := ((ws.field? f).map Field.editable).getD false

/-- The first input of a block with a given name. -/
def inputNamed? (b : BlockId) (name : String) : Option InputId :=
  (ws.inputsOf b).find? fun i => ws.inputName? i == some name

/-- The first field of an input with a given name. -/
def fieldNamed? (i : InputId) (name : String) : Option FieldId :=
  (ws.fieldsOf i).find? fun f => ws.fieldName? f == some name

/-! ## Labels -/

/-- The block that carries a label. -/
def labelled? (label : String) : Option BlockId :=
  (ws.labels.find? fun entry => entry.1 == label).map Prod.snd

/-- The label that a block carries. -/
def labelOf? (b : BlockId) : Option String :=
  (ws.labels.find? fun entry => entry.2 == b).map Prod.fst

/-! ## Connections and links -/

/-- The block that a connection belongs to. -/
def owner? (c : ConnectionId) : Option BlockId := (ws.connection? c).map Connection.block

/-- The kind of a connection. -/
def kind? (c : ConnectionId) : Option ConnectionKind :=
  (ws.connection? c).map fun x => x.role.kind

/-- The input that a socket sits in; other connections sit in none. -/
def parentInput? (c : ConnectionId) : Option InputId :=
  (ws.connection? c).bind fun x => x.role.input?

/-- The connection that a connection is linked to. -/
def target? (c : ConnectionId) : Option ConnectionId := (ws.connection? c).bind Connection.target

/-- The block on the other side of a link. -/
def targetBlock? (c : ConnectionId) : Option BlockId := (ws.target? c).bind ws.owner?

/-! ## Upward -/

/-- The block that a block hangs from, by its previous or else by its output connection. -/
def parent? (b : BlockId) : Option BlockId :=
  ((ws.previous? b).bind ws.targetBlock?).or ((ws.output? b).bind ws.targetBlock?)

/-- Goes up by `up` until it leads no further, at most `bound` times. -/
def climb (up : BlockId → Option BlockId) : (bound : Nat) → BlockId → BlockId
  | 0, b => b
  | bound + 1, b =>
    match up b with
    | none => b
    | some above => climb up bound above

/-- The top of the tree that a live block is in.  There are fewer steps to it than slots for
blocks. -/
def root? (b : BlockId) : Option BlockId :=
  if ws.hasBlock b then some (climb ws.parent? ws.blocks.size b) else none

/-! ## Downward -/

/-- The connections of a block where others can hang: its sockets in display order, then next. -/
def downward (b : BlockId) : List ConnectionId :=
  (ws.inputsOf b).filterMap ws.socket? ++ (ws.next? b).toList

/-- The blocks that hang from a block, in the same order. -/
def children (b : BlockId) : List BlockId :=
  (ws.downward b).filterMap ws.targetBlock?

/-- A block and what hangs below it, at most `bound` levels deep: a block stands before what its
inputs hold, and that before the block that follows it. -/
def subtreeWithin : (bound : Nat) → BlockId → List BlockId
  | 0, _ => []
  | bound + 1, b => b :: (ws.children b).flatMap (subtreeWithin bound)

/-- A block and everything below it.  There are no more levels than slots for blocks. -/
def subtree (b : BlockId) : List BlockId :=
  ws.subtreeWithin ws.blocks.size b

end Workspace

end BlockCursor
