import BlockCursor.Point
import BlockCursor.Workspace.Basic

/-!
# Nodes

A node is a place where a cursor can sit.  There are eight kinds of nodes, and each kind refers to a
point, a block, a connection or a field.  Nodes are plain values: one whose object has been removed
from the workspace is stale, which `Node.isLive` tells.

* `Node` — the kind and the reference in one; the constructor fixes what is referred to.
* `NodeKind`, `Reference` — the two halves of a node.
* `Node.of` — a node from its halves, refused when they do not belong together.
-/

namespace BlockCursor

/-- The kinds of nodes. -/
inductive NodeKind
  | workspace
  | stack
  | block
  | input
  | field
  | output
  | previous
  | next
deriving DecidableEq, Repr, Inhabited

namespace NodeKind

/-- All kinds. -/
def all : List NodeKind := [.workspace, .stack, .block, .input, .field, .output, .previous, .next]

/-- The word for a kind. -/
def name : NodeKind → String
  | .workspace => "workspace"
  | .stack => "stack"
  | .block => "block"
  | .input => "input"
  | .field => "field"
  | .output => "output"
  | .previous => "previous"
  | .next => "next"

/-- The kind that a word stands for. -/
def ofName? (word : String) : Option NodeKind :=
  all.find? fun k => k.name == word

theorem ofName?_name (k : NodeKind) : ofName? k.name = some k := by
  cases k <;> decide

end NodeKind

/-- What a node refers to. -/
inductive Reference
  | point (point : Point)
  | block (block : BlockId)
  | connection (connection : ConnectionId)
  | field (field : FieldId)
deriving Repr

/-- The text of a reference, with the sort of object in front. -/
def Reference.text : Reference → String
  | .point p => s!"coordinate {p.text}"
  | .block b => s!"block {b.text}"
  | .connection c => s!"connection {c.text}"
  | .field f => s!"field {f.text}"

/-- A place where a cursor can sit. -/
inductive Node
  /-- A point on the surface of the workspace. -/
  | workspace (point : Point)
  /-- A whole stack, named by its top block. -/
  | stack (block : BlockId)
  | block (block : BlockId)
  /-- A socket. -/
  | input (connection : ConnectionId)
  | field (field : FieldId)
  | output (connection : ConnectionId)
  | previous (connection : ConnectionId)
  /-- A next connection, or the statement socket that a chain of blocks hangs from. -/
  | next (connection : ConnectionId)
deriving Repr, Inhabited

/-- Why a cursor operation fails.  The edge of the tree is no failure. -/
inductive CursorError
  /-- The top of a stack is not in the list of stacks, so that list does not fit the tree. -/
  | stackNotFound (root : BlockId)
  /-- Nodes of the kind do not refer to such objects. -/
  | mismatched (kind : NodeKind) (reference : Reference)
deriving Repr

/-- The message of a failure. -/
def CursorError.message : CursorError → String
  | .stackNotFound root =>
    s!"Stack root {root.text} is not among the workspace's top-level blocks"
  | .mismatched kind reference => s!"A {kind.name} node cannot wrap {reference.text}"

namespace Node

/-- The kind of a node. -/
def kind : Node → NodeKind
  | .workspace _ => .workspace
  | .stack _ => .stack
  | .block _ => .block
  | .input _ => .input
  | .field _ => .field
  | .output _ => .output
  | .previous _ => .previous
  | .next _ => .next

/-- What a node refers to. -/
def reference : Node → Reference
  | .workspace p => .point p
  | .stack b | .block b => .block b
  | .field f => .field f
  | .input c | .output c | .previous c | .next c => .connection c

/-- The node of a kind that refers to an object. -/
def of : NodeKind → Reference → Except CursorError Node
  | .workspace, .point p => .ok (.workspace p)
  | .stack, .block b => .ok (.stack b)
  | .block, .block b => .ok (.block b)
  | .input, .connection c => .ok (.input c)
  | .field, .field f => .ok (.field f)
  | .output, .connection c => .ok (.output c)
  | .previous, .connection c => .ok (.previous c)
  | .next, .connection c => .ok (.next c)
  | kind, reference => .error (.mismatched kind reference)

theorem of_kind_reference (n : Node) : of n.kind n.reference = .ok n := by
  cases n <;> rfl

/-- The text of a node: its kind and its reference. -/
def text : Node → String
  | .workspace p => s!"workspace{p.text}"
  | .stack b => s!"stack({b.text})"
  | .block b => s!"block({b.text})"
  | .field f => s!"field({f.text})"
  | .input c => s!"input({c.text})"
  | .output c => s!"output({c.text})"
  | .previous c => s!"previous({c.text})"
  | .next c => s!"next({c.text})"

/-- The node for a connection of a kind. -/
def ofConnectionKind (c : ConnectionId) : ConnectionKind → Node
  | .previous => .previous c
  | .next => .next c
  | .output => .output c
  | .input => .input c

/-- The node for a connection, by the connection's own kind. -/
def forConnection? (ws : Workspace) (c : ConnectionId) : Option Node :=
  (ws.kind? c).map (ofConnectionKind c)

/-- Whether what a node refers to is still there.  Points always are. -/
def isLive (ws : Workspace) : Node → Bool
  | .workspace _ => true
  | .stack b | .block b => ws.hasBlock b
  | .field f => ws.hasField f
  | .input c | .output c | .previous c | .next c => ws.hasConnection c

end Node

/-- The block that a referred object belongs to: the block itself, the block of the connection, or
the block of the field's input. -/
def Reference.block? (ws : Workspace) : Reference → Option BlockId
  | .point _ => none
  | .block b => if ws.hasBlock b then some b else none
  | .connection c => ws.owner? c
  | .field f => (ws.fieldInput? f).bind ws.inputBlock?

/-- The block that a node belongs to.  Points belong to none. -/
def Node.block? (ws : Workspace) (n : Node) : Option BlockId :=
  n.reference.block? ws

end BlockCursor
