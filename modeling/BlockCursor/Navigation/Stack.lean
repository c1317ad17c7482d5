import BlockCursor.Navigation.Node

/-!
# Stacks and chains

A chain is a row of blocks that hang from each other's next connections.  At its top it hangs from
a statement socket, or by its top block's output from a value socket, or from nothing: then it is a
stack of the workspace.

* `topConnection?`, `topNode?` — where a block begins.
* `chainTop` — the top block of the chain that a block is in.
* `outOfChain?` — where a chain leads out to.
* `stackBeside?` — the stack after or before the one a node is in.
-/

namespace BlockCursor

namespace Workspace

variable (ws : Workspace)

/-- The connection at the top of a block: its previous connection, else its output. -/
def topConnection? (b : BlockId) : Option ConnectionId :=
  (ws.previous? b).or (ws.output? b)

/-- The node at the top of a block. -/
def topNode? (b : BlockId) : Option Node :=
  ((ws.previous? b).map Node.previous).or ((ws.output? b).map Node.output)

/-- The connection that the previous connection of a block is linked to. -/
def hangsFrom? (b : BlockId) : Option ConnectionId :=
  (ws.previous? b).bind ws.target?

/-- The block just above in the same chain.  A link into a socket does not lead to one. -/
def above? (b : BlockId) : Option BlockId :=
  ((ws.hangsFrom? b).filter fun c => (ws.parentInput? c).isNone).bind ws.owner?

/-- The top block of the chain that a block is in.  There are fewer steps to it than slots for
blocks. -/
def chainTop (b : BlockId) : BlockId :=
  climb ws.above? ws.blocks.size b

/-- Where the chain of a block leads out to: the connection it hangs from, as a `next` node, or the
stack that it is. -/
def outOfChain (b : BlockId) : Node :=
  let top := ws.chainTop b
  match ws.hangsFrom? top with
  | some c => .next c
  | none => .stack top

/-- Where the chain around a block or connection leads out to. -/
def outOfChain? : Reference → Option Node
  | .block b => ((Reference.block b).block? ws).map ws.outOfChain
  | .connection c => (ws.owner? c).map ws.outOfChain
  | .point _ | .field _ => none

end Workspace

/-- The entry after (or before) position `i` of a ring, which goes on at its other end. -/
def ringBeside (ring : List BlockId) (i : Nat) (forward : Bool) : Option BlockId :=
  let n := ring.length
  ring[(if forward then i + 1 else i + n - 1) % n]?

/-- The stack after (or before) the one that a node is in, in a ring of stacks.  A node in no live
block is in no stack. -/
def stackBeside? (ws : Workspace) (ring : List BlockId) (n : Node) (forward : Bool) :
    Except CursorError (Option Node) :=
  match (n.block? ws).bind ws.root? with
  | none => .ok none
  | some root =>
    match ring.idxOf? root with
    | none => .error (.stackNotFound root)
    | some i => .ok ((ringBeside ring i forward).map Node.stack)

end BlockCursor
