import BlockCursor.Move
import BlockCursor.Navigation.Row
import BlockCursor.Navigation.Stack

/-!
# The four moves from each kind of node

| from | next | prev | in | out |
|---|---|---|---|---|
| workspace | shift right | shift left | first stack | - |
| stack | following stack | preceding stack | top of its top block | - |
| output | its block | previous of its block | - | socket it plugs into, else stack |
| previous | output of its block, else the block | next of the block above | - | out of the chain |
| next | top of the block below | its block | - | out of the chain |
| block | its next | its output, else its previous | first stop of its first input | see below |
| field | next stop | previous stop | - | its block |
| input | next stop | previous stop | top of the block it holds | its block |

Out of a block that has an output leads to the socket it plugs into, else to the output itself; out
of any other block leads out of its chain.  A dash, a missing connection and a stale node all mean
that the cursor stays where it is.

* `Navigator` — a workspace together with the list of stacks that a host offers for it.
* `Navigator.navigate` — one move.
-/

namespace BlockCursor

/-- What moves are made on: a workspace, the ring of its stacks as its host lists them, and how
far points are moved. -/
structure Navigator where
  workspace : Workspace
  ring : List BlockId
  step : Float := 10

namespace Navigator

/-- The navigator of a workspace that lists its own stacks. -/
def ofWorkspace (ws : Workspace) (step : Float := 10) : Navigator :=
  { workspace := ws, ring := ws.tops, step }

variable (nav : Navigator)

/-- The node after a live node. -/
def nextOf (n : Node) : Except CursorError (Option Node) :=
  let ws := nav.workspace
  match n with
  | .workspace p => .ok (some (.workspace (p.offset nav.step 0)))
  | .stack _ => stackBeside? ws nav.ring n true
  | .output c => .ok ((ws.owner? c).map Node.block)
  | .previous c =>
    .ok ((ws.owner? c).map fun b => ((ws.output? b).map Node.output).getD (.block b))
  | .next c => .ok ((ws.targetBlock? c).bind ws.topNode?)
  | .block b => .ok ((ws.next? b).map Node.next)
  | .field f => .ok (ws.afterField? f)
  | .input c => .ok (ws.afterSocket? c)

/-- The node before a live node. -/
def prevOf (n : Node) : Except CursorError (Option Node) :=
  let ws := nav.workspace
  match n with
  | .workspace p => .ok (some (.workspace (p.offset (-nav.step) 0)))
  | .stack _ => stackBeside? ws nav.ring n false
  | .output c => .ok (((ws.owner? c).bind ws.previous?).map Node.previous)
  | .previous c => .ok (((ws.targetBlock? c).bind ws.next?).map Node.next)
  | .next c => .ok ((ws.owner? c).map Node.block)
  | .block b =>
    .ok (((ws.output? b).map Node.output).or ((ws.previous? b).map Node.previous))
  | .field f => .ok (ws.beforeField? f)
  | .input c => .ok (ws.beforeSocket? c)

/-- The node inside a live node. -/
def inOf (n : Node) : Option Node :=
  let ws := nav.workspace
  match n with
  | .workspace _ => nav.ring.head?.map Node.stack
  | .stack b => ws.topNode? b
  | .block b => (ws.inputsOf b).head?.bind ws.enterForward?
  | .input c => (ws.targetBlock? c).bind ws.topNode?
  | .field _ | .output _ | .previous _ | .next _ => none

/-- The node around a live node. -/
def outOf (n : Node) : Option Node :=
  let ws := nav.workspace
  match n with
  | .workspace _ | .stack _ => none
  | .output c =>
    match ws.target? c with
    | some socket => some (.input socket)
    | none => ((ws.owner? c).bind ws.root?).map Node.stack
  | .previous c | .next c => ws.outOfChain? (.connection c)
  | .block b =>
    match ws.output? b with
    | some output => some (((ws.target? output).map Node.input).getD (.output output))
    | none => ws.outOfChain? (.block b)
  | .field f => (Node.block? ws (.field f)).map Node.block
  | .input c => (ws.owner? c).map Node.block

/-- One move from a node; `none` at the edge of the tree and from a stale node. -/
def navigate (n : Node) (m : Move) : Except CursorError (Option Node) :=
  if n.isLive nav.workspace then
    match m with
    | .next => nav.nextOf n
    | .prev => nav.prevOf n
    | .into => .ok (nav.inOf n)
    | .out => .ok (nav.outOf n)
  else .ok none

end Navigator

end BlockCursor
