import BlockCursor.Workspace.History

/-!
# Editing in place

The edits once more, as they are made on a workspace that is kept.  Here an edit is a row of checks
and writes, each write changes the workspace at once, and a refusal takes back nothing that has been
written before it: the workspace is then whatever it has become.

* `InPlace` — a step of editing.
* `InPlace.setLabel`, `InPlace.connect`, `InPlace.disconnect`, `InPlace.dispose` — the edits that
  can be refused.
* `InPlace.edit` — any edit.
-/

namespace BlockCursor.Workspace

/-- A step of editing in place.  It goes on from a workspace or is refused, and leaves a workspace
in either case. -/
abbrev InPlace := EStateM EditError Workspace

namespace InPlace

/-- Puts a new block on the workspace. -/
def insert (spec : BlockSpec) : InPlace Unit :=
  modify fun ws => (ws.insert spec).2

/-- Gives a block a label. -/
def setLabel (b : BlockId) (label : String) : InPlace Unit := do
  let ws ← get
  if !ws.hasBlock b then throw (.unknownBlock b)
  else if (ws.labelled? label).isSome then throw (.duplicateLabel label)
  else
    match ws.labelOf? b with
    | some existing => throw (.alreadyLabelled b existing)
    | none => modify fun ws => { ws with labels := ws.labels ++ [(label, b)] }

/-- Hangs the block of `child` from the connection `parent`: sets one end of the link, then the
other, and then takes the block off the tops. -/
def connect (parent child : ConnectionId) : InPlace Unit := do
  let ws ← get
  match ws.connection? parent with
  | none => throw (.unknownConnection parent)
  | some p =>
    match ws.connection? child with
    | none => throw (.unknownConnection child)
    | some c =>
      if !ws.fits p c then throw (.incompatible parent p.role.kind child c.role.kind)
      else if p.target.isSome then throw (.occupied parent)
      else if (ws.parent? c.block).isSome then throw (.alreadyAttached c.block)
      else if ws.root? p.block = some c.block then throw (.cycle p.block c.block)
      else do
        modify fun ws => ws.setTarget parent (some child)
        modify fun ws => ws.setTarget child (some parent)
        modify fun ws => { ws with tops := ws.tops.filter (· != c.block) }

/-- Breaks the link at a connection: clears one end, then the other, and then puts the lower block
at the end of the tops. -/
def disconnect (c : ConnectionId) : InPlace Unit := do
  let ws ← get
  match ws.connection? c with
  | none => throw (.unknownConnection c)
  | some x =>
    match x.target with
    | none => throw (.notConnected c)
    | some target =>
      let child := lowerEnd c x.role target
      match ws.owner? child with
      | none => throw (.unknownConnection child)
      | some b => do
        modify fun ws => ws.setTarget c none
        modify fun ws => ws.setTarget target none
        modify fun ws => { ws with tops := ws.tops ++ [b] }

/-- Breaks the link at a connection if there is one. -/
def release (c : ConnectionId) : InPlace Unit := do
  let ws ← get
  if (ws.target? c).isSome then disconnect c else pure ()

/-- Removes a block with everything below it.  It is first taken off what it hangs from, so a
refusal there would leave it half disposed. -/
def dispose (b : BlockId) : InPlace Unit := do
  let ws ← get
  if !ws.hasBlock b then throw (.unknownBlock b)
  else do
    ((ws.previous? b).toList ++ (ws.output? b).toList).forM release
    modify fun ws => ws.without (ws.subtree b)

/-- Makes an edit in place. -/
def edit : Edit → InPlace Unit
  | .insert spec => insert spec
  | .setLabel b label => setLabel b label
  | .connect parent child => connect parent child
  | .disconnect c => disconnect c
  | .dispose b => dispose b

end InPlace

end BlockCursor.Workspace
