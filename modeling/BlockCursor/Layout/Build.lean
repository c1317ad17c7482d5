import BlockCursor.Layout.Basic

/-!
# Building a workspace from a layout

Blocks are put on the workspace in document order: a block, then what its inputs hold, then the
block that follows it.  A block gets its label as soon as it is there, what an input holds is
plugged in once all of it is built, and a block is hung from the one before once it is built with
everything in it.

A layout can ask for what blocks cannot do; then building stops at the first such place.  While it
goes on, every link made is noted in the order of making, so that a failed building can still be
reported step by step.

* `LayoutError` — why a layout cannot be built.
* `Draft` — a workspace under construction, with the links made so far.
* `WorkspaceLayout.build` — the workspace that a layout describes.
-/

namespace BlockCursor

/-- Why a layout cannot be built. -/
inductive LayoutError
  /-- An edit is refused. -/
  | edit (error : EditError)
  /-- A block is followed by another but has no next connection. -/
  | noNext (above below : String)
  /-- A block follows another but has no previous connection. -/
  | noPrevious (below : String)
  /-- An input without a socket is to hold blocks. -/
  | noSocket (input owner : String)
  /-- A value input is to hold more than one block. -/
  | notSingle (input owner : String)
  /-- The first block that an input is to hold has no connection to plug in. -/
  | noPlug (block : String) (kind : InputKind) (input : String)
deriving DecidableEq, Repr

/-- The message for a layout that cannot be built. -/
def LayoutError.message : LayoutError → String
  | .edit e => e.message
  | .noNext above below =>
    s!"Invalid layout: block `{above}` is followed by `{below}` but has no next connection"
  | .noPrevious below =>
    s!"Invalid layout: block `{below}` follows another block but has no previous connection"
  | .noSocket input owner =>
    s!"Invalid layout: input `{input}` on `{owner}` has no socket to hold blocks"
  | .notSingle input owner =>
    s!"Invalid layout: value input `{input}` on `{owner}` can hold only one block"
  | .noPlug block kind input =>
    s!"Invalid layout: block `{block}` cannot plug into {kind.title} input `{input}`"

/-- A link that was made: the two connections, and the lower block. -/
structure Link where
  parent : ConnectionId
  child : ConnectionId
  block : BlockId
deriving DecidableEq, Repr

/-- A workspace under construction, and the links made so far, in order. -/
structure Draft where
  workspace : Workspace := {}
  links : Array Link := #[]
deriving Repr

/-- A step of building: it goes on from a draft, or fails and leaves the draft as it is. -/
abbrev Build := EStateM LayoutError Draft

namespace Build

/-- What a query says about the workspace under construction. -/
def ask {α : Type} (query : Workspace → α) : Build α :=
  return query (← get).workspace

/-- An answer, or a failure in its place. -/
def require {α : Type} (x : Option α) (e : LayoutError) : Build α :=
  match x with
  | some a => pure a
  | none => throw e

/-- Puts a block on the workspace. -/
def insert (spec : BlockSpec) : Build BlockId := do
  let d ← get
  let (b, ws) := d.workspace.insert spec
  set { d with workspace := ws }
  return b

/-- Gives a block its label, if it has one. -/
def label (b : BlockId) : Option String → Build Unit
  | none => pure ()
  | some l => do
    let d ← get
    match d.workspace.setLabel b l with
    | .ok ws => set { d with workspace := ws }
    | .error e => throw (.edit e)

/-- Links two connections and notes the link. -/
def link (parent child : ConnectionId) : Build Unit := do
  let d ← get
  match d.workspace.connect parent child with
  | .ok ws =>
    let b := (d.workspace.owner? child).getD default
    set (⟨ws, d.links.push ⟨parent, child, b⟩⟩ : Draft)
  | .error e => throw (.edit e)

/-- Hangs a block from the one before it in a chain. -/
def hang (above below : BlockId) (belowKind : String) : Build Unit := do
  let aboveKind := ((← ask (·.blockKind? above)).getD "")
  let next ← require (← ask (·.next? above)) (.noNext aboveKind belowKind)
  let previous ← require (← ask (·.previous? below)) (.noPrevious belowKind)
  link next previous

/-- Plugs the first block of a chain into the socket of an input. -/
def plug (socket : ConnectionId) (i : InputLayout) (first : BlockId) : Build Unit := do
  let kind := ((← ask (·.blockKind? first)).getD "")
  let connection ← match i.kind with
    | .value => ask (·.output? first)
    | _ => ask (·.previous? first)
  link socket (← require connection (.noPlug kind i.kind i.name))

mutual

/-- Builds a block with everything in it. -/
def block : BlockLayout → Build BlockId
  | ⟨l, kind, previous, next, output, inputs⟩ => do
    let b ← insert ⟨kind, previous, next, output, inputs.map InputLayout.spec⟩
    label b l
    fill kind (← ask (·.inputsOf b)) inputs
    return b

/-- Builds what the inputs of a block hold, in order. -/
def fill (owner : String) (ids : List InputId) : List InputLayout → Build Unit
  | [] => pure ()
  | ⟨name, kind, fields, blocks⟩ :: rest => do
    unless blocks.isEmpty do
      let socket ← require (← ask fun ws => ids.head?.bind ws.socket?) (.noSocket name owner)
      if kind = .value ∧ 1 < blocks.length then throw (.notSingle name owner)
      if let some first ← chain blocks then plug socket ⟨name, kind, fields, blocks⟩ first
    fill owner ids.tail rest

/-- Builds a chain of blocks and answers the first. -/
def chain : List BlockLayout → Build (Option BlockId)
  | [] => pure none
  | first :: rest => do
    let b ← block first
    below b rest
    return some b

/-- Builds the blocks of a chain that follow a block. -/
def below (above : BlockId) : List BlockLayout → Build Unit
  | [] => pure ()
  | l :: rest => do
    let b ← block l
    hang above b l.kind
    below b rest

end

/-- Builds stacks in order. -/
def everyStack : List StackLayout → Build Unit
  | [] => pure ()
  | s :: rest => do
    let _ ← chain s.blocks
    everyStack rest

end Build

namespace WorkspaceLayout

/-- Builds a layout from an empty workspace: the draft at the end, and the failure if there was
one. -/
def draft (layout : WorkspaceLayout) : Draft × Option LayoutError :=
  match Build.everyStack layout.stackLayouts {} with
  | .ok _ d => (d, none)
  | .error e d => (d, some e)

/-- The workspace that a layout describes. -/
def build (layout : WorkspaceLayout) : Except LayoutError Workspace :=
  match Build.everyStack layout.stackLayouts {} with
  | .ok _ d => .ok d.workspace
  | .error e _ => .error e

end WorkspaceLayout

end BlockCursor
