import BlockCursor.Workspace.Edit

/-!
# Layouts

A layout describes a workspace as nested data: stacks of blocks, where a block has inputs and an
input holds blocks again.  Blocks that are listed together form a chain, each hanging from the next
connection of the one before.

* `BlockLayout`, `InputLayout` — a block with its inputs, an input with what it holds.
* `WorkspaceLayout` — a list of stacks.
* `BlockLayout.spec` — the block by itself, without what its inputs hold.
-/

namespace BlockCursor

mutual

/-- A block of a layout. -/
structure BlockLayout where
  label : Option String := none
  kind : String
  previous : Bool := false
  next : Bool := false
  output : Bool := false
  inputs : List InputLayout := []

/-- An input of a block, with its row of fields and the blocks that it holds. -/
structure InputLayout where
  name : String
  kind : InputKind
  fields : List FieldSpec := []
  blocks : List BlockLayout := []

end

/-- A stack of a layout: a chain of blocks. -/
structure StackLayout where
  blocks : List BlockLayout := []

/-- A workspace as nested data. -/
structure WorkspaceLayout where
  stackLayouts : List StackLayout := []

/-- An input by itself. -/
def InputLayout.spec (i : InputLayout) : InputSpec :=
  ⟨i.name, i.kind, i.fields⟩

/-- A block by itself. -/
def BlockLayout.spec (b : BlockLayout) : BlockSpec :=
  ⟨b.kind, b.previous, b.next, b.output, b.inputs.map InputLayout.spec⟩

end BlockCursor
