import BlockCursor.Layout.Build
import Mathlib.Tactic.Common

/-!
# Valid layouts

A layout says of every block which connections it has, and by listing blocks together or in an input
which links are to be made.  It is valid if the connections that those links need are there, and if
no label is given twice.

* `BlockLayout.Valid`, `InputLayout.Valid` — nothing in a block or an input is wrong.
* `BlockLayout.labels` and its like — the labels in document order.
* `WorkspaceLayout.Valid` — nothing in a whole layout is wrong.
* `LayoutError.BlamesLayout` — the failures that a layout can be to blame for.
-/

namespace BlockCursor

/-! ## Links -/

/-- Blocks that are listed together can hang from one another. -/
def Chained (blocks : List BlockLayout) : Prop :=
  (∀ a ∈ blocks.dropLast, a.next = true) ∧ ∀ b ∈ blocks.tail, b.previous = true

/-- An input of a kind can hold a chain of blocks: a dummy none, a value input one that has an
output, and a statement input any chain that can hang by its first block. -/
def InputKind.CanHold : InputKind → List BlockLayout → Prop
  | .dummy, blocks => blocks = []
  | .value, blocks => blocks.length ≤ 1 ∧ ∀ b ∈ blocks, b.output = true
  | .statement, blocks => ∀ b ∈ blocks.head?, b.previous = true

mutual

/-- All that the inputs of a block hold can be there. -/
inductive BlockLayout.Valid : BlockLayout → Prop
  | intro {l : BlockLayout} : (∀ i ∈ l.inputs, i.Valid) → l.Valid

/-- All that an input holds can be there. -/
inductive InputLayout.Valid : InputLayout → Prop
  | intro {i : InputLayout} : Chained i.blocks → i.kind.CanHold i.blocks →
      (∀ l ∈ i.blocks, l.Valid) → i.Valid

end

@[simp] lemma BlockLayout.valid_mk {label : Option String} {kind : String}
    {previous next output : Bool} {inputs : List InputLayout} :
    (⟨label, kind, previous, next, output, inputs⟩ : BlockLayout).Valid ↔ ∀ i ∈ inputs, i.Valid :=
  ⟨fun ⟨h⟩ => h, fun h => .intro h⟩

@[simp] lemma InputLayout.valid_mk {name : String} {kind : InputKind} {fields : List FieldSpec}
    {blocks : List BlockLayout} : (⟨name, kind, fields, blocks⟩ : InputLayout).Valid ↔
      Chained blocks ∧ kind.CanHold blocks ∧ ∀ l ∈ blocks, l.Valid :=
  ⟨fun ⟨hchain, hhold, hblocks⟩ => ⟨hchain, hhold, hblocks⟩,
    fun ⟨hchain, hhold, hblocks⟩ => .intro hchain hhold hblocks⟩

lemma chained_singleton (a : BlockLayout) : Chained [a] := by
  simp [Chained]

lemma chained_cons_cons {a b : BlockLayout} {rest : List BlockLayout} :
    Chained (a :: b :: rest) ↔ a.next = true ∧ b.previous = true ∧ Chained (b :: rest) := by
  simp only [Chained, List.dropLast_cons_cons, List.tail_cons, List.forall_mem_cons]
  tauto

/-- An input without blocks holds what it can hold. -/
lemma InputKind.canHold_nil (kind : InputKind) : kind.CanHold [] := by
  cases kind <;> simp [CanHold]

/-! ## Labels and sizes -/

mutual

/-- The labels of a block and of all that it holds, in document order. -/
def BlockLayout.labels : BlockLayout → List String
  | ⟨label, _, _, _, _, inputs⟩ => label.toList ++ heldLabels inputs

/-- The labels of all that a row of inputs holds. -/
def heldLabels : List InputLayout → List String
  | [] => []
  | ⟨_, _, _, blocks⟩ :: rest => chainLabels blocks ++ heldLabels rest

/-- The labels of a chain of blocks and of all that they hold. -/
def chainLabels : List BlockLayout → List String
  | [] => []
  | l :: rest => l.labels ++ chainLabels rest

end

mutual

/-- The number of blocks that a block makes with all that it holds. -/
def BlockLayout.size : BlockLayout → Nat
  | ⟨_, _, _, _, _, inputs⟩ => 1 + heldSize inputs

/-- The number of blocks that a row of inputs holds. -/
def heldSize : List InputLayout → Nat
  | [] => 0
  | ⟨_, _, _, blocks⟩ :: rest => chainSize blocks + heldSize rest

/-- The number of blocks in a chain and all that they hold. -/
def chainSize : List BlockLayout → Nat
  | [] => 0
  | l :: rest => l.size + chainSize rest

end

/-- The number of blocks in a list of stacks and all that they hold. -/
def stacksSize : List StackLayout → Nat
  | [] => 0
  | s :: rest => chainSize s.blocks + stacksSize rest

lemma BlockLayout.size_eq (l : BlockLayout) : l.size = 1 + heldSize l.inputs := by
  cases l
  rfl

/-! ## Whole layouts -/

namespace WorkspaceLayout

/-- All labels of a layout, in document order. -/
def labels (layout : WorkspaceLayout) : List String :=
  layout.stackLayouts.flatMap fun s => chainLabels s.blocks

/-- No label is given twice, and all blocks can be where they are put. -/
structure Valid (layout : WorkspaceLayout) : Prop where
  labels_nodup : layout.labels.Nodup
  chained : ∀ s ∈ layout.stackLayouts, Chained s.blocks
  blocks : ∀ s ∈ layout.stackLayouts, ∀ l ∈ s.blocks, l.Valid

end WorkspaceLayout

/-- The failures that a layout can be to blame for: a label that is given twice, or a place where a
block cannot be.  The other refusals of edits are not among them. -/
def LayoutError.BlamesLayout : LayoutError → Prop
  | .edit (.duplicateLabel _) => True
  | .edit _ => False
  | .noNext _ _ | .noPrevious _ | .noSocket _ _ | .notSingle _ _ | .noPlug _ _ _ => True

end BlockCursor
