import BlockCursor.Proofs.Workspace.Nesting
import BlockCursor.Workspace.Outline

/-!
# Writing an outline

An outline is written by two procedures that call each other, one for a chain of blocks and one for
the inputs of a block.  Nothing in them counts how often they do so; it is the forest that makes
them come to an end.  `Writes` says what they write, with no bound, and `outlineEntries` agrees with
it because a block is never deeper down than there are slots for blocks.

* `OutlineTask` — what there is to write.
* `Workspace.Writes` — a task is done in the end, and these are the lines that it leaves.
* `Writes.unique` — a task has at most one outcome.
* **`Forest.writes_chainEntries`** — the bound is enough, by how far down the block is already.
* **`Forest.writes_iff`** — writing the stacks ends, and with the entries of the outline.
-/

namespace BlockCursor

/-- What there is to write of an outline. -/
inductive OutlineTask
  /-- The stacks with these tops, numbered from here on. -/
  | stacks (number : ℕ) (tops : List BlockId)
  /-- The chain that begins with a block, if there is one. -/
  | chain (indent : ℕ) (first : Option BlockId)
  /-- The last inputs of a block that stands this far in. -/
  | row (indent : ℕ) (inputs : List InputId)

namespace Workspace

/-- A task is done in finitely many steps, and leaves these lines. -/
inductive Writes (ws : Workspace) : OutlineTask → List OutlineEntry → Prop
  | noStacks {number : ℕ} : Writes ws (.stacks number []) []
  | stack {number : ℕ} {top : BlockId} {tops : List BlockId} {lines rest : List OutlineEntry} :
      Writes ws (.chain 1 (some top)) lines → Writes ws (.stacks (number + 1) tops) rest →
      Writes ws (.stacks number (top :: tops)) (.stack number :: (lines ++ rest))
  | ended {indent : ℕ} : Writes ws (.chain indent none) []
  | block {indent : ℕ} {b : BlockId} {held rest : List OutlineEntry} :
      Writes ws (.row indent (ws.inputsOf b)) held →
      Writes ws (.chain indent (ws.follower? b)) rest →
      Writes ws (.chain indent (some b)) (ws.blockEntry indent b :: (held ++ rest))
  | noInputs {indent : ℕ} : Writes ws (.row indent []) []
  | input {indent : ℕ} {i : InputId} {inputs : List InputId} {held rest : List OutlineEntry} :
      Writes ws (.chain (indent + 2) (ws.held? i)) held → Writes ws (.row indent inputs) rest →
      Writes ws (.row indent (i :: inputs)) (ws.inputEntry (indent + 1) i :: (held ++ rest))

variable {ws : Workspace} {task : OutlineTask} {lines lines' : List OutlineEntry} {indent : ℕ}
  {b : BlockId}

/-- A task has at most one outcome. -/
theorem Writes.unique (h : ws.Writes task lines) (h' : ws.Writes task lines') : lines = lines' := by
  induction h generalizing lines' with
  | noStacks => cases h'; rfl
  | ended => cases h'; rfl
  | noInputs => cases h'; rfl
  | stack _ _ ih₁ ih₂ =>
      cases h' with
      | stack hlines hrest => rw [ih₁ hlines, ih₂ hrest]
  | block _ _ ih₁ ih₂ =>
      cases h' with
      | block hheld hrest => rw [ih₁ hheld, ih₂ hrest]
  | input _ _ ih₁ ih₂ =>
      cases h' with
      | input hheld hrest => rw [ih₁ hheld, ih₂ hrest]

/-! ## The bound is enough -/

section Assembling

variable {entries : BlockId → List OutlineEntry}

lemma writes_chain_of_first {first : Option BlockId}
    (h : ∀ y, first = some y → ws.Writes (.chain indent (some y)) (entries y)) :
    ws.Writes (.chain indent first) (first.toList.flatMap entries) := by
  cases first with
  | none => exact .ended
  | some y => simpa using h y rfl

lemma writes_row_of_held {inputs : List InputId} (h : ∀ i ∈ inputs, ∀ y, ws.held? i = some y →
      ws.Writes (.chain (indent + 2) (some y)) (entries y)) :
    ws.Writes (.row indent inputs) (inputs.flatMap fun i =>
      ws.inputEntry (indent + 1) i :: (ws.held? i).toList.flatMap entries) := by
  induction inputs with
  | nil => exact .noInputs
  | cons i inputs ih =>
      rw [List.flatMap_cons, List.cons_append]
      exact .input (writes_chain_of_first (h i List.mem_cons_self))
        (ih fun j hj => h j (List.mem_cons_of_mem _ hj))

lemma writes_stacks_of_tops {tops : List BlockId}
    (h : ∀ t ∈ tops, ws.Writes (.chain 1 (some t)) (entries t)) (number : ℕ) :
    ws.Writes (.stacks number tops)
      ((tops.zipIdx number).flatMap fun (t, k) => .stack k :: entries t) := by
  induction tops generalizing number with
  | nil => exact .noStacks
  | cons t tops ih =>
      rw [List.zipIdx_cons, List.flatMap_cons, List.cons_append]
      exact .stack (h t List.mem_cons_self)
        (ih (fun u hu => h u (List.mem_cons_of_mem _ hu)) (number + 1))

end Assembling

namespace Forest

variable (h : ws.Forest)
include h

/-- **The bound is enough** if it makes up for what the block is not deep down yet: what is written
below a block hangs from it, and so is one step deeper. -/
theorem writes_chainEntries (n : ℕ) (hb : ws.hasBlock b = true)
    (hn : ws.blocks.size ≤ n + ws.depth b) :
    ws.Writes (.chain indent (some b)) (ws.chainEntries n indent b) := by
  induction n generalizing b indent with
  | zero =>
      have hdeep := h.depth_lt_of_hasBlock hb
      omega
  | succ n ih =>
      have hchild : ∀ {y k}, ws.parent? y = some b →
          ws.Writes (.chain k (some y)) (ws.chainEntries n k y) := by
        intro y k hy
        have hdeeper := h.depth_of_parent hy
        exact ih (h.hasBlock_of_parent hy).1 (by omega)
      exact .block
        (writes_row_of_held fun i hi y hy => hchild (h.parent_of_held hi hy))
        (writes_chain_of_first fun y hy => hchild (h.parent_of_follower hy))

lemma writes_outlineEntries : ws.Writes (.stacks 0 ws.tops) ws.outlineEntries := by
  refine writes_stacks_of_tops (fun t ht => ?_) 0
  exact h.writes_chainEntries _ (h.hasBlock_of_mem_tops ht) (Nat.le_add_right _ _)

/-- **Writing the stacks ends**, and leaves the entries of the outline. -/
theorem writes_iff : ws.Writes (.stacks 0 ws.tops) lines ↔ lines = ws.outlineEntries := by
  constructor
  · intro hlines
    exact hlines.unique h.writes_outlineEntries
  · rintro rfl
    exact h.writes_outlineEntries

end Forest

end Workspace

end BlockCursor
