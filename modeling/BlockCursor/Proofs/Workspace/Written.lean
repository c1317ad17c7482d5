import BlockCursor.Proofs.Workspace.Writing

/-!
# What a task writes

A task of writing an outline goes down the links from the blocks that it starts with.  So it writes
just what is below these, and since nothing is below two siblings it writes none of it twice.  The
lines of inputs and fields come with those of their blocks.

* `OutlineTask.starts` — the blocks that a task starts with.
* **`Linked.mem_writtenBlocks_iff`**, **`Forest.nodup_writtenBlocks`** — the blocks that it writes.
* **`Writes.writtenInputs_perm`**, `Writes.rows_eq` — it writes the inputs of these blocks, and in
  their lines the fields.
* **`Forest.isLineOf_of_writes`** — how far in it writes them.
* **`Writes.displays`** — what stands around a block.
-/

namespace BlockCursor

namespace OutlineEntry

/-- The block that a line is about. -/
def block? : OutlineEntry → Option BlockId
  | .block _ b _ _ => some b
  | .stack _ => none
  | .input _ _ _ _ _ => none

/-- The input that a line is about. -/
def input? : OutlineEntry → Option InputId
  | .input _ i _ _ _ => some i
  | .stack _ => none
  | .block _ _ _ _ => none

/-- How far in a line stands. -/
def indent : OutlineEntry → ℕ
  | .stack _ => 0
  | .block k _ _ _ => k
  | .input k _ _ _ _ => k

/-- The fields in a line, each with its name and whether it is editable. -/
def row : OutlineEntry → List (String × Bool)
  | .input _ _ _ _ fields => fields
  | .stack _ => []
  | .block _ _ _ _ => []

end OutlineEntry

namespace OutlineTask

/-- The blocks that a task starts with. -/
def starts (ws : Workspace) : OutlineTask → List BlockId
  | .stacks _ tops => tops
  | .chain _ first => first.toList
  | .row _ inputs => inputs.filterMap ws.held?

/-- The inputs that a task writes besides those of the blocks that it writes. -/
def ownInputs : OutlineTask → List InputId
  | .stacks _ _ => []
  | .chain _ _ => []
  | .row _ inputs => inputs

/-- How far in the lines of a task stand at least. -/
def indent : OutlineTask → ℕ
  | .stacks _ _ => 0
  | .chain k _ => k
  | .row k _ => k + 1

/-- A task stands as far in as its blocks are nested. -/
def InPlace (ws : Workspace) : OutlineTask → Prop
  | .stacks _ tops => ∀ t ∈ tops, ws.parent? t = none
  | .chain k first => ∀ b, first = some b → k = 1 + 2 * ws.socketLinks b
  | .row k inputs => ∀ i ∈ inputs, ∃ b, i ∈ ws.inputsOf b ∧ k = 1 + 2 * ws.socketLinks b

end OutlineTask

namespace Workspace

/-- The blocks that lines are about, in order. -/
def writtenBlocks (lines : List OutlineEntry) : List BlockId :=
  lines.filterMap OutlineEntry.block?

/-- The inputs that lines are about, in order. -/
def writtenInputs (lines : List OutlineEntry) : List InputId :=
  lines.filterMap OutlineEntry.input?

/-- What a line shows of a field. -/
def shownField (ws : Workspace) (f : FieldId) : String × Bool :=
  ((ws.fieldName? f).getD "?", ws.isEditable f)

variable {ws : Workspace} {task task' : OutlineTask} {lines held rest : List OutlineEntry} {k : ℕ}
  {b x y : BlockId} {i : InputId} {f : FieldId} {inputs : List InputId} {e : OutlineEntry}

section Lines

@[simp] lemma indent_blockEntry : (ws.blockEntry k b).indent = k := rfl

@[simp] lemma indent_inputEntry : (ws.inputEntry k i).indent = k := rfl

@[simp] lemma row_stack : (OutlineEntry.stack k).row = [] := rfl

@[simp] lemma row_blockEntry : (ws.blockEntry k b).row = [] := rfl

@[simp] lemma row_inputEntry :
    (ws.inputEntry k i).row = (ws.fieldsOf i).map ws.shownField := rfl

@[simp] lemma writtenBlocks_nil : writtenBlocks [] = [] := rfl

@[simp] lemma writtenBlocks_stack :
    writtenBlocks (.stack k :: lines) = writtenBlocks lines := rfl

@[simp] lemma writtenBlocks_block :
    writtenBlocks (ws.blockEntry k b :: lines) = b :: writtenBlocks lines := rfl

@[simp] lemma writtenBlocks_input :
    writtenBlocks (ws.inputEntry k i :: lines) = writtenBlocks lines := rfl

@[simp] lemma writtenBlocks_append :
    writtenBlocks (lines ++ rest) = writtenBlocks lines ++ writtenBlocks rest :=
  List.filterMap_append

@[simp] lemma writtenInputs_nil : writtenInputs [] = [] := rfl

@[simp] lemma writtenInputs_stack :
    writtenInputs (.stack k :: lines) = writtenInputs lines := rfl

@[simp] lemma writtenInputs_block :
    writtenInputs (ws.blockEntry k b :: lines) = writtenInputs lines := rfl

@[simp] lemma writtenInputs_input :
    writtenInputs (ws.inputEntry k i :: lines) = i :: writtenInputs lines := rfl

@[simp] lemma writtenInputs_append :
    writtenInputs (lines ++ rest) = writtenInputs lines ++ writtenInputs rest :=
  List.filterMap_append

end Lines

/-! ## The blocks that are written -/

lemma starts_row_cons : (i :: inputs).filterMap ws.held? =
    (ws.held? i).toList ++ inputs.filterMap ws.held? := by
  cases hi : ws.held? i <;> simp [hi]

lemma exists_mem_append {p : BlockId → Prop} (l l' : List BlockId) :
    (∃ y ∈ l ++ l', p y) ↔ (∃ y ∈ l, p y) ∨ ∃ y ∈ l', p y := by
  simp only [List.mem_append, or_and_right, exists_or]

/-- **A task writes what is below the blocks that it starts with.** -/
theorem Linked.mem_writtenBlocks_iff (h : ws.Linked) (hlines : ws.Writes task lines) :
    x ∈ writtenBlocks lines ↔ ∃ y ∈ task.starts ws, Rises ws.parent? x y := by
  induction hlines with
  | noStacks | ended | noInputs => simp [OutlineTask.starts]
  | @stack number top tops lines rest _ _ ih₁ ih₂ =>
      rw [writtenBlocks_stack, writtenBlocks_append, List.mem_append, ih₁, ih₂]
      exact (exists_mem_append [top] tops).symm
  | @block k b held rest _ _ ih₁ ih₂ =>
      have hfirst : (∃ y ∈ (OutlineTask.chain k (some b)).starts ws, Rises ws.parent? x y) ↔
          Rises ws.parent? x b := by
        simp [OutlineTask.starts]
      rw [writtenBlocks_block, writtenBlocks_append, List.mem_cons, List.mem_append, ih₁, ih₂,
        hfirst, h.rises_iff_children, children_eq, exists_mem_append]
      rfl
  | @input k i inputs held rest _ _ ih₁ ih₂ =>
      rw [writtenBlocks_input, writtenBlocks_append, List.mem_append, ih₁, ih₂]
      rw [OutlineTask.starts, OutlineTask.starts, OutlineTask.starts, starts_row_cons,
        exists_mem_append]

/-- Two tasks have no block in common if the blocks that they start with are all siblings. -/
lemma Forest.nodup_both (h : ws.Forest) (hlines : ws.Writes task lines)
    (hrest : ws.Writes task' rest) (hstarts : ws.Siblings (task.starts ws ++ task'.starts ws))
    (ih : ws.Siblings (task.starts ws) → (writtenBlocks lines).Nodup)
    (ih' : ws.Siblings (task'.starts ws) → (writtenBlocks rest).Nodup) :
    (writtenBlocks (lines ++ rest)).Nodup := by
  rw [writtenBlocks_append]
  exact hstarts.nodup_append h (ih (hstarts.sublist (List.sublist_append_left _ _)))
    (ih' (hstarts.sublist (List.sublist_append_right _ _)))
    (fun z => (h.mem_writtenBlocks_iff hlines).mp) (fun z => (h.mem_writtenBlocks_iff hrest).mp)

/-- **A task writes no block twice** if the blocks that it starts with are siblings. -/
theorem Forest.nodup_writtenBlocks (h : ws.Forest) (hlines : ws.Writes task lines)
    (hstarts : ws.Siblings (task.starts ws)) : (writtenBlocks lines).Nodup := by
  induction hlines with
  | noStacks | ended | noInputs => exact List.nodup_nil
  | stack hlines hrest ih₁ ih₂ => exact h.nodup_both hlines hrest hstarts ih₁ ih₂
  | @block k b held rest hheld hrest ih₁ ih₂ =>
      have hchildren := h.siblings_children b
      rw [children_eq] at hchildren
      rw [writtenBlocks_block, List.nodup_cons]
      refine ⟨fun hb => ?_, h.nodup_both hheld hrest hchildren ih₁ ih₂⟩
      -- a block that is written below itself would be below one of its children
      rw [writtenBlocks_append, List.mem_append, h.mem_writtenBlocks_iff hheld,
        h.mem_writtenBlocks_iff hrest] at hb
      have hbelow : ∃ y ∈ ws.children b, Rises ws.parent? b y := by
        rw [children_eq]
        rcases hb with ⟨y, hy, hby⟩ | ⟨y, hy, hby⟩
        · exact ⟨y, List.mem_append_left _ hy, hby⟩
        · exact ⟨y, List.mem_append_right _ hy, hby⟩
      obtain ⟨y, hy, hby⟩ := hbelow
      exact h.grounded.not_rises (h.mem_children_iff.mp hy) hby
  | input hheld hrest ih₁ ih₂ =>
      rw [OutlineTask.starts, starts_row_cons] at hstarts
      exact h.nodup_both hheld hrest hstarts ih₁ ih₂

/-! ## The inputs that are written -/

/-- **A task writes the inputs of the blocks that it writes**, besides its own. -/
theorem Writes.writtenInputs_perm (hlines : ws.Writes task lines) :
    (writtenInputs lines).Perm
      (task.ownInputs ++ (writtenBlocks lines).flatMap ws.inputsOf) := by
  induction hlines with
  | noStacks | ended | noInputs => exact .nil
  | stack _ _ ih₁ ih₂ => simpa [OutlineTask.ownInputs] using ih₁.append ih₂
  | block _ _ ih₁ ih₂ => simpa [OutlineTask.ownInputs] using ih₁.append ih₂
  | @input k i inputs held rest _ _ ih₁ ih₂ =>
      have hboth : (writtenInputs held ++ writtenInputs rest).Perm
          (inputs ++ ((writtenBlocks held).flatMap ws.inputsOf ++
            (writtenBlocks rest).flatMap ws.inputsOf)) :=
        (ih₁.append ih₂).trans (List.perm_append_comm_assoc _ _ _)
      simpa [OutlineTask.ownInputs] using hboth

/-- What different owners list is different. -/
lemma nodup_flatMap_of_owner {α β : Type} {list : α → List β} {owner : β → Option α}
    (howner : ∀ a x, x ∈ list a ↔ owner x = some a) (hlist : ∀ a, (list a).Nodup) {l : List α}
    (hl : l.Nodup) : (l.flatMap list).Nodup := by
  rw [List.nodup_flatMap]
  refine ⟨fun a _ => hlist a, hl.imp fun {a a'} hne x hx hx' => hne ?_⟩
  exact Option.some.inj (((howner a x).mp hx).symm.trans ((howner a' x).mp hx'))

/-! ## Where lines stand -/

/-- The line is that of a block or an input that is nested as deep as the line stands in. -/
def IsLineOf (ws : Workspace) (e : OutlineEntry) : Prop :=
  (∀ b, e.block? = some b → e = ws.blockEntry (1 + 2 * ws.socketLinks b) b) ∧
    ∀ i, e.input? = some i →
      ∃ b, i ∈ ws.inputsOf b ∧ e = ws.inputEntry (2 + 2 * ws.socketLinks b) i

/-- **Lines stand as far in as what they are about is nested.**  A socket adds two, a next
connection nothing. -/
theorem Forest.isLineOf_of_writes (h : ws.Forest) (hlines : ws.Writes task lines)
    (htask : task.InPlace ws) : ∀ e ∈ lines, ws.IsLineOf e := by
  induction hlines with
  | noStacks | ended | noInputs => simp
  | @stack number top tops lines rest _ _ ih₁ ih₂ =>
      have htop : (OutlineTask.chain 1 (some top)).InPlace ws := by
        rintro _ ⟨⟩
        rw [h.socketLinks_of_top (htask top List.mem_cons_self)]
      intro e he
      rw [List.mem_cons, List.mem_append] at he
      rcases he with rfl | he | he
      · exact ⟨nofun, nofun⟩
      · exact ih₁ htop e he
      · exact ih₂ (fun t ht => htask t (List.mem_cons_of_mem _ ht)) e he
  | @block k b held rest _ _ ih₁ ih₂ =>
      have hk : k = 1 + 2 * ws.socketLinks b := htask b rfl
      intro e he
      rw [List.mem_cons, List.mem_append] at he
      rcases he with rfl | he | he
      · refine ⟨fun b' hb => ?_, nofun⟩
        cases hb
        rw [← hk]
      · exact ih₁ (fun i hi => ⟨b, hi, hk⟩) e he
      · refine ih₂ (fun y hy => ?_) e he
        rw [hk, h.socketLinks_of_follower hy]
  | @input k i inputs held rest _ _ ih₁ ih₂ =>
      obtain ⟨b, hb, hk⟩ := htask i List.mem_cons_self
      intro e he
      rw [List.mem_cons, List.mem_append] at he
      rcases he with rfl | he | he
      · refine ⟨nofun, fun j hj => ?_⟩
        cases hj
        exact ⟨b, hb, by rw [hk, Nat.add_right_comm]⟩
      · refine ih₁ (fun y hy => ?_) e he
        rw [hk, h.socketLinks_of_held hb hy, Nat.mul_add, ← Nat.add_assoc]
      · exact ih₂ (fun j hj => htask j (List.mem_cons_of_mem _ hj)) e he

/-- No line of a task stands further out than the task. -/
lemma Writes.indent_le (hlines : ws.Writes task lines) : ∀ e ∈ lines, task.indent ≤ e.indent := by
  induction hlines with
  | noStacks | ended | noInputs => simp
  | stack => simp [OutlineTask.indent]
  | @block k b held rest _ _ ih₁ ih₂ =>
      intro e he
      rw [List.mem_cons, List.mem_append] at he
      rcases he with rfl | he | he
      · exact le_rfl
      · exact Nat.le_of_succ_le (ih₁ e he)
      · exact ih₂ e he
  | @input k i inputs held rest _ _ ih₁ ih₂ =>
      intro e he
      rw [List.mem_cons, List.mem_append] at he
      rcases he with rfl | he | he
      · exact le_rfl
      · exact Nat.le_of_succ_le (ih₁ e he)
      · exact ih₂ e he

/-- A block stands somewhere among the lines, and after it what its inputs hold and what follows
it. -/
def Displays (ws : Workspace) (lines : List OutlineEntry) (b : BlockId) : Prop :=
  ∃ k before held rest after, lines = before ++ (ws.blockEntry k b :: (held ++ rest)) ++ after ∧
    ws.Writes (.row k (ws.inputsOf b)) held ∧ ws.Writes (.chain k (ws.follower? b)) rest

lemma Displays.among (h : ws.Displays lines b) (before after : List OutlineEntry) :
    ws.Displays (before ++ lines ++ after) b := by
  obtain ⟨k, before', held, rest, after', rfl, hheld, hrest⟩ := h
  exact ⟨k, before ++ before', held, rest, after' ++ after, by simp, hheld, hrest⟩

/-- **A block that is written** is followed by what its inputs hold, and that by what follows the
block. -/
theorem Writes.displays (hlines : ws.Writes task lines) (hb : b ∈ writtenBlocks lines) :
    ws.Displays lines b := by
  -- of two rows of lines behind a first line, the block stands in the one or the other
  have hrows : ∀ e (lines rest : List OutlineEntry),
      (b ∈ writtenBlocks lines → ws.Displays lines b) →
      (b ∈ writtenBlocks rest → ws.Displays rest b) →
      b ∈ writtenBlocks (lines ++ rest) → ws.Displays (e :: (lines ++ rest)) b := by
    intro e lines rest ih ih' hb
    rw [writtenBlocks_append, List.mem_append] at hb
    rcases hb with hb | hb
    · exact (ih hb).among [e] rest
    · simpa using (ih' hb).among (e :: lines) []
  induction hlines with
  | noStacks | ended | noInputs => cases hb
  | stack _ _ ih₁ ih₂ => exact hrows _ _ _ ih₁ ih₂ hb
  | @block k a held rest hheld hrest ih₁ ih₂ =>
      rw [writtenBlocks_block, List.mem_cons] at hb
      rcases hb with rfl | hb
      · exact ⟨k, [], held, rest, [], by simp, hheld, hrest⟩
      · exact hrows _ _ _ ih₁ ih₂ hb
  | input _ _ ih₁ ih₂ => exact hrows _ _ _ ih₁ ih₂ hb

/-- The line of an input stands somewhere in the row that it belongs to. -/
lemma Writes.exists_input (hlines : ws.Writes (.row k inputs) lines) (hi : i ∈ inputs) :
    ∃ before after, lines = before ++ ws.inputEntry (k + 1) i :: after := by
  induction inputs generalizing lines with
  | nil => cases hi
  | cons j inputs ih =>
      cases hlines with
      | @input _ _ _ held rest hheld hrest =>
          rcases List.mem_cons.mp hi with rfl | hi
          · exact ⟨[], held ++ rest, rfl⟩
          · obtain ⟨before, after, rfl⟩ := ih hrest hi
            exact ⟨ws.inputEntry (k + 1) j :: (held ++ before), after, by simp⟩

/-- The rows in the lines are those of the inputs that they are about. -/
lemma Writes.rows_eq (hlines : ws.Writes task lines) : lines.flatMap OutlineEntry.row =
    ((writtenInputs lines).flatMap ws.fieldsOf).map ws.shownField := by
  induction hlines with
  | noStacks | ended | noInputs => rfl
  | stack _ _ ih₁ ih₂ => simp [ih₁, ih₂]
  | block _ _ ih₁ ih₂ => simp [ih₁, ih₂]
  | input _ _ ih₁ ih₂ => simp [ih₁, ih₂]

end Workspace

end BlockCursor
