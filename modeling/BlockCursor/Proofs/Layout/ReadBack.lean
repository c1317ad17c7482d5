import BlockCursor.Proofs.Layout.Building
import BlockCursor.Proofs.Workspace.Lines
import BlockCursor.Proofs.Workspace.Subtree

/-!
# Reading a layout back

A workspace can be read back through its queries, from the tops along the links.  What has been
built from a layout reads back as that layout, apart from its empty stacks, and its blocks have been
numbered in document order; so its outline can be written straight from the layout.

* `Workspace.layout` — a workspace as a layout, read through the queries.
* `WorkspaceLayout.outline` — the outline of a layout whose blocks are numbered in document order.
* `ShownCases.chain` — induction over what is shown, by which each way of reading is followed.
* **`WorkspaceLayout.build_reads_back`** — building loses nothing and invents nothing.
-/

namespace BlockCursor

/-! ## The layout of a workspace -/

namespace Workspace

variable (ws : Workspace)

/-- A field as the queries describe it. -/
def fieldSpec (f : FieldId) : FieldSpec :=
  ⟨(ws.fieldName? f).getD "", ws.isEditable f⟩

/-- An input as the queries describe it, when it holds these blocks. -/
def inputLayout (i : InputId) (blocks : List BlockLayout) : InputLayout :=
  ⟨(ws.inputName? i).getD "", (ws.inputKind? i).getD default, (ws.fieldsOf i).map ws.fieldSpec,
    blocks⟩

/-- A block and the blocks that follow it as the queries describe them, at most `bound` links deep.
What an input holds is found through its socket, and what follows a block through its next
connection. -/
def chainLayout : (bound : Nat) → BlockId → List BlockLayout
  | 0, _ => []
  | bound + 1, b =>
    { label := ws.labelOf? b
      kind := (ws.blockKind? b).getD ""
      previous := (ws.previous? b).isSome
      next := (ws.next? b).isSome
      output := (ws.output? b).isSome
      inputs := (ws.inputsOf b).map fun i =>
        ws.inputLayout i ((ws.held? i).toList.flatMap (chainLayout bound)) } ::
      (ws.follower? b).toList.flatMap (chainLayout bound)

/-- The workspace as a layout: one stack for every top. -/
def layout : WorkspaceLayout :=
  ⟨ws.tops.map fun top => ⟨ws.chainLayout ws.blocks.size top⟩⟩

end Workspace

/-! ## The outline of a layout -/

mutual

/-- The lines of a block and of what it holds, numbered from `n` on in document order. -/
def BlockLayout.lines (indent n : Nat) : BlockLayout → List String
  | ⟨label, kind, _, _, _, inputs⟩ =>
    blockLine indent n kind label :: heldLines (indent + 1) (n + 1) inputs

/-- The lines of a row of inputs and of what they hold. -/
def heldLines (indent n : Nat) : List InputLayout → List String
  | [] => []
  | ⟨name, kind, fields, blocks⟩ :: rest =>
    inputLine indent name kind fields ::
      (chainLines (indent + 1) n blocks ++ heldLines indent (n + chainSize blocks) rest)

/-- The lines of a chain of blocks. -/
def chainLines (indent n : Nat) : List BlockLayout → List String
  | [] => []
  | l :: rest => l.lines indent n ++ chainLines indent (n + l.size) rest

end

lemma BlockLayout.lines_eq (indent n : Nat) (l : BlockLayout) : l.lines indent n =
    blockLine indent n l.kind l.label :: heldLines (indent + 1) (n + 1) l.inputs := by
  cases l
  rfl

/-- The lines of stacks that are themselves numbered from `number` on. -/
def layoutLines (number n : Nat) : List StackLayout → List String
  | [] => []
  | s :: rest =>
    s!"stack {number}" ::
      (chainLines 1 n s.blocks ++ layoutLines (number + 1) (n + chainSize s.blocks) rest)

namespace WorkspaceLayout

/-- The layout without its empty stacks. -/
def withoutEmpty (layout : WorkspaceLayout) : WorkspaceLayout :=
  ⟨layout.stackLayouts.filter fun s => !s.blocks.isEmpty⟩

/-- The outline of a layout, with its blocks numbered from zero in document order. -/
def outline (layout : WorkspaceLayout) : String :=
  Text.trimEnd (String.join ((layoutLines 0 0 layout.stackLayouts).map (· ++ "\n")))

end WorkspaceLayout

/-! ## Induction over what is shown -/

namespace Workspace

variable {ws : Workspace} {i : InputId} {blocks : List BlockLayout} {n bound : Nat}

/-- The cases of an induction over what is shown, with a statement `P` about chains and a statement
`Q` about rows of inputs.  The bound on the links that are followed goes down by one with every
block. -/
structure ShownCases (ws : Workspace) (P : Nat → Nat → List BlockLayout → Prop)
    (Q : Nat → Nat → List InputId → List InputLayout → Prop) : Prop where
  nil : ∀ bound n, P bound n []
  cons : ∀ bound n l rest, ws.LooksLike ⟨n⟩ l → ws.follower? ⟨n⟩ = firstOf (n + l.size) rest →
    Q bound (n + 1) (ws.inputsOf ⟨n⟩) l.inputs → P bound (n + l.size) rest →
    P (bound + 1) n (l :: rest)
  noInputs : ∀ bound n, Q bound n [] []
  inputs : ∀ bound n i ids (input : InputLayout) rest, ws.MadeAs i input.spec →
    ws.held? i = firstOf n input.blocks → P bound n input.blocks →
    Q bound (n + chainSize input.blocks) ids rest → Q bound n (i :: ids) (input :: rest)

namespace ShownCases

variable {P : Nat → Nat → List BlockLayout → Prop}
  {Q : Nat → Nat → List InputId → List InputLayout → Prop} (h : ws.ShownCases P Q)
include h

mutual

theorem row : ∀ (inputs : List InputLayout) (n : Nat) (ids : List InputId) (bound : Nat),
    ws.ShowsInputs n ids inputs → heldSize inputs ≤ bound → Q bound n ids inputs
  | [], n, _, bound, hshows, _ => by
      obtain rfl := hshows
      exact h.noInputs bound n
  | ⟨name, kind, fields, blocks⟩ :: rest, n, _, bound, hshows, hbound => by
      obtain ⟨i, ids, rfl, hmade, hheld, hchain, hrest⟩ := hshows
      rw [heldSize] at hbound
      exact h.inputs bound n i ids _ rest hmade hheld (chain blocks n bound hchain (by omega))
        (row rest _ ids bound hrest (by omega))

/-- **Induction over what is shown.** -/
theorem chain : ∀ (blocks : List BlockLayout) (n bound : Nat),
    ws.ShowsChain n blocks → chainSize blocks ≤ bound → P bound n blocks
  | [], n, bound, _, _ => h.nil bound n
  | ⟨label, kind, previous, next, output, inputs⟩ :: rest, n, bound,
      ⟨⟨hlooks, hinputs⟩, hfollower, hrest⟩, hbound => by
      rw [chainSize, BlockLayout.size] at hbound
      obtain ⟨bound, rfl⟩ := Nat.exists_eq_add_of_le' (show 1 ≤ bound by omega)
      exact h.cons bound n _ rest hlooks hfollower
        (row inputs (n + 1) _ bound hinputs (by omega)) (chain rest _ bound hrest (by omega))

end

end ShownCases

lemma flatMap_firstOf_cons {α : Type} (n : Nat) (l : BlockLayout) (rest : List BlockLayout)
    (f : BlockId → List α) : (firstOf n (l :: rest)).toList.flatMap f = f ⟨n⟩ := by
  simp [firstOf]

/-! ## What is shown is read back -/

lemma MadeAs.inputLayout_eq {spec : InputSpec} (h : ws.MadeAs i spec) (blocks : List BlockLayout) :
    ws.inputLayout i blocks = ⟨spec.name, spec.kind, spec.fields, blocks⟩ := by
  have hfields : (ws.fieldsOf i).map ws.fieldSpec = spec.fields :=
    (h.map_fields fun x =>
      (⟨(x.map Field.name).getD "", (x.map Field.editable).getD false⟩ : FieldSpec)).trans
      (List.map_id _)
  rw [inputLayout, h.name, h.kind, hfields]
  rfl

theorem chainLayout_of_shows (hshows : ws.ShowsChain n blocks) (hbound : chainSize blocks ≤ bound) :
    (firstOf n blocks).toList.flatMap (ws.chainLayout bound) = blocks := by
  refine ShownCases.chain
    (P := fun bound n blocks => (firstOf n blocks).toList.flatMap (ws.chainLayout bound) = blocks)
    (Q := fun bound _ ids row => (ids.map fun i =>
      ws.inputLayout i ((ws.held? i).toList.flatMap (ws.chainLayout bound))) = row)
    ⟨?nil, ?cons, ?noInputs, ?inputs⟩ blocks n bound hshows hbound
  case nil => exact fun _ _ => rfl
  case noInputs => exact fun _ _ => rfl
  case cons =>
    intro bound n l rest hlooks hfollower hheld hnext
    rw [flatMap_firstOf_cons, chainLayout, hheld, hfollower, hnext, hlooks.kind, hlooks.label,
      hlooks.previous, hlooks.next, hlooks.output]
    cases l
    rfl
  case inputs =>
    intro bound n i ids input rest hmade hheld hchain hrest
    rw [List.map_cons, hheld, hchain, hmade.inputLayout_eq, hrest]
    cases input
    rfl

/-! ## What is shown is outlined -/

theorem chainEntries_of_shows (hshows : ws.ShowsChain n blocks) (hbound : chainSize blocks ≤ bound)
    (indent : Nat) :
    ((firstOf n blocks).toList.flatMap (ws.chainEntries bound indent)).map OutlineEntry.text =
      chainLines indent n blocks := by
  refine ShownCases.chain
    (P := fun bound n blocks => ∀ indent,
      ((firstOf n blocks).toList.flatMap (ws.chainEntries bound indent)).map OutlineEntry.text =
        chainLines indent n blocks)
    (Q := fun bound n ids row => ∀ indent, (ids.flatMap fun i => ws.inputEntry indent i ::
      (ws.held? i).toList.flatMap (ws.chainEntries bound (indent + 1))).map OutlineEntry.text =
        heldLines indent n row)
    ⟨?nil, ?cons, ?noInputs, ?inputs⟩ blocks n bound hshows hbound indent
  case nil => exact fun _ _ _ => rfl
  case noInputs => exact fun _ _ _ => rfl
  case cons =>
    intro bound n l rest hlooks hfollower hheld hnext indent
    have hentries : ws.chainEntries (bound + 1) indent ⟨n⟩ = ws.blockEntry indent ⟨n⟩ ::
        (((ws.inputsOf ⟨n⟩).flatMap fun i => ws.inputEntry (indent + 1) i ::
          (ws.held? i).toList.flatMap (ws.chainEntries bound (indent + 1 + 1))) ++
          (ws.follower? ⟨n⟩).toList.flatMap (ws.chainEntries bound indent)) := rfl
    rw [flatMap_firstOf_cons, hentries, hfollower, List.map_cons, List.map_append, hheld, hnext,
      blockEntry_text hlooks.kind, hlooks.label, chainLines, BlockLayout.lines_eq, List.cons_append]
  case inputs =>
    intro bound n i ids input rest hmade hheld hchain hrest indent
    rw [List.flatMap_cons, List.map_append, List.map_cons, hheld, hchain, hrest,
      hmade.inputEntry_text]
    cases input
    rfl

/-! ## What is shown is numbered in document order -/

theorem subtreeWithin_of_shows (hshows : ws.ShowsChain n blocks)
    (hbound : chainSize blocks ≤ bound) :
    (firstOf n blocks).toList.flatMap (ws.subtreeWithin bound) =
      (List.range' n (chainSize blocks)).map BlockId.mk := by
  refine ShownCases.chain
    (P := fun bound n blocks => (firstOf n blocks).toList.flatMap (ws.subtreeWithin bound) =
      (List.range' n (chainSize blocks)).map BlockId.mk)
    (Q := fun bound n ids row => (ids.filterMap ws.held?).flatMap (ws.subtreeWithin bound) =
      (List.range' n (heldSize row)).map BlockId.mk)
    ⟨?nil, ?cons, ?noInputs, ?inputs⟩ blocks n bound hshows hbound
  case nil => exact fun _ _ => rfl
  case noInputs => exact fun _ _ => rfl
  case cons =>
    intro bound n l rest _ hfollower hheld hnext
    -- the block itself has the first number of its range
    have hrange : List.range' n l.size = n :: List.range' (n + 1) (heldSize l.inputs) := by
      rw [l.size_eq, Nat.add_comm, List.range'_succ]
    rw [flatMap_firstOf_cons, subtreeWithin, children_eq, List.flatMap_append, hfollower, hheld,
      hnext, chainSize, ← List.range'_append_1, hrange, List.map_append, List.map_cons,
      List.cons_append]
  case inputs =>
    intro bound n i ids input rest _ hheld hchain hrest
    have hcons : (i :: ids).filterMap ws.held? =
        (ws.held? i).toList ++ ids.filterMap ws.held? := by
      cases h : ws.held? i <;> simp [h]
    have hsize : heldSize (input :: rest) = chainSize input.blocks + heldSize rest := by
      cases input
      rfl
    rw [hcons, List.flatMap_append, hheld, hchain, hrest, hsize, ← List.range'_append_1,
      List.map_append]

/-! ## Whole workspaces -/

/-- Stacks that are shown are read back, the empty ones apart. -/
lemma stackLayouts_of_shows (bound : Nat) : ∀ (layouts : List StackLayout) (n : Nat),
    ws.ShowsStacks n layouts → stacksSize layouts ≤ bound →
      ((stackTops n layouts).map fun top => (⟨ws.chainLayout bound top⟩ : StackLayout)) =
        layouts.filter fun s => !s.blocks.isEmpty
  | [], _, _, _ => rfl
  | ⟨[]⟩ :: rest, n, ⟨_, hrest⟩, hbound => by
      simpa [stackTops, firstOf, chainSize] using
        stackLayouts_of_shows bound rest _ hrest (by simpa [stacksSize, chainSize] using hbound)
  | ⟨first :: more⟩ :: rest, n, ⟨hchain, hrest⟩, hbound => by
      simp only [stacksSize] at hbound
      have hsize : chainSize (first :: more) ≤ bound := by omega
      have hfirst : ws.chainLayout bound ⟨n⟩ = first :: more := by
        simpa [firstOf] using chainLayout_of_shows hchain hsize
      have hothers := stackLayouts_of_shows bound rest _ hrest (by omega)
      have htops : stackTops n (⟨first :: more⟩ :: rest) =
          ⟨n⟩ :: stackTops (n + chainSize (first :: more)) rest := rfl
      rw [htops, List.map_cons, hfirst, hothers, List.filter_cons_of_pos (by simp)]

lemma subtrees_of_shows (bound : Nat) : ∀ (layouts : List StackLayout) (n : Nat),
    ws.ShowsStacks n layouts → stacksSize layouts ≤ bound →
      (stackTops n layouts).flatMap (ws.subtreeWithin bound) =
        (List.range' n (stacksSize layouts)).map BlockId.mk
  | [], _, _, _ => rfl
  | s :: rest, n, ⟨hchain, hrest⟩, hbound => by
      rw [stacksSize] at hbound
      rw [stackTops, List.flatMap_append, subtreeWithin_of_shows hchain (by omega),
        subtrees_of_shows bound rest _ hrest (by omega), stacksSize,
        ← List.range'_append_1, List.map_append]

lemma stackEntries_of_shows (bound : Nat) : ∀ (layouts : List StackLayout) (number n : Nat),
    ws.ShowsStacks n layouts → stacksSize layouts ≤ bound →
      (((stackTops n layouts).zipIdx number).flatMap fun (top, number) =>
          OutlineEntry.stack number :: ws.chainEntries bound 1 top).map OutlineEntry.text =
        layoutLines number n (layouts.filter fun s => !s.blocks.isEmpty)
  | [], _, _, _, _ => by simp [stackTops, layoutLines]
  | ⟨[]⟩ :: rest, number, n, ⟨_, hrest⟩, hbound => by
      simpa [stackTops, firstOf, chainSize] using
        stackEntries_of_shows bound rest number _ hrest
          (by simpa [stacksSize, chainSize] using hbound)
  | ⟨first :: more⟩ :: rest, number, n, ⟨hchain, hrest⟩, hbound => by
      simp only [stacksSize] at hbound
      have hsize : chainSize (first :: more) ≤ bound := by omega
      have hfirst : (ws.chainEntries bound 1 ⟨n⟩).map OutlineEntry.text =
          chainLines 1 n (first :: more) := by
        simpa [firstOf] using chainEntries_of_shows hchain hsize 1
      have hothers := stackEntries_of_shows bound rest (number + 1) _ hrest (by omega)
      have htops : stackTops n (⟨first :: more⟩ :: rest) =
          ⟨n⟩ :: stackTops (n + chainSize (first :: more)) rest := rfl
      rw [htops, List.zipIdx_cons, List.flatMap_cons, List.map_append, hothers, List.map_cons,
        hfirst, List.filter_cons_of_pos (by simp), layoutLines]
      rfl

end Workspace

namespace WorkspaceLayout

open Workspace

/-- **Building loses nothing and invents nothing.**  What has been built reads back as the layout
without its empty stacks, its blocks are all there are and are numbered in document order, and its
outline is that of the layout. -/
theorem build_reads_back {layout : WorkspaceLayout} {ws : Workspace}
    (h : layout.build = .ok ws) : ws.layout = layout.withoutEmpty ∧
      ws.tops.flatMap ws.subtree = (List.range ws.blocks.size).map BlockId.mk ∧
      ws.outline = layout.withoutEmpty.outline := by
  rcases layout.build_cases with ⟨ws', hok, -, hbuilt⟩ | ⟨e, herror, -⟩
  · rw [hok] at h
    cases h
    have hsize : ws.blocks.size = stacksSize layout.stackLayouts := by
      rw [hbuilt.built.size]
      exact Nat.zero_add _
    have htops : ws.tops = stackTops 0 layout.stackLayouts := by
      rw [hbuilt.built.tops]
      exact List.nil_append _
    have hshows : ws.ShowsStacks 0 layout.stackLayouts := hbuilt.shows.now
    refine ⟨?_, ?_, ?_⟩
    · rw [Workspace.layout, htops, stackLayouts_of_shows _ _ 0 hshows hsize.ge, withoutEmpty]
    · rw [htops, List.range_eq_range', hsize, ← subtrees_of_shows _ _ 0 hshows hsize.ge]
      rfl
    · rw [Workspace.outline, outlineEntries, htops, outline, withoutEmpty,
        ← stackEntries_of_shows _ _ 0 0 hshows hsize.ge, List.map_map]
      rfl
  · rw [herror] at h
    cases h

/-- A layout with a chain, something in a value and in a statement input, and an empty stack. -/
def branching : WorkspaceLayout :=
  let boolean : InputLayout := ⟨"BOOL", .dummy, [⟨"BOOL", true⟩], []⟩
  let condition : BlockLayout := ⟨some "cond", "logic_boolean", false, false, true, [boolean]⟩
  let body : BlockLayout := ⟨some "body", "print", true, true, false, []⟩
  let branch : BlockLayout := ⟨some "if", "controls_if", true, true, false,
    [⟨"IF0", .value, [⟨"if", false⟩], [condition]⟩, ⟨"DO", .statement, [], [body]⟩]⟩
  let after : BlockLayout := ⟨some "after", "print", true, true, false, []⟩
  ⟨[⟨[branch, after]⟩, ⟨[]⟩, ⟨[⟨some "lonely", "math_number", false, false, true, []⟩]⟩]⟩

lemma valid_branching : branching.Valid where
  labels_nodup := by decide
  chained := by simp [branching, Chained]
  blocks := by simp [branching, Chained, InputKind.CanHold]

/-- The branching layout is built and reads back without its empty stack, and its outline goes
through the blocks in the order of their numbers. -/
theorem branching_reads_back : (∃ ws, branching.build = .ok ws ∧
    ws.layout = branching.withoutEmpty ∧
    ws.tops.flatMap ws.subtree = (List.range ws.blocks.size).map BlockId.mk ∧
    ws.outline = branching.withoutEmpty.outline) ∧
    layoutLines 0 0 branching.withoutEmpty.stackLayouts =
      ["stack 0",
        "  controls_if [if] b0",
        "    IF0 (value): if",
        "      logic_boolean [cond] b1",
        "        BOOL (dummy): BOOL*",
        "    DO (statement)",
        "      print [body] b2",
        "  print [after] b3",
        "stack 1",
        "  math_number [lonely] b4"] := by
  refine ⟨?_, rfl⟩
  rcases branching.build_cases with ⟨ws, hok, -, -⟩ | ⟨_, -, -, hnot⟩
  · exact ⟨ws, hok, build_reads_back hok⟩
  · exact absurd valid_branching hnot

end WorkspaceLayout

end BlockCursor
