import BlockCursor.Proofs.Workspace.Consistency
import BlockCursor.Proofs.Workspace.Lines
import BlockCursor.Proofs.Workspace.Written

/-!
# What an outline shows

The blocks of an outline are found by going down from the tops, and what is live is told by the
slots.  In a forest both are the same, since every live block has one top above it.

* `Forest.mem_outlined_iff`, `Forest.nodup_outlined` — the live blocks, each once.
* `Forest.in_order` — what stands around a block.
* `Forest.standsUnder` — what an input's line stands under.
* `Forest.legible` — what the lines say.
* `Workspace.ShowsAll`, **`Reachable.outline_shows_all`** — an outline shows everything once and in
  its place.
-/

namespace BlockCursor.Workspace

variable {ws : Workspace} {b x y : BlockId} {i : InputId} {f : FieldId}

/-! ## The outline of a forest -/

namespace Forest

variable (h : ws.Forest)
include h

/-- What is below a top has it as its root. -/
lemma rises_top_iff (ht : y ∈ ws.tops) : Rises ws.parent? x y ↔ ws.root? x = some y := by
  obtain ⟨hlive, htop⟩ := (h.mem_tops_iff y).mp ht
  rw [h.root_iff]
  exact ⟨fun hxy => ⟨h.hasBlock_of_below hlive hxy, hxy, htop⟩, fun hroot => hroot.2.1⟩

/-- An outline writes the live blocks. -/
lemma mem_outlined_iff : x ∈ writtenBlocks ws.outlineEntries ↔ ws.hasBlock x = true := by
  rw [h.mem_writtenBlocks_iff h.writes_outlineEntries]
  constructor
  · rintro ⟨t, ht, hxt⟩
    exact (h.root_iff.mp ((h.rises_top_iff ht).mp hxt)).1
  · intro hx
    obtain ⟨t, ht⟩ := h.exists_root hx
    exact ⟨t, h.root_mem_tops ht, (h.root_iff.mp ht).2.1⟩

lemma nodup_outlined : (writtenBlocks ws.outlineEntries).Nodup :=
  h.nodup_writtenBlocks h.writes_outlineEntries h.siblings_tops

/-- The lines of an outline are in their places. -/
lemma isLineOf_of_mem_outline : ∀ e ∈ ws.outlineEntries, ws.IsLineOf e :=
  h.isLineOf_of_writes h.writes_outlineEntries fun t ht => ((h.mem_tops_iff t).mp ht).2

/-- What stands around a live block in an outline. -/
lemma exists_around (hb : ws.hasBlock b = true) : ∃ before held rest after,
    ws.outlineEntries =
      before ++ (ws.blockEntry (1 + 2 * ws.socketLinks b) b :: (held ++ rest)) ++ after ∧
    ws.Writes (.row (1 + 2 * ws.socketLinks b) (ws.inputsOf b)) held ∧
    ws.Writes (.chain (1 + 2 * ws.socketLinks b) (ws.follower? b)) rest := by
  obtain ⟨k, before, held, rest, after, hlines, hheld, hrest⟩ :=
    h.writes_outlineEntries.displays (h.mem_outlined_iff.mpr hb)
  have hmem : ws.blockEntry k b ∈ ws.outlineEntries := by simp [hlines]
  have hk : k = 1 + 2 * ws.socketLinks b :=
    congrArg OutlineEntry.indent ((h.isLineOf_of_mem_outline _ hmem).1 b rfl)
  subst hk
  exact ⟨before, held, rest, after, hlines, hheld, hrest⟩

lemma writtenInputs_outline :
    (writtenInputs ws.outlineEntries).Perm
      ((writtenBlocks ws.outlineEntries).flatMap ws.inputsOf) :=
  h.writes_outlineEntries.writtenInputs_perm

lemma nodup_writtenInputs : (writtenInputs ws.outlineEntries).Nodup :=
  h.writtenInputs_outline.nodup_iff.mpr
    (nodup_flatMap_of_owner h.input_iff h.inputs_nodup h.nodup_outlined)

/-- An outline writes the live inputs. -/
lemma mem_writtenInputs_iff : i ∈ writtenInputs ws.outlineEntries ↔ ws.hasInput i = true := by
  rw [h.writtenInputs_outline.mem_iff, List.mem_flatMap]
  constructor
  · rintro ⟨b, -, hi⟩
    exact hasInput_of_inputBlock ((h.input_iff b i).mp hi)
  · intro hi
    obtain ⟨u, hu⟩ := Option.isSome_iff_exists.mp hi
    have hblock : ws.inputBlock? i = some u.block := by simp [inputBlock?, hu]
    exact ⟨u.block, h.mem_outlined_iff.mpr (h.hasBlock_of_inputBlock hblock),
      (h.input_iff _ i).mpr hblock⟩

/-- An outline writes the live fields. -/
lemma mem_writtenFields_iff : f ∈ (writtenInputs ws.outlineEntries).flatMap ws.fieldsOf ↔
    ws.hasField f = true := by
  rw [List.mem_flatMap]
  constructor
  · rintro ⟨i, -, hf⟩
    exact hasField_of_fieldInput ((h.field_iff i f).mp hf)
  · intro hf
    obtain ⟨u, hu⟩ := Option.isSome_iff_exists.mp hf
    have hinput : ws.fieldInput? f = some u.input := by simp [fieldInput?, hu]
    have hmem := (h.field_iff u.input f).mpr hinput
    exact ⟨u.input, h.mem_writtenInputs_iff.mpr (hasInput_of_mem_fields hmem), hmem⟩

end Forest

/-! ## All together -/

/-- The block is part of what an input of the other block holds. -/
def Nests (ws : Workspace) (b x : BlockId) : Prop :=
  ∃ i ∈ ws.inputsOf b, ∃ y, ws.held? i = some y ∧ Rises ws.parent? x y

/-- Reading up from the line `e`, the first line that stands further out than it is `above`. -/
def StandsUnder (lines : List OutlineEntry) (e above : OutlineEntry) : Prop :=
  above.indent < e.indent ∧ ∃ before between after,
    lines = before ++ above :: (between ++ e :: after) ∧ ∀ x ∈ between, e.indent ≤ x.indent

/-- **The lines show everything once**, and in its place. -/
structure ShowsAll (ws : Workspace) (lines : List OutlineEntry) : Prop where
  /-- Each live block is written once, and no other. -/
  blocks_once : ∀ b, (writtenBlocks lines).count b = if ws.hasBlock b then 1 else 0
  /-- Each live input is written once, and no other. -/
  inputs_once : ∀ i, (writtenInputs lines).count i = if ws.hasInput i then 1 else 0
  /-- The rows in the lines are made of fields, -/
  rows : lines.flatMap OutlineEntry.row =
    ((writtenInputs lines).flatMap ws.fieldsOf).map ws.shownField
  /-- of which each live field is there once, and no other. -/
  fields_once : ∀ f, ((writtenInputs lines).flatMap ws.fieldsOf).count f =
    if ws.hasField f then 1 else 0
  /-- The stacks are in the order of the tops, and below the line of each of them are the blocks
  that have that top as their root. -/
  by_stack : ∃ group : BlockId → List OutlineEntry,
    lines = (ws.tops.zipIdx.flatMap fun (t, number) => .stack number :: group t) ∧
    ∀ t ∈ ws.tops, (∀ e ∈ group t, 1 ≤ e.indent) ∧
      ∀ b, b ∈ writtenBlocks (group t) ↔ ws.root? b = some t
  /-- A block is written right before all that is nested in its inputs, and that right before the
  block that follows it and what is below that one. -/
  in_order : ∀ b, ws.hasBlock b = true → ∃ before nested following after,
    writtenBlocks lines = before ++ (b :: (nested ++ following)) ++ after ∧
    (∀ x, x ∈ nested ↔ ws.Nests b x) ∧ following.head? = ws.follower? b ∧
    ∀ x, x ∈ following ↔ ∃ y, ws.follower? b = some y ∧ Rises ws.parent? x y
  /-- The line of a block stands as far in as the block is nested. -/
  block_line : ∀ e ∈ lines, ∀ b, e.block? = some b →
    e = ws.blockEntry (1 + 2 * ws.socketLinks b) b
  /-- The line of a live input, with its row of fields, stands one further in under its block. -/
  input_line : ∀ i b, ws.inputBlock? i = some b →
    StandsUnder lines (ws.inputEntry (2 + 2 * ws.socketLinks b) i)
      (ws.blockEntry (1 + 2 * ws.socketLinks b) b)

/-- **The line says what it is about.** -/
structure Legible (ws : Workspace) (e : OutlineEntry) : Prop where
  /-- The line above a stack has its number. -/
  stack : ∀ number, e = .stack number → e.text = s!"stack {number}"
  /-- The line of a block has its kind, its label and its id, as far in as the block is nested. -/
  block : ∀ b, e.block? = some b → ∃ kind, ws.blockKind? b = some kind ∧
    e.text = blockLine (1 + 2 * ws.socketLinks b) b.index kind (ws.labelOf? b)
  /-- The line of an input has its name, its kind and its row of fields, one further in than its
  block. -/
  input : ∀ i, e.input? = some i → ∃ b spec, ws.inputBlock? i = some b ∧ ws.MadeAs i spec ∧
    e.text = inputLine (2 + 2 * ws.socketLinks b) spec.name spec.kind spec.fields

namespace Forest

variable (h : ws.Forest)
include h

/-- The blocks around a block in an outline. -/
lemma in_order (hb : ws.hasBlock b = true) : ∃ before nested following after,
    writtenBlocks ws.outlineEntries = before ++ (b :: (nested ++ following)) ++ after ∧
    (∀ x, x ∈ nested ↔ ws.Nests b x) ∧ following.head? = ws.follower? b ∧
    ∀ x, x ∈ following ↔ ∃ y, ws.follower? b = some y ∧ Rises ws.parent? x y := by
  obtain ⟨before, held, rest, after, hlines, hheld, hrest⟩ := h.exists_around hb
  refine ⟨writtenBlocks before, writtenBlocks held, writtenBlocks rest, writtenBlocks after,
    by simp [hlines], fun x => ?_, ?_, fun x => ?_⟩
  · rw [h.mem_writtenBlocks_iff hheld, OutlineTask.starts, Nests]
    simp only [List.mem_filterMap]
    constructor
    · rintro ⟨y, ⟨i, hi, hy⟩, hxy⟩
      exact ⟨i, hi, y, hy, hxy⟩
    · rintro ⟨i, hi, y, hy, hxy⟩
      exact ⟨y, ⟨i, hi, hy⟩, hxy⟩
  · generalize ws.follower? b = first at hrest
    cases hrest <;> rfl
  · rw [h.mem_writtenBlocks_iff hrest, OutlineTask.starts]
    simp only [Option.mem_toList]

/-- The lines of an outline can be read. -/
lemma legible {e : OutlineEntry} (he : e ∈ ws.outlineEntries) : ws.Legible e := by
  obtain ⟨hblock, hinput⟩ := h.isLineOf_of_mem_outline e he
  refine ⟨?stack, ?block, ?input⟩
  case stack =>
    rintro number rfl
    rfl
  case block =>
    intro b hb
    have hwritten : b ∈ writtenBlocks ws.outlineEntries := List.mem_filterMap.mpr ⟨e, he, hb⟩
    obtain ⟨x, hx⟩ := Option.isSome_iff_exists.mp (h.mem_outlined_iff.mp hwritten)
    have hkind : ws.blockKind? b = some x.kind := by rw [blockKind?, hx, Option.map_some]
    exact ⟨x.kind, hkind, (congrArg _ (hblock b hb)).trans (blockEntry_text hkind _)⟩
  case input =>
    intro i hi
    obtain ⟨b, hb, heq⟩ := hinput i hi
    have howner := (h.input_iff b i).mp hb
    obtain ⟨spec, hmade⟩ := h.exists_madeAs (hasInput_of_inputBlock howner)
    exact ⟨b, spec, howner, hmade, (congrArg _ heq).trans (hmade.inputEntry_text _)⟩

lemma standsUnder (hi : ws.inputBlock? i = some b) :
    StandsUnder ws.outlineEntries (ws.inputEntry (2 + 2 * ws.socketLinks b) i)
      (ws.blockEntry (1 + 2 * ws.socketLinks b) b) := by
  obtain ⟨before, held, rest, after, hlines, hheld, -⟩ :=
    h.exists_around (h.hasBlock_of_inputBlock hi)
  obtain ⟨first, last, rfl⟩ := hheld.exists_input ((h.input_iff b i).mpr hi)
  have hk : 1 + 2 * ws.socketLinks b + 1 = 2 + 2 * ws.socketLinks b := by omega
  rw [hk] at hlines hheld
  refine ⟨by simp, before, first, last ++ rest ++ after, by simp [hlines], fun e he => ?_⟩
  have hindent := hheld.indent_le e (List.mem_append_left _ he)
  rw [indent_inputEntry]
  exact hk.symm.trans_le hindent

theorem showsAll : ws.ShowsAll ws.outlineEntries where
  blocks_once b := by simp only [h.nodup_outlined.count, h.mem_outlined_iff]
  inputs_once i := by simp only [h.nodup_writtenInputs.count, h.mem_writtenInputs_iff]
  rows := h.writes_outlineEntries.rows_eq
  fields_once f := by
    have hnodup := nodup_flatMap_of_owner h.field_iff h.fields_nodup h.nodup_writtenInputs
    simp only [hnodup.count, h.mem_writtenFields_iff]
  by_stack := by
    refine ⟨ws.chainEntries ws.blocks.size 1, rfl, fun t ht => ?_⟩
    have hwrites : ws.Writes (.chain 1 (some t)) (ws.chainEntries ws.blocks.size 1 t) :=
      h.writes_chainEntries _ (h.hasBlock_of_mem_tops ht) (Nat.le_add_right _ _)
    refine ⟨hwrites.indent_le, fun b => ?_⟩
    rw [h.mem_writtenBlocks_iff hwrites, ← h.rises_top_iff ht]
    simp [OutlineTask.starts]
  in_order _ := h.in_order
  block_line e he := (h.isLineOf_of_mem_outline e he).1
  input_line _ _ := h.standsUnder

end Forest

/-- Trimming takes away blanks at the end, and nothing else. -/
lemma exists_trimEnd_append (s : String) : ∃ blanks : List Char,
    (∀ c ∈ blanks, Text.isBlank c = true) ∧ s = Text.trimEnd s ++ String.ofList blanks := by
  refine ⟨(s.toList.reverse.takeWhile Text.isBlank).reverse, fun c hc => ?_, ?_⟩
  · exact List.all_eq_true.mp List.all_takeWhile c (List.mem_reverse.mp hc)
  · apply String.toList_inj.mp
    simp only [Text.trimEnd, Text.dropBlanksEnd, String.toList_append, String.toList_ofList]
    rw [← List.reverse_append, List.takeWhile_append_dropWhile, List.reverse_reverse]

/-- **An outline shows everything once.**  Writing it ends; the text is made of the lines, with no
blanks at its very end; every line says what it is about; and each live block, input and field has
its place in the lines. -/
theorem Reachable.outline_shows_all (h : ws.Reachable) :
    (∀ lines, ws.Writes (.stacks 0 ws.tops) lines ↔ lines = ws.outlineEntries) ∧
    (∃ blanks : List Char, (∀ c ∈ blanks, Text.isBlank c = true) ∧
      String.join (ws.outlineEntries.map fun e => e.text ++ "\n") =
        ws.outline ++ String.ofList blanks) ∧
    (∀ e ∈ ws.outlineEntries, ws.Legible e) ∧ ws.ShowsAll ws.outlineEntries :=
  ⟨fun _ => h.forest.writes_iff, exists_trimEnd_append _, fun _ => h.forest.legible,
    h.forest.showsAll⟩

/-- A loop with a plugged condition, with two blocks in its body and one behind it, and a second
stack. -/
def nestedEdits : List Edit :=
  [.insert ⟨"loop", false, true, false,
      [⟨"while", .value, [⟨"not", true⟩]⟩, ⟨"do", .statement, []⟩]⟩,
    .insert ⟨"behind", true, true, false, []⟩, .insert ⟨"second", true, true, false, []⟩,
    .insert ⟨"first", true, true, false, []⟩, .insert ⟨"condition", false, false, true, []⟩,
    .insert ⟨"hat", false, true, false, []⟩, .connect ⟨0⟩ ⟨3⟩, .connect ⟨2⟩ ⟨7⟩, .connect ⟨8⟩ ⟨5⟩,
    .connect ⟨1⟩ ⟨9⟩]

/-- The second block of the body is written once, inside the loop and before the block behind it, in
a line three levels in; and the condition's input stands under the loop. -/
theorem outline_of_loop :
    (writtenBlocks (applyAll empty nestedEdits).outlineEntries).count ⟨2⟩ = 1 ∧
    (∃ before nested following after, writtenBlocks (applyAll empty nestedEdits).outlineEntries =
      before ++ (⟨0⟩ :: (nested ++ following)) ++ after ∧ ⟨2⟩ ∈ nested ∧
        following.head? = some ⟨1⟩) ∧
    StandsUnder (applyAll empty nestedEdits).outlineEntries
      (.input 2 ⟨0⟩ "while" "value" [("not", true)]) (.block 1 ⟨0⟩ "loop" none) ∧
    (OutlineEntry.block 3 ⟨2⟩ "second" none).text = "      second b2" := by
  have hreach : (applyAll empty nestedEdits).Reachable := ⟨nestedEdits, rfl⟩
  obtain ⟨-, -, hlegible, hshows⟩ := hreach.outline_shows_all
  have hbody : (applyAll empty nestedEdits).Nests ⟨0⟩ ⟨2⟩ :=
    ⟨⟨1⟩, by decide, ⟨3⟩, by decide, .single (by decide)⟩
  obtain ⟨before, nested, following, after, hblocks, hnested, hhead, -⟩ :=
    hshows.in_order ⟨0⟩ (by decide)
  refine ⟨(hshows.blocks_once ⟨2⟩).trans (by decide),
    ⟨before, nested, following, after, hblocks, (hnested ⟨2⟩).mpr hbody, hhead⟩,
    hshows.input_line ⟨0⟩ ⟨0⟩ (by decide), ?_⟩
  obtain ⟨kind, hkind, htext⟩ := (hlegible (.block 3 ⟨2⟩ "second" none) (by decide)).block ⟨2⟩ rfl
  cases hkind
  exact htext

end BlockCursor.Workspace
