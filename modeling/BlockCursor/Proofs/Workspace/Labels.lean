import BlockCursor.Proofs.Workspace.Ancestors
import BlockCursor.Proofs.Workspace.Removal

/-!
# Labels

A label is found by looking for its text, and the label of a block by looking for the block, in one
and the same list.  The two ways agree because no text and no block stands in the list twice; so the
order of the list does not matter, and a label belongs to one live block until that block goes.

* `Workspace.Paired` — no text and no block twice, the invariant that every edit keeps.
* `setLabel_eq_ok_iff` — when a label is given, and what that does.
* `Reachable.labels_eq_filter` — every other edit leaves the labels of live blocks, and no others.
* `Workspace.Removes` — an edit disposes a block, directly or with a block above it.
* **`Reachable.labelled_applyD`** — one edit, and whom a label belongs to after it.
* `Workspace.LabelsOneToOne`, **`Reachable.labels_one_to_one`** — labels and labelled blocks are
  paired off, in every state and along every row of edits.
-/

namespace BlockCursor.Workspace

variable {ws ws' : Workspace} {a b : BlockId} {label : String} {e : Edit}

/-! ## Looking up -/

/-- In a list where no key stands twice, looking for a key finds the one entry that has it. -/
lemma find?_key_iff {α β : Type} [DecidableEq β] {key : α → β} {l : List α} {k : β} {x : α}
    (hnodup : (l.map key).Nodup) : l.find? (fun y => key y == k) = some x ↔ x ∈ l ∧ key x = k := by
  constructor
  · intro hfind
    exact ⟨List.mem_of_find?_eq_some hfind, by simpa using List.find?_some hfind⟩
  · rintro ⟨hx, rfl⟩
    have hsome : (l.find? fun y => key y == key x).isSome = true :=
      List.find?_isSome.mpr ⟨x, hx, by simp⟩
    obtain ⟨y, hy⟩ := Option.isSome_iff_exists.mp hsome
    have hkey : key y = key x := by simpa using List.find?_some hy
    have hsame := List.inj_on_of_nodup_map hnodup (List.mem_of_find?_eq_some hy) hx hkey
    rw [hy, hsame]

/-- No text labels two blocks, and no block has two labels. -/
structure Paired (ws : Workspace) : Prop where
  names_nodup : (ws.labels.map Prod.fst).Nodup
  blocks_nodup : (ws.labels.map Prod.snd).Nodup

namespace Paired

variable (h : ws.Paired)
include h

lemma labelled?_iff : ws.labelled? label = some b ↔ (label, b) ∈ ws.labels := by
  simp [labelled?, find?_key_iff h.names_nodup]

lemma labelOf?_iff : ws.labelOf? b = some label ↔ (label, b) ∈ ws.labels := by
  simp [labelOf?, find?_key_iff h.blocks_nodup]

lemma of_perm {labels : List (String × BlockId)} (hperm : labels.Perm ws.labels) :
    ({ ws with labels } : Workspace).Paired :=
  ⟨(hperm.map Prod.fst).nodup_iff.mpr h.names_nodup,
    (hperm.map Prod.snd).nodup_iff.mpr h.blocks_nodup⟩

/-- Taking labels away leaves the others paired. -/
lemma of_filter {p : String × BlockId → Bool} (hlabels : ws'.labels = ws.labels.filter p) :
    ws'.Paired := by
  have hsub : ws'.labels.Sublist ws.labels := hlabels ▸ List.filter_sublist
  exact ⟨h.names_nodup.sublist (hsub.map _), h.blocks_nodup.sublist (hsub.map _)⟩

/-- One more label, with a text and a block that are both free. -/
lemma append (hlabel : ws.labelled? label = none) (hb : ws.labelOf? b = none) :
    ({ ws with labels := ws.labels ++ [(label, b)] } : Workspace).Paired := by
  have hname : label ∉ ws.labels.map Prod.fst := by
    intro hmem
    obtain ⟨⟨_, x⟩, hx, rfl⟩ := List.mem_map.mp hmem
    simp [h.labelled?_iff.mpr hx] at hlabel
  have hblock : b ∉ ws.labels.map Prod.snd := by
    intro hmem
    obtain ⟨⟨l, _⟩, hl, rfl⟩ := List.mem_map.mp hmem
    simp [h.labelOf?_iff.mpr hl] at hb
  constructor
  · simpa [List.nodup_append, h.names_nodup] using fun l x hx => by
      rintro rfl
      exact hname (List.mem_map.mpr ⟨_, hx, rfl⟩)
  · simpa [List.nodup_append, h.blocks_nodup] using fun x l hl => by
      rintro rfl
      exact hblock (List.mem_map.mpr ⟨_, hl, rfl⟩)

end Paired

/-! ## What edits do to labels -/

/-- **When a label is given**: the block is live and has none, and the text is free.  The pair is
all that is new. -/
lemma setLabel_eq_ok_iff : ws.setLabel b label = .ok ws' ↔
    (ws.hasBlock b = true ∧ ws.labelOf? b = none ∧ ws.labelled? label = none) ∧
      ws' = { ws with labels := ws.labels ++ [(label, b)] } := by
  cases hb : ws.hasBlock b with
  | false => simp [Workspace.setLabel, hb]
  | true =>
      cases hlabel : ws.labelled? label with
      | some x => simp [Workspace.setLabel, hb, hlabel]
      | none =>
          cases hown : ws.labelOf? b with
          | some l => simp [Workspace.setLabel, hb, hlabel, hown]
          | none => simp [Workspace.setLabel, hb, hlabel, hown, eq_comm]

/-- **Every other edit** leaves just the labels of the blocks that are live after it. -/
lemma Reachable.labels_eq_filter (h : ws.Reachable) (hok : ws.apply e = .ok ws')
    (he : ∀ b label, e ≠ .setLabel b label) :
    ws'.labels = ws.labels.filter fun entry => ws'.hasBlock entry.2 := by
  have hlive := h.forest.labels_apply h.hasBlock_of_mem_labels hok
  -- an edit that leaves all labels leaves only labels of live blocks
  have hall : ws'.labels = ws.labels →
      ws'.labels = ws.labels.filter fun entry => ws'.hasBlock entry.2 := by
    intro hsame
    rw [hsame] at hlive ⊢
    exact (List.filter_eq_self.mpr hlive).symm
  cases e with
  | insert spec =>
      cases hok
      exact hall (insert_draft h.forest.toOwned spec).labels
  | setLabel b label => exact absurd rfl (he b label)
  | connect p c =>
      obtain ⟨a, r, b, s, -, -, -, -, -, -, rfl⟩ := connect_eq_ok_iff.mp hok
      exact hall rfl
  | disconnect c =>
      obtain ⟨p, d, a, r, b, s, -, -, -, -, -, rfl⟩ :=
        (disconnect_eq_ok_iff h.forest.toLinked).mp hok
      exact hall rfl
  | dispose b =>
      by_cases hb : ws.hasBlock b = true
      · obtain ⟨after, hdispose, -, hremoved⟩ := h.dispose_removes_subtree hb
        obtain rfl : after = ws' := Except.ok.inj (hdispose.symm.trans hok)
        exact hremoved.labels_eq
      · rw [Workspace.apply, dispose_eq_error hb] at hok
        cases hok

/-- Every edit keeps labels and blocks paired. -/
lemma Reachable.paired_apply (h : ws.Reachable) (hpaired : ws.Paired)
    (hok : ws.apply e = .ok ws') : ws'.Paired := by
  by_cases he : ∃ b label, e = .setLabel b label
  · obtain ⟨b, label, rfl⟩ := he
    obtain ⟨⟨-, hb, hlabel⟩, rfl⟩ := setLabel_eq_ok_iff.mp hok
    exact hpaired.append hlabel hb
  · exact hpaired.of_filter (h.labels_eq_filter hok fun b label heq => he ⟨b, label, heq⟩)

lemma Reachable.paired (h : ws.Reachable) : ws.Paired :=
  h.induction (P := Paired) ⟨List.nodup_nil, List.nodup_nil⟩
    fun _ _ _ hws hpaired hok => hws.paired_apply hpaired hok

/-! ## How long a label stays -/

/-- The edit disposes the block, directly or with a block above it. -/
def Removes (ws : Workspace) (b : BlockId) (e : Edit) : Prop :=
  ∃ a, e = .dispose a ∧ (a = b ∨ a ∈ ws.ancestors b)

/-- **A block outlives an edit** unless the edit removes it. -/
lemma Reachable.hasBlock_applyD_iff (h : ws.Reachable) (hb : ws.hasBlock b = true) :
    (ws.applyD e).hasBlock b = true ↔ ¬ ws.Removes b e := by
  by_cases he : ∃ a, e = .dispose a
  · obtain ⟨a, rfl⟩ := he
    have hremoves : ws.Removes b (.dispose a) ↔ a = b ∨ a ∈ ws.ancestors b := by simp [Removes]
    by_cases ha : ws.hasBlock a = true
    · obtain ⟨after, hdispose, -, hremoved⟩ := h.dispose_removes_subtree ha
      have hafter : ws.applyD (.dispose a) = after := by
        rw [Workspace.applyD, Workspace.apply, hdispose]
      rw [hafter, hremoved.block_iff, hremoves, h.forest.mem_ancestors_iff]
      simp [hb, eq_comm]
    · -- a block that is not live is neither the block nor above it
      have hafter : ws.applyD (.dispose a) = ws := by
        rw [Workspace.applyD, Workspace.apply, dispose_eq_error ha]
      have hrises : ¬ Rises ws.parent? b a := fun hba => ha (h.forest.hasBlock_of_rises hb hba)
      rw [hafter, hremoves, ← h.forest.rises_iff_mem_ancestors]
      simp [hb, hrises]
  · have hlive := h.forest.has_applyD (o := .block b) (e := e) hb fun a ha => he ⟨a, ha⟩
    have hstays : ¬ ws.Removes b e := by
      rintro ⟨a, ha, -⟩
      exact he ⟨a, ha⟩
    exact iff_of_true hlive hstays

/-- **Whom a label belongs to after one edit**: the same block if that is live, and else nobody. -/
theorem Reachable.labelled_applyD (h : ws.Reachable) (hlabel : ws.labelled? label = some b) :
    (ws.applyD e).labelled? label = if (ws.applyD e).hasBlock b then some b else none := by
  have hmem := h.paired.labelled?_iff.mp hlabel
  have hpaired := (h.applyD e).paired
  split
  case isTrue hlive =>
    rw [hpaired.labelled?_iff]
    rcases applyD_eq ws e with hsame | hok
    · rwa [hsame]
    by_cases he : ∃ b label, e = .setLabel b label
    · obtain ⟨x, l, rfl⟩ := he
      rw [(setLabel_eq_ok_iff.mp hok).2]
      exact List.mem_append_left _ hmem
    · rw [h.labels_eq_filter hok fun b label heq => he ⟨b, label, heq⟩, List.mem_filter]
      exact ⟨hmem, hlive⟩
  case isFalse hgone =>
    rw [Option.eq_none_iff_forall_ne_some]
    intro x hx
    have hxmem := hpaired.labelled?_iff.mp hx
    have hxlive : (ws.applyD e).hasBlock x = true := (h.applyD e).hasBlock_of_label hx
    rcases applyD_eq ws e with hsame | hok
    · rw [hsame] at hgone
      exact hgone (h.hasBlock_of_label hlabel)
    by_cases he : ∃ b label, e = .setLabel b label
    · obtain ⟨y, l, rfl⟩ := he
      exact hgone (h.forest.has_applyD (o := .block b) (h.hasBlock_of_label hlabel) (by simp))
    · rw [h.labels_eq_filter hok fun b label heq => he ⟨b, label, heq⟩, List.mem_filter] at hxmem
      have hsame := h.paired.labelled?_iff.mpr hxmem.1
      rw [hlabel, Option.some.injEq] at hsame
      exact hgone (hsame ▸ hxlive)

/-- **Whom a label belongs to after a row of edits**: the same block for as long as that is live. -/
theorem Reachable.labelled_applyAll (h : ws.Reachable) (hlabel : ws.labelled? label = some b)
    (edits : List Edit) (hlive : (ws.applyAll edits).hasBlock b = true) :
    (ws.applyAll edits).labelled? label = some b := by
  induction edits generalizing ws with
  | nil => exact hlabel
  | cons e edits ih =>
      have hissued : b.index < (ws.applyD e).blocks.size :=
        (index_lt_of_hasBlock (h.hasBlock_of_label hlabel)).trans_le
          (evolves_applyD h.forest e).blocks_le
      have hmid : (ws.applyD e).hasBlock b = true :=
        ((h.applyD e).evolves_applyAll edits).hasBlock_of hissued hlive
      refine ih (h.applyD e) ?_ hlive
      rw [h.labelled_applyD hlabel, if_pos hmid]

/-- A label has been free by the end of a row of edits just if its block has not outlived them. -/
lemma Reachable.freed_iff (h : ws.Reachable) (hlabel : ws.labelled? label = some b)
    (edits : List Edit) : (ws.applyAll edits).hasBlock b = false ↔
      ∃ before after, edits = before ++ after ∧ (ws.applyAll before).labelled? label = none := by
  constructor
  · intro hgone
    -- the label is free right after the first edit that the block does not outlive
    induction edits generalizing ws with
    | nil =>
        have hlive : ws.hasBlock b = true := h.hasBlock_of_label hlabel
        simp [Workspace.applyAll, hlive] at hgone
    | cons e edits ih =>
        have hnext := h.labelled_applyD (e := e) hlabel
        cases hmid : (ws.applyD e).hasBlock b with
        | true =>
            rw [hmid, if_pos rfl] at hnext
            obtain ⟨before, after, rfl, hfree⟩ := ih (h.applyD e) hnext hgone
            exact ⟨e :: before, after, rfl, hfree⟩
        | false =>
            rw [hmid, if_neg (by simp)] at hnext
            exact ⟨[e], edits, rfl, hnext⟩
  · rintro ⟨before, after, rfl, hfree⟩
    rw [Bool.eq_false_iff]
    intro hlive
    rw [applyAll_append] at hlive
    have hissued : b.index < (ws.applyAll before).blocks.size :=
      (index_lt_of_hasBlock (h.hasBlock_of_label hlabel)).trans_le
        (h.evolves_applyAll before).blocks_le
    have hbefore := ((h.applyAll before).evolves_applyAll after).hasBlock_of hissued hlive
    simp [h.labelled_applyAll hlabel before hbefore] at hfree

/-! ## All together -/

/-- **Labels and labelled blocks are paired off.** -/
structure LabelsOneToOne (ws : Workspace) : Prop where
  /-- The label of a block is the label that finds the block. -/
  both_ways : ∀ b label, ws.labelOf? b = some label ↔ ws.labelled? label = some b
  /-- A label finds a live block, so it makes no difference to ask for one. -/
  live : ∀ label, (ws.labelled? label).filter ws.hasBlock = ws.labelled? label
  /-- Both answers are the same in whatever order the labels are kept. -/
  any_order : ∀ labels : List (String × BlockId), labels.Perm ws.labels →
    (∀ b, ({ ws with labels } : Workspace).labelOf? b = ws.labelOf? b) ∧
      ∀ label, ({ ws with labels } : Workspace).labelled? label = ws.labelled? label
  /-- A label can be given to a live block without one if the text is free, and not otherwise. -/
  set_iff : ∀ b label, (∃ after, ws.setLabel b label = .ok after) ↔
    ws.hasBlock b = true ∧ ws.labelOf? b = none ∧ ws.labelled? label = none
  /-- Giving a label changes that label and no other, and nothing but labels. -/
  set_eq : ∀ b label after, ws.setLabel b label = .ok after →
    after = { ws with labels := after.labels } ∧
      (∀ l, after.labelled? l = if l = label then some b else ws.labelled? l) ∧
      ∀ x, after.labelOf? x = if x = b then some label else ws.labelOf? x
  /-- An edit sets a label free just if it removes the block, alone or with one that it is part of;
  else the label stays where it is. -/
  freed_iff : ∀ b label e, ws.labelled? label = some b →
    ((ws.applyD e).labelled? label = none ↔ ws.Removes b e) ∧
    ((ws.applyD e).labelled? label = some b ↔ ¬ ws.Removes b e)
  /-- Along a row of edits the label stays with the block for as long as that is live, and it has
  been free by the end just if the block is not. -/
  freed_along : ∀ b label edits, ws.labelled? label = some b →
    ((ws.applyAll edits).labelled? label = some b ↔ (ws.applyAll edits).hasBlock b = true) ∧
    ((ws.applyAll edits).hasBlock b = false ↔
      ∃ before after, edits = before ++ after ∧ (ws.applyAll before).labelled? label = none)

/-- **Labels and labelled blocks are paired off** in every reachable workspace. -/
theorem Reachable.labels_one_to_one (h : ws.Reachable) : ws.LabelsOneToOne where
  both_ways b label := by rw [h.paired.labelOf?_iff, h.paired.labelled?_iff]
  live label := by
    cases hfound : ws.labelled? label with
    | none => rfl
    | some b => simp [Option.filter, h.hasBlock_of_label hfound]
  any_order labels hperm := by
    have hpaired := h.paired.of_perm hperm
    constructor
    · intro b
      ext label
      rw [hpaired.labelOf?_iff, h.paired.labelOf?_iff, hperm.mem_iff]
    · intro label
      ext b
      rw [hpaired.labelled?_iff, h.paired.labelled?_iff, hperm.mem_iff]
  set_iff b label := by simp [setLabel_eq_ok_iff]
  set_eq b label after hok := by
    obtain ⟨⟨-, hb, hlabel⟩, rfl⟩ := setLabel_eq_ok_iff.mp hok
    have hpaired := h.paired.append hlabel hb
    refine ⟨rfl, fun l => ?_, fun x => ?_⟩
    · ext y
      rw [hpaired.labelled?_iff, List.mem_append, ← h.paired.labelled?_iff]
      by_cases hl : l = label
      · simp [hl, hlabel, eq_comm]
      · simp [hl]
    · ext l
      rw [hpaired.labelOf?_iff, List.mem_append, ← h.paired.labelOf?_iff]
      by_cases hx : x = b
      · simp [hx, hb, eq_comm]
      · simp [hx]
  freed_iff b label e hlabel := by
    have hgone := h.hasBlock_applyD_iff (e := e) (h.hasBlock_of_label hlabel)
    rw [h.labelled_applyD hlabel]
    by_cases he : ws.Removes b e
    · simp [hgone, he]
    · simp [hgone, he]
  freed_along b label edits hlabel :=
    ⟨⟨fun hlater => (h.applyAll edits).hasBlock_of_label hlater,
      h.labelled_applyAll hlabel edits⟩, h.freed_iff hlabel edits⟩

/-- A loop with a labelled block in its body, and a block beside it. -/
def labelledEdits : List Edit :=
  [.insert ⟨"loop", false, true, false, [⟨"body", .statement, []⟩]⟩,
    .insert ⟨"inner", true, false, false, []⟩, .insert ⟨"beside", true, true, false, []⟩,
    .setLabel ⟨0⟩ "outer", .setLabel ⟨1⟩ "held", .connect ⟨1⟩ ⟨2⟩]

/-- The label in the body is taken while the loop is there, whatever happens to the block beside it,
and goes to that block once the loop has been disposed. -/
theorem label_passed_on :
    (∀ after, (applyAll empty labelledEdits).setLabel ⟨2⟩ "held" ≠ .ok after) ∧
    ((applyAll empty labelledEdits).applyD (.dispose ⟨2⟩)).labelled? "held" = some ⟨1⟩ ∧
    ∃ after, ((applyAll empty labelledEdits).applyD (.dispose ⟨0⟩)).setLabel ⟨2⟩ "held" =
      .ok after ∧ after.labelOf? ⟨2⟩ = some "held" := by
  have hreach : (applyAll empty labelledEdits).Reachable := ⟨labelledEdits, rfl⟩
  have hlabels := hreach.labels_one_to_one
  have hheld : (applyAll empty labelledEdits).labelled? "held" = some ⟨1⟩ := by decide
  have hwhole : (applyAll empty labelledEdits).Removes ⟨1⟩ (.dispose ⟨0⟩) :=
    ⟨⟨0⟩, rfl, Or.inr (by decide)⟩
  have hbeside : ¬ (applyAll empty labelledEdits).Removes ⟨1⟩ (.dispose ⟨2⟩) := by
    rintro ⟨a, ha, habove⟩
    cases ha
    revert habove
    decide
  refine ⟨fun after hok => ?_, ((hlabels.freed_iff ⟨1⟩ "held" _ hheld).2).mpr hbeside, ?_⟩
  · have hfree := ((hlabels.set_iff ⟨2⟩ "held").mp ⟨after, hok⟩).2.2
    rw [hheld] at hfree
    cases hfree
  · have hafter := Reachable.labels_one_to_one (hreach.applyD (.dispose ⟨0⟩))
    have hfree := ((hlabels.freed_iff ⟨1⟩ "held" _ hheld).1).mpr hwhole
    obtain ⟨after, hok⟩ := (hafter.set_iff ⟨2⟩ "held").mpr ⟨by decide, by decide, hfree⟩
    exact ⟨after, hok, by rw [(hafter.set_eq _ _ _ hok).2.2, if_pos rfl]⟩

end BlockCursor.Workspace
