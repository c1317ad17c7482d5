import BlockCursor.Proofs.Workspace.Consistency

/-!
# Lifetimes

A number is given out once.  Edits may change links, tops and labels, and they may remove objects,
but what is live under a number that was given out before is what was live under it before.

* `Workspace.Evolves` — this relation between a workspace and a later one, with `Evolves.refl` and
  `Evolves.trans`.
* **`evolves_apply`** — every edit is such a step.
* `Evolves.kind?_eq`, `Evolves.isEditable_eq` — what therefore stays the same of an object.
* **`Reachable.hasBlock_of_label`** — labels are carried by live blocks.
-/

namespace BlockCursor.Workspace

variable {ws ws' : Workspace} {b : BlockId} {c : ConnectionId} {i : InputId} {f : FieldId}

/-- Numbers stay given out, and what is live later under one of them was live before. -/
structure Evolves (ws ws' : Workspace) : Prop where
  block : ∀ b x, b.index < ws.blocks.size → ws'.block? b = some x → ws.block? b = some x
  input : ∀ i x, i.index < ws.inputs.size → ws'.input? i = some x → ws.input? i = some x
  place : ∀ c q, c.index < ws.connections.size → ws'.place? c = some q → ws.place? c = some q
  field : ∀ f x, f.index < ws.fields.size → ws'.field? f = some x → ws.field? f = some x
  blocks_le : ws.blocks.size ≤ ws'.blocks.size
  inputs_le : ws.inputs.size ≤ ws'.inputs.size
  connections_le : ws.connections.size ≤ ws'.connections.size
  fields_le : ws.fields.size ≤ ws'.fields.size

namespace Evolves

lemma refl (ws : Workspace) : ws.Evolves ws where
  block _ _ _ := id
  input _ _ _ := id
  place _ _ _ := id
  field _ _ _ := id
  blocks_le := le_rfl
  inputs_le := le_rfl
  connections_le := le_rfl
  fields_le := le_rfl

lemma trans {ws'' : Workspace} (h : ws.Evolves ws') (h' : ws'.Evolves ws'') :
    ws.Evolves ws'' where
  block b x hb hx := h.block b x hb (h'.block b x (hb.trans_le h.blocks_le) hx)
  input i x hi hx := h.input i x hi (h'.input i x (hi.trans_le h.inputs_le) hx)
  place c q hc hq := h.place c q hc (h'.place c q (hc.trans_le h.connections_le) hq)
  field f x hf hx := h.field f x hf (h'.field f x (hf.trans_le h.fields_le) hx)
  blocks_le := h.blocks_le.trans h'.blocks_le
  inputs_le := h.inputs_le.trans h'.inputs_le
  connections_le := h.connections_le.trans h'.connections_le
  fields_le := h.fields_le.trans h'.fields_le

end Evolves

/-! ## Every edit -/

/-- Giving out more numbers leaves those given out alone. -/
lemma Grows.evolves (h : ws.Grows ws') : ws.Evolves ws' where
  block b x hb hx := by rwa [h.block b hb] at hx
  input i x hi hx := by rwa [h.input i hi] at hx
  place c q hc hq := by
    rw [place?, h.connection c hc] at hq
    exact hq
  field f x hf hx := by rwa [h.field f hf] at hx
  blocks_le := h.blocks_le
  inputs_le := h.inputs_le
  connections_le := h.connections_le
  fields_le := h.fields_le

/-- An edit of links, tops and labels alone leaves the objects alone. -/
lemma SameObjects.evolves (h : ws.SameObjects ws') (hblocks : ws'.blocks.size = ws.blocks.size)
    (hinputs : ws'.inputs.size = ws.inputs.size)
    (hconnections : ws'.connections.size = ws.connections.size)
    (hfields : ws'.fields.size = ws.fields.size) : ws.Evolves ws' where
  block b x _ hx := by rwa [h.block] at hx
  input i x _ hx := by rwa [h.input] at hx
  place c q _ hq := by rwa [h.place] at hq
  field f x _ hx := by rwa [h.field] at hx
  blocks_le := hblocks.ge
  inputs_le := hinputs.ge
  connections_le := hconnections.ge
  fields_le := hfields.ge

/-- Removing blocks gives no number a new meaning. -/
lemma evolves_without (ws : Workspace) (gone : List BlockId) : ws.Evolves (ws.without gone) where
  block _ _ _ hx := (block?_without.mp hx).1
  input _ _ _ hx := (input?_without.mp hx).1
  place _ _ _ hq := (place?_without.mp hq).1
  field _ _ _ hx := (field?_without.mp hx).1
  blocks_le := (Arena.size_keep _ _).ge
  inputs_le := (Arena.size_keep _ _).ge
  connections_le := (Arena.size_keep _ _).ge
  fields_le := (Arena.size_keep _ _).ge

lemma evolves_disconnect (h : ws.Linked) (hok : ws.disconnect c = .ok ws') : ws.Evolves ws' := by
  obtain ⟨p, d, a, r, b, s, -, -, -, -, -, rfl⟩ := (disconnect_eq_ok_iff h).mp hok
  exact (sameObjects_unlink ws p d b).evolves rfl rfl (onlyRelinked_unlink ws p d b).size rfl

lemma evolves_releases (h : ws.Forest) (hrel : Releases ws ws') : ws.Evolves ws' := by
  induction hrel with
  | refl => exact .refl ws
  | @tail mid ws' hmid hstep ih =>
      obtain ⟨c, hok⟩ := hstep
      exact ih.trans (evolves_disconnect (h.releases hmid).toLinked hok)

/-- **No edit gives a number a new meaning.** -/
theorem evolves_apply (h : ws.Forest) {e : Edit} (hok : ws.apply e = .ok ws') :
    ws.Evolves ws' := by
  cases e with
  | insert spec =>
      cases hok
      exact (insert_draft h.toOwned spec).grows.evolves
  | setLabel b label =>
      obtain ⟨-, rfl⟩ := setLabel_eq_ok hok
      exact (sameObjects_setLabel ws label b).evolves rfl rfl rfl rfl
  | connect p c =>
      obtain ⟨a, r, b, s, -, -, -, -, -, -, rfl⟩ := connect_eq_ok_iff.mp hok
      exact (sameObjects_link ws p c b).evolves rfl rfl (onlyRelinked_link ws p c b).size rfl
  | disconnect c => exact evolves_disconnect h.toLinked hok
  | dispose b =>
      by_cases hb : ws.hasBlock b = true
      · obtain ⟨mid, hrel, -, heq⟩ := dispose_eq_ok h hb
        rw [Workspace.apply, heq] at hok
        cases hok
        exact (evolves_releases h hrel).trans (evolves_without mid _)
      · rw [Workspace.apply, dispose_eq_error hb] at hok
        cases hok

/-- Refused or not, an edit gives no number a new meaning. -/
lemma evolves_applyD (h : ws.Forest) (e : Edit) : ws.Evolves (ws.applyD e) := by
  rcases applyD_eq ws e with hsame | hok
  · rw [hsame]
    exact .refl ws
  · exact evolves_apply h hok

/-! ## What stays the same of an object -/

namespace Evolves

variable (h : ws.Evolves ws')
include h

lemma hasBlock_of (hb : b.index < ws.blocks.size) (hlive : ws'.hasBlock b = true) :
    ws.hasBlock b = true := by
  obtain ⟨x, hx⟩ := Option.isSome_iff_exists.mp hlive
  rw [hasBlock, h.block b x hb hx]
  rfl

lemma place?_eq (hc : c.index < ws.connections.size) (hlive : ws'.hasConnection c = true) :
    ws'.place? c = ws.place? c := by
  rw [hasConnection_eq, Option.isSome_iff_exists] at hlive
  obtain ⟨q, hq⟩ := hlive
  rw [hq, h.place c q hc hq]

lemma kind?_eq (hc : c.index < ws.connections.size) (hlive : ws'.hasConnection c = true) :
    ws'.kind? c = ws.kind? c := by
  rw [Workspace.kind?_eq, Workspace.kind?_eq, h.place?_eq hc hlive]

lemma inputKind?_eq (hi : i.index < ws.inputs.size) (hlive : ws'.hasInput i = true) :
    ws'.inputKind? i = ws.inputKind? i := by
  obtain ⟨x, hx⟩ := Option.isSome_iff_exists.mp hlive
  rw [inputKind?, inputKind?, hx, h.input i x hi hx]

lemma field?_eq (hf : f.index < ws.fields.size) (hlive : ws'.hasField f = true) :
    ws'.field? f = ws.field? f := by
  obtain ⟨x, hx⟩ := Option.isSome_iff_exists.mp hlive
  rw [hx, h.field f x hf hx]

end Evolves

/-! ## Labels -/

/-- Releasing a block leaves all labels as they are. -/
lemma Forest.labels_releases (h : ws.Forest) (hrel : Releases ws ws') :
    ws'.labels = ws.labels := by
  induction hrel with
  | refl => rfl
  | @tail mid ws' hmid hstep ih =>
      obtain ⟨c, hok⟩ := hstep
      obtain ⟨p, d, a, r, b, s, -, -, -, -, -, rfl⟩ :=
        (disconnect_eq_ok_iff (h.releases hmid).toLinked).mp hok
      exact ih

/-- Labels stay with live blocks under every edit. -/
lemma Forest.labels_apply (h : ws.Forest) (hlive : ∀ e ∈ ws.labels, ws.hasBlock e.2 = true)
    {e : Edit} (hok : ws.apply e = .ok ws') : ∀ e ∈ ws'.labels, ws'.hasBlock e.2 = true := by
  cases e with
  | insert spec =>
      cases hok
      have hins := insert_draft h.toOwned spec
      intro entry hentry
      rw [hins.labels] at hentry
      have hold := hlive entry hentry
      rw [hasBlock, hins.grows.block _ (index_lt_of_hasBlock hold)]
      exact hold
  | setLabel b label =>
      obtain ⟨hb, rfl⟩ := setLabel_eq_ok hok
      intro entry hentry
      rcases List.mem_append.mp hentry with hentry | hentry
      · exact hlive entry hentry
      · rw [List.mem_singleton.mp hentry]
        exact hb
  | connect p c =>
      obtain ⟨a, r, b, s, -, -, -, -, -, -, rfl⟩ := connect_eq_ok_iff.mp hok
      intro entry hentry
      rw [(sameObjects_link ws p c b).hasBlock]
      exact hlive entry hentry
  | disconnect c =>
      obtain ⟨p, d, a, r, b, s, -, -, -, -, -, rfl⟩ := (disconnect_eq_ok_iff h.toLinked).mp hok
      intro entry hentry
      rw [(sameObjects_unlink ws p d b).hasBlock]
      exact hlive entry hentry
  | dispose b =>
      by_cases hb : ws.hasBlock b = true
      · obtain ⟨mid, hrel, -, heq⟩ := dispose_eq_ok h hb
        rw [Workspace.apply, heq] at hok
        cases hok
        intro entry hentry
        obtain ⟨hmem, hstays⟩ := List.mem_filter.mp hentry
        rw [h.labels_releases hrel] at hmem
        rw [hasBlock_without, (h.sameObjects_releases hrel).hasBlock]
        exact ⟨hlive entry hmem, by simpa using hstays⟩
      · rw [Workspace.apply, dispose_eq_error hb] at hok
        cases hok

/-- Every label in use is on a live block. -/
lemma Reachable.hasBlock_of_mem_labels (h : ws.Reachable) :
    ∀ e ∈ ws.labels, ws.hasBlock e.2 = true := by
  refine h.induction (P := fun ws => ∀ e ∈ ws.labels, ws.hasBlock e.2 = true) ?_ ?_
  · intro e he
    cases he
  · intro ws e ws' hws hlive hok
    exact hws.forest.labels_apply hlive hok

/-- **Labels are carried by live blocks.** -/
theorem Reachable.hasBlock_of_label (h : ws.Reachable) {label : String}
    (hb : ws.labelled? label = some b) : ws.hasBlock b = true := by
  obtain ⟨entry, hentry, rfl⟩ := Option.map_eq_some_iff.mp hb
  exact h.hasBlock_of_mem_labels entry (List.mem_of_find?_eq_some hentry)

end BlockCursor.Workspace
