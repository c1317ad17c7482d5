import BlockCursor.Proofs.Workspace.Disposed
import BlockCursor.Proofs.Workspace.Inserted
import BlockCursor.Workspace.History
import Mathlib.Data.List.Induction

/-!
# Reachable workspaces are consistent

Every edit keeps a forest, refused edits change nothing, and so every workspace that a row of edits
leads to is a forest.  `Consistent` says what that means for the queries of a workspace, without the
vocabulary of the invariant.

* `Forest.apply` — one edit.
* `Reachable.induction` — what holds of the empty workspace and is kept by every edit holds of
  every reachable workspace.
* **`Reachable.forest`** — a whole row of edits.
* **`Reachable.consistent`** — links, owners and tops fit together.
-/

namespace BlockCursor.Workspace

variable {ws ws' : Workspace} {a b : BlockId} {c d p : ConnectionId} {i : InputId} {f : FieldId}

/-! ## One edit and many -/

/-- **Every edit that succeeds keeps a forest.** -/
theorem Forest.apply (h : ws.Forest) {e : Edit} (hok : ws.apply e = .ok ws') : ws'.Forest := by
  cases e with
  | insert spec =>
      cases hok
      exact h.insert spec
  | setLabel b label => exact h.setLabel hok
  | connect p c => exact h.connect hok
  | disconnect c => exact h.disconnect hok
  | dispose b => exact h.dispose hok

/-- What an edit does that is refused or succeeds. -/
lemma applyD_eq (ws : Workspace) (e : Edit) :
    ws.applyD e = ws ∨ ws.apply e = .ok (ws.applyD e) := by
  rw [applyD]
  cases ws.apply e with
  | error _ => exact Or.inl rfl
  | ok after => exact Or.inr rfl

/-- **What every edit keeps holds of every reachable workspace.** -/
theorem Reachable.induction {P : Workspace → Prop} (hempty : P empty)
    (hstep : ∀ (ws : Workspace) (e : Edit) (ws' : Workspace),
      ws.Reachable → P ws → ws.apply e = .ok ws' → P ws')
    (h : ws.Reachable) : P ws := by
  obtain ⟨edits, rfl⟩ := h
  -- one more edit at the end of the row
  induction edits using List.reverseRecOn with
  | nil => exact hempty
  | append_singleton edits e ih =>
      have hlast : applyAll empty (edits ++ [e]) = (applyAll empty edits).applyD e := by
        simp [applyAll]
      rw [hlast]
      rcases applyD_eq (applyAll empty edits) e with hsame | hok
      · rw [hsame]
        exact ih
      · exact hstep _ e _ ⟨edits, rfl⟩ ih hok

/-- **Every reachable workspace is a forest.** -/
theorem Reachable.forest (h : ws.Reachable) : ws.Forest :=
  h.induction forest_empty fun _ _ _ _ hws hok => hws.apply hok

/-! ## Consistency -/

/-- Whether a link may lead from the connection `p` down to the connection `c`: from next to
previous, from a statement socket to previous, or from a value socket to output. -/
def Joins (ws : Workspace) (p c : ConnectionId) : Prop :=
  (ws.kind? p = some .next ∧ ws.kind? c = some .previous) ∨
  (∃ i, ws.socket? i = some p ∧ ws.inputKind? i = some .statement ∧ ws.kind? c = some .previous) ∨
  (∃ i, ws.socket? i = some p ∧ ws.inputKind? i = some .value ∧ ws.kind? c = some .output)

/-- **Links, owners and tops of a workspace fit together.** -/
structure Consistent (ws : Workspace) : Prop where
  /-- Links go both ways. -/
  target_symm : ∀ c d, ws.target? c = some d → ws.target? d = some c
  /-- Both ends of a link are live. -/
  target_live : ∀ c d, ws.target? c = some d →
    ws.hasConnection c = true ∧ ws.hasConnection d = true
  /-- One end of a link is of a kind that the other end can hang from. -/
  target_kinds : ∀ c d, ws.target? c = some d → ws.Joins c d ∨ ws.Joins d c
  /-- A connection that a block lists is live and names the block, the kind and the input. -/
  connection_back : ∀ b r c, ws.listed? b r = some c → ws.hasConnection c = true ∧
    ws.owner? c = some b ∧ ws.kind? c = some r.kind ∧ ws.parentInput? c = r.input?
  /-- An input that a block lists is live and names the block. -/
  input_back : ∀ b i, i ∈ ws.inputsOf b → ws.hasInput i = true ∧ ws.inputBlock? i = some b
  /-- A field that an input lists is live and names the input. -/
  field_back : ∀ i f, f ∈ ws.fieldsOf i → ws.hasField f = true ∧ ws.fieldInput? f = some i
  /-- A live connection is listed by one live block, in one role. -/
  connection_listed : ∀ c, ws.hasConnection c = true →
    ∃! q : BlockId × Role, ws.hasBlock q.1 = true ∧ ws.listed? q.1 q.2 = some c
  /-- A live input is listed by one live block, once. -/
  input_listed : ∀ i, ws.hasInput i = true →
    ∃! b, ws.hasBlock b = true ∧ (ws.inputsOf b).count i = 1
  /-- A live field is listed by one live input, once. -/
  field_listed : ∀ f, ws.hasField f = true →
    ∃! i, ws.hasInput i = true ∧ (ws.fieldsOf i).count f = 1
  /-- An input has a socket just when it is no dummy. -/
  socket_live : ∀ i, ws.hasInput i = true →
    ((ws.socket? i).isSome = true ↔ ws.inputKind? i ≠ some .dummy)
  /-- A block does not hang by both its previous and its output connection. -/
  one_up : ∀ b c d, ws.previous? b = some c → ws.output? b = some d →
    ws.target? c = none ∨ ws.target? d = none
  /-- Going up from a block never comes back to it. -/
  no_revisit : ∀ b, ¬ Relation.TransGen (fun x y => ws.parent? x = some y) b b
  /-- Going up from a live block ends, at its root, which is a top. -/
  root : ∀ b, ws.hasBlock b = true →
    ∃ t ∈ ws.tops, ws.root? b = some t ∧ Rises ws.parent? b t ∧ ws.parent? t = none
  /-- The tops are the live blocks without a parent, each once. -/
  tops : ∀ b, ws.tops.count b = if ws.hasBlock b = true ∧ ws.parent? b = none then 1 else 0

/-- The roles of a link that fits, read as kinds. -/
lemma Owned.joins (h : ws.Owned) {r s : Role} (hp : ws.place? p = some (a, r))
    (hc : ws.place? c = some (b, s)) (hfit : ws.roleFits r s = true) : ws.Joins p c := by
  have hkind : ∀ {x u q}, ws.place? x = some (u, q) → ws.kind? x = some q.kind := by
    intro x u q hx
    rw [kind?_eq, hx]
    rfl
  rcases roleFits_iff.mp hfit with ⟨rfl, rfl⟩ | ⟨i, rfl, rfl, hi⟩ | ⟨i, rfl, rfl, hi⟩
  · exact Or.inl ⟨hkind hp, hkind hc⟩
  · exact Or.inr (Or.inl ⟨i, (h.socket_of_place hp).2, hi, hkind hc⟩)
  · exact Or.inr (Or.inr ⟨i, (h.socket_of_place hp).2, hi, hkind hc⟩)

/-- What names an owner of its sort is listed by just that owner, once. -/
lemma existsUnique_count {α β : Type} [DecidableEq β] {owner : Option α} {live : α → Prop}
    {row : α → List β} {x : β} (hsome : owner.isSome = true)
    (hmem : ∀ u, x ∈ row u ↔ owner = some u) (hlive : ∀ u, x ∈ row u → live u)
    (hnodup : ∀ u, (row u).Nodup) : ∃! u, live u ∧ (row u).count x = 1 := by
  obtain ⟨u, hu⟩ := Option.isSome_iff_exists.mp hsome
  have hx := (hmem u).mpr hu
  refine ⟨u, ⟨hlive u hx, List.count_eq_one_of_mem (hnodup u) hx⟩, ?_⟩
  rintro v ⟨-, hv⟩
  have hxv : x ∈ row v := List.count_pos_iff.mp (by omega)
  exact Option.some.inj (((hmem v).mp hxv).symm.trans hu)

/-- **A forest is consistent.** -/
theorem Forest.toConsistent (h : ws.Forest) : ws.Consistent where
  target_symm := h.symm
  target_live c d hcd := by
    obtain ⟨a, r, hc⟩ := exists_place_of_target hcd
    obtain ⟨b, s, hd⟩ := exists_place_of_target (h.symm c d hcd)
    exact ⟨hasConnection_of_place hc, hasConnection_of_place hd⟩
  target_kinds c d hcd := by
    obtain ⟨a, r, hc⟩ := exists_place_of_target hcd
    obtain ⟨b, s, hd⟩ := exists_place_of_target (h.symm c d hcd)
    exact (h.fit c d a b r s hcd hc hd).imp (h.joins hc hd) (h.joins hd hc)
  connection_back b r c hc := by
    have hplace := (h.listed_iff b r c).mp hc
    rw [hasConnection_eq, owner?_eq, kind?_eq, parentInput?_eq, hplace]
    exact ⟨rfl, rfl, rfl, rfl⟩
  input_back b i hi := by
    have hback := (h.input_iff b i).mp hi
    exact ⟨hasInput_of_inputBlock hback, hback⟩
  field_back i f hf := by
    have hback := (h.field_iff i f).mp hf
    exact ⟨hasField_of_fieldInput hback, hback⟩
  connection_listed c hc := by
    rw [hasConnection_eq, Option.isSome_iff_exists] at hc
    obtain ⟨⟨b, r⟩, hplace⟩ := hc
    have hlisted := (h.listed_iff b r c).mpr hplace
    refine ⟨(b, r), ⟨hasBlock_of_listed hlisted, hlisted⟩, ?_⟩
    rintro ⟨b', r'⟩ ⟨-, hlisted'⟩
    have hplace' := (h.listed_iff b' r' c).mp hlisted'
    exact Option.some.inj (hplace'.symm.trans hplace)
  input_listed i hi := by
    have hsome : (ws.inputBlock? i).isSome = true := by rwa [inputBlock?, Option.isSome_map]
    exact existsUnique_count hsome (fun b => h.input_iff b i)
      (fun b => hasBlock_of_mem_inputs) h.inputs_nodup
  field_listed f hf := by
    have hsome : (ws.fieldInput? f).isSome = true := by rwa [fieldInput?, Option.isSome_map]
    exact existsUnique_count hsome (fun i => h.field_iff i f)
      (fun i => hasInput_of_mem_fields) h.fields_nodup
  socket_live i hi := by
    obtain ⟨x, hx⟩ := Option.isSome_iff_exists.mp hi
    rw [h.socket_isSome, inputKind?, hx]
    cases hkind : x.kind <;> simp [hkind, InputKind.hasSocket]
  one_up _ _ _ hc hd := h.target_eq_none_or hc hd
  no_revisit := h.grounded.irrefl
  root b hb := by
    obtain ⟨t, ht⟩ := h.exists_root hb
    exact ⟨t, h.root_mem_tops ht, ht, (h.root_iff.mp ht).2⟩
  tops b := by
    rw [h.tops_nodup.count]
    simp only [h.mem_tops_iff]

/-- **Every reachable workspace is consistent**, whatever the edits were and whichever of them were
refused. -/
theorem Reachable.consistent (h : ws.Reachable) : ws.Consistent :=
  h.forest.toConsistent

/-- A workspace that a link, a refused link and a disposal lead to. -/
theorem consistent_after_refusal : (applyAll empty
    [.insert ⟨"first", false, true, false, []⟩, .insert ⟨"second", true, true, false, []⟩,
      .connect ⟨0⟩ ⟨1⟩, .connect ⟨2⟩ ⟨1⟩, .dispose ⟨1⟩]).Consistent :=
  Reachable.consistent ⟨_, rfl⟩

end BlockCursor.Workspace
