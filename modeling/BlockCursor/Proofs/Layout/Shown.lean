import BlockCursor.Proofs.Layout.Valid
import BlockCursor.Proofs.Workspace.Contents
import BlockCursor.Proofs.Workspace.Relinked

/-!
# Workspaces under construction

Building only ever adds blocks, gives a label to the newest block and hangs a newer block from an
older one.  So a workspace under construction is a forest in which numbers grow downward, and what
is finished in it stays as it is, whatever is built after it.

* `Workspace.Orderly` — the invariant of building.
* `Workspace.Keeps` — what stays, apart from the places that are still open.
* `Workspace.Shows` — the queries find a block of a layout, with all that it holds, from a number
  on; `Workspace.ShowsInputs` and `Workspace.ShowsChain` say so for rows of inputs and for chains.
* **`Orderly.connect`** — hanging a newer top from an older block always succeeds if the roles fit.
-/

namespace BlockCursor.Workspace

variable {ws ws' ws'' : Workspace} {a b x : BlockId} {c d p : ConnectionId} {i : InputId}
  {r s : Role} {K K' : BlockId → Role → Prop}

/-! ## The invariant -/

/-- The labels in use. -/
def names (ws : Workspace) : List String :=
  ws.labels.map Prod.fst

/-- A forest in which every block hangs from one with a smaller number, no label is in use twice,
and only live blocks carry labels. -/
structure Orderly (ws : Workspace) : Prop extends Forest ws where
  parent_lt : ∀ b a, ws.parent? b = some a → a.index < b.index
  names_nodup : ws.names.Nodup
  hasBlock_of_label : ∀ entry ∈ ws.labels, ws.hasBlock entry.2 = true

lemma orderly_empty : Orderly empty where
  toForest := forest_empty
  parent_lt b a hb := by simp [parent?, previous?, output?, block?, empty] at hb
  names_nodup := List.nodup_nil
  hasBlock_of_label entry hentry := by cases hentry

/-- What is above a block has a smaller number. -/
lemma Orderly.index_le_of_rises (h : ws.Orderly) (hba : Rises ws.parent? b a) :
    a.index ≤ b.index := by
  induction hba with
  | refl => exact le_rfl
  | tail _ hstep ih => exact (h.parent_lt _ _ hstep).le.trans ih

/-- A block with a number to come has no label yet. -/
lemma Orderly.labelOf_eq_none (h : ws.Orderly) (hb : ws.hasBlock b = false) :
    ws.labelOf? b = none := by
  rw [labelOf?, Option.map_eq_none_iff, List.find?_eq_none]
  intro entry hentry heq
  have hlive := h.hasBlock_of_label entry hentry
  rw [beq_iff_eq.mp heq, hb] at hlive
  cases hlive

lemma labelled?_isSome_iff (ws : Workspace) (label : String) :
    (ws.labelled? label).isSome = true ↔ label ∈ ws.names := by
  simp [labelled?, names, List.find?_isSome]

/-! ## What stays -/

/-- Live objects stay what they are, labels stay, and so do the links of all connections where
others can hang, as far as their places are among those in `K`. -/
structure Keeps (K : BlockId → Role → Prop) (ws ws' : Workspace) : Prop extends
    Retains ws ws' where
  target : ∀ c b r, ws.place? c = some (b, r) → r.isUpper = true → K b r →
    ws'.target? c = ws.target? c
  label : ∀ b, ws.hasBlock b = true → ws'.labelOf? b = ws.labelOf? b

namespace Keeps

lemma refl (ws : Workspace) : ws.Keeps K ws where
  toRetains := (SameObjects.refl ws).retains
  target _ _ _ _ _ _ := rfl
  label _ _ := rfl

/-- Places that are not there yet need not be kept. -/
lemma trans (h : ws.Keeps K ws') (h' : ws'.Keeps K' ws'') (hws : ws.Owned)
    (hk : ∀ b r, ws.hasBlock b = true → K b r → K' b r) : ws.Keeps K ws'' where
  toRetains := h.toRetains.trans h'.toRetains
  target c b r hc hr hkb := by
    have hkb' := hk b r (hws.hasBlock_of_place hc) hkb
    exact (h'.target c b r (h.place c _ hc) hr hkb').trans (h.target c b r hc hr hkb)
  label b hb := (h'.label b (h.hasBlock hb)).trans (h.label b hb)

lemma mono (h : ws.Keeps K ws') (hws : ws.Owned)
    (hk : ∀ b r, ws.hasBlock b = true → K' b r → K b r) : ws.Keeps K' ws' where
  toRetains := h.toRetains
  target c b r hc hr hk' := h.target c b r hc hr (hk b r (hws.hasBlock_of_place hc) hk')
  label := h.label

/-- What hangs from a place that is kept. -/
lemma targetBlock (h : Keeps K ws ws') (hws : ws.Linked) (hc : ws.place? c = some (b, r))
    (hr : r.isUpper = true) (hk : K b r) : ws'.targetBlock? c = ws.targetBlock? c := by
  rw [targetBlock?, targetBlock?, h.target c b r hc hr hk]
  cases hd : ws.target? c with
  | none => rfl
  | some d =>
      obtain ⟨a, q, hplace⟩ := exists_place_of_target (hws.symm c d hd)
      rw [Option.bind_some, Option.bind_some, owner?_of_place hplace,
        owner?_of_place (h.place d _ hplace)]

end Keeps

/-! ## Steps of building -/

/-- **A new block keeps the invariant.** -/
lemma Orderly.insert (h : ws.Orderly) (spec : BlockSpec) : (ws.insert spec).2.Orderly := by
  have hins := insert_draft h.toOwned spec
  refine ⟨h.toForest.insert spec, fun b a hb => ?_, ?_, fun entry hentry => ?_⟩
  · rw [hins.parent h.toLinked] at hb
    exact h.parent_lt b a hb
  · rw [names, hins.labels]
    exact h.names_nodup
  · rw [hins.labels] at hentry
    exact hins.grows.retains.hasBlock (h.hasBlock_of_label entry hentry)

/-- **When a block without a label can get one**, and what that does. -/
lemma Orderly.setLabel (h : ws.Orderly) {label : String} (hb : ws.hasBlock b = true)
    (hnone : ws.labelOf? b = none) :
    (label ∈ ws.names ∧ ws.setLabel b label = .error (.duplicateLabel label)) ∨
      (label ∉ ws.names ∧ ∃ ws', ws.setLabel b label = .ok ws' ∧ ws'.Orderly ∧
        ws' = { ws with labels := ws.labels ++ [(label, b)] }) := by
  by_cases hmem : label ∈ ws.names
  · refine .inl ⟨hmem, ?_⟩
    rw [Workspace.setLabel, if_neg (by simp [hb]),
      if_pos ((labelled?_isSome_iff ws label).mpr hmem)]
  · have hok : ws.setLabel b label = .ok { ws with labels := ws.labels ++ [(label, b)] } := by
      have hfree : (ws.labelled? label).isSome = false :=
        Bool.eq_false_iff.mpr fun hsome => hmem ((labelled?_isSome_iff ws label).mp hsome)
      simp [Workspace.setLabel, hb, hfree, hnone]
    refine .inr ⟨hmem, _, hok, ⟨h.toForest.setLabel hok, h.parent_lt, ?_, ?_⟩, rfl⟩
    · simp only [names, List.map_append, List.map_cons, List.map_nil]
      exact List.nodup_append.mpr ⟨h.names_nodup, List.nodup_singleton _, fun l hl l' hl' heq =>
        hmem (List.mem_singleton.mp hl' ▸ heq ▸ hl)⟩
    · intro entry hentry
      rcases List.mem_append.mp hentry with hentry | hentry
      · exact h.hasBlock_of_label entry hentry
      · rw [List.mem_singleton.mp hentry]
        exact hb

/-- What hanging the block `b` from the connection `p` does. -/
structure Hung (ws : Workspace) (p : ConnectionId) (b : BlockId) (ws' : Workspace) : Prop where
  orderly : ws'.Orderly
  keeps : ws.Keeps (fun x q => ws.place? p ≠ some (x, q)) ws'
  labels : ws'.labels = ws.labels
  blocks : ws'.blocks = ws.blocks
  tops : ws'.tops = ws.tops.filter (· != b)
  held : ws'.targetBlock? p = some b

/-- **Hanging a newer top from an older block** succeeds if the roles fit and the upper connection
is free: what is above the older block is older still, so no circle is closed. -/
theorem Orderly.connect (h : ws.Orderly) (hp : ws.place? p = some (a, r))
    (hc : ws.place? c = some (b, s)) (hfit : ws.roleFits r s = true) (hfree : ws.target? p = none)
    (htop : b ∈ ws.tops) (hlt : a.index < b.index) :
    ∃ ws', ws.connect p c = .ok ws' ∧ ws.Hung p b ws' := by
  have hparent : ws.parent? b = none := ((h.mem_tops_iff b).mp htop).2
  have hroot : ws.root? a ≠ some b := by
    intro hab
    have hle := h.index_le_of_rises (h.root_iff.mp hab).2.1
    omega
  have hok : ws.connect p c = .ok (ws.link p c b) :=
    connect_eq_ok_iff.mpr ⟨a, r, b, s, hp, hc, hfit, hfree, hparent, hroot, rfl⟩
  have hsame := sameObjects_link ws p c b
  have hforest := h.toForest.connect hok
  have htarget := target?_link (x := p) hp hc b
  rw [if_neg (ne_of_roleFits hp hc hfit), if_pos rfl] at htarget
  refine ⟨_, hok, ⟨hforest, ?_, h.names_nodup, ?_⟩, ⟨hsame.retains, ?_, fun _ _ => rfl⟩, rfl, rfl,
    rfl, ?_⟩
  · intro u v huv
    rw [h.parent_link hp hc hfit hfree (h.parent_eq_none_iff.mp hparent)] at huv
    split_ifs at huv with hu
    · cases huv
      rw [hu]
      exact hlt
    · exact h.parent_lt u v huv
  · intro entry hentry
    rw [hsame.hasBlock]
    exact h.hasBlock_of_label entry hentry
  · intro x u q hx hq hne
    have hxc : x ≠ c := by
      rintro rfl
      rw [hc] at hx
      cases hx
      rw [(isUpper_of_roleFits hfit).2] at hq
      cases hq
    have hxp : x ≠ p := by
      rintro rfl
      exact hne hx
    rw [target?_link hp hc, if_neg hxc, if_neg hxp]
  · rw [targetBlock?, htarget, Option.bind_some, hsame.owner, owner?_of_place hc]

/-! ## What the queries find -/

/-- A block by itself, as a layout describes it. -/
structure LooksLike (ws : Workspace) (b : BlockId) (l : BlockLayout) : Prop where
  kind : ws.blockKind? b = some l.kind
  label : ws.labelOf? b = l.label
  previous : (ws.previous? b).isSome = l.previous
  next : (ws.next? b).isSome = l.next
  output : (ws.output? b).isSome = l.output

lemma LooksLike.hasBlock {l : BlockLayout} (h : ws.LooksLike b l) : ws.hasBlock b = true := by
  rw [Workspace.hasBlock, ← Option.isSome_map (f := Block.kind)]
  exact Option.isSome_of_eq_some h.kind

namespace Keeps

lemma looksLike {l : BlockLayout} (h : ws.Keeps K ws') (hb : ws.LooksLike b l) :
    ws'.LooksLike b l := by
  have hlive := hb.hasBlock
  have hblock := h.block b hlive
  refine ⟨?_, ?_, ?_, ?_, ?_⟩
  · rw [blockKind?, hblock]
    exact hb.kind
  · exact (h.label b hlive).trans hb.label
  · rw [previous?, hblock]
    exact hb.previous
  · rw [next?, hblock]
    exact hb.next
  · rw [output?, hblock]
    exact hb.output

/-- What an input holds stays if the place of its socket is kept. -/
lemma held (h : ws.Keeps K ws') (hws : ws.Linked) (hi : ws.inputBlock? i = some b)
    (hk : K b (.socket i)) : ws'.held? i = ws.held? i := by
  have hsocket : ws'.socket? i = ws.socket? i := by
    rw [socket?, h.input i (hasInput_of_inputBlock hi), socket?]
  rw [held?, held?, hsocket]
  cases hc : ws.socket? i with
  | none => rfl
  | some c =>
      obtain ⟨b', hb', hplace⟩ := hws.place_of_socket hc
      obtain rfl : b' = b := Option.some.inj (hb'.symm.trans hi)
      exact h.targetBlock hws hplace rfl hk

/-- What follows a block stays if the place of its next connection is kept. -/
lemma follower (h : ws.Keeps K ws') (hws : ws.Linked) (hb : ws.hasBlock b = true)
    (hk : K b .next) : ws'.follower? b = ws.follower? b := by
  have hnext : ws'.next? b = ws.next? b := by rw [next?, h.block b hb, next?]
  rw [follower?, follower?, hnext]
  cases hc : ws.next? b with
  | none => rfl
  | some c => exact h.targetBlock hws (hws.place_of_next hc) rfl hk

end Keeps

/-- The first block of a chain that is numbered from `n` on. -/
def firstOf (n : Nat) (blocks : List BlockLayout) : Option BlockId :=
  if blocks.isEmpty then none else some ⟨n⟩

mutual

/-- The queries find a block of a layout and all that it holds, numbered from `n` on. -/
def Shows (ws : Workspace) (n : Nat) : BlockLayout → Prop
  | ⟨label, kind, previous, next, output, inputs⟩ =>
    ws.LooksLike ⟨n⟩ ⟨label, kind, previous, next, output, inputs⟩ ∧
      ShowsInputs ws (n + 1) (ws.inputsOf ⟨n⟩) inputs

/-- The queries find a row of inputs and all that they hold, numbered from `n` on. -/
def ShowsInputs (ws : Workspace) (n : Nat) (ids : List InputId) : List InputLayout → Prop
  | [] => ids = []
  | ⟨name, kind, fields, blocks⟩ :: rest =>
    ∃ i ids', ids = i :: ids' ∧ ws.MadeAs i ⟨name, kind, fields⟩ ∧
      ws.held? i = firstOf n blocks ∧ ShowsChain ws n blocks ∧
      ShowsInputs ws (n + chainSize blocks) ids' rest

/-- The queries find a chain of blocks and all that they hold, numbered from `n` on. -/
def ShowsChain (ws : Workspace) (n : Nat) : List BlockLayout → Prop
  | [] => True
  | l :: rest =>
    Shows ws n l ∧ ws.follower? ⟨n⟩ = firstOf (n + l.size) rest ∧
      ShowsChain ws (n + l.size) rest

end

/-- The queries find the stacks of a layout, numbered from `n` on. -/
def ShowsStacks (ws : Workspace) (n : Nat) : List StackLayout → Prop
  | [] => True
  | s :: rest => ShowsChain ws n s.blocks ∧ ShowsStacks ws (n + chainSize s.blocks) rest

/-- The first blocks of stacks that are numbered from `n` on; an empty stack has none. -/
def stackTops (n : Nat) : List StackLayout → List BlockId
  | [] => []
  | s :: rest => (firstOf n s.blocks).toList ++ stackTops (n + chainSize s.blocks) rest

lemma shows_iff {n : Nat} {l : BlockLayout} : ws.Shows n l ↔
    ws.LooksLike ⟨n⟩ l ∧ ws.ShowsInputs (n + 1) (ws.inputsOf ⟨n⟩) l.inputs := by
  cases l
  rfl

end BlockCursor.Workspace
