import BlockCursor.Proofs.Navigation.Agreement

/-!
# Blocks that a cursor can get into

Two things keep a cursor from a block.  A stack is entered at the top of its first block, so a stack
whose first block has neither a previous connection nor an output cannot be entered.  And a block
is entered at the first of its inputs, and from there the cursor goes from socket to socket: it
finds no way on from a field whose input has no socket.

* `Workspace.Passes` — nothing before an input keeps the cursor from it.
* `Workspace.Accessible` — nothing on the way down to a block keeps the cursor from it.
* `Node.Seen` — what a node that a cursor gets to is a part of.
* **`Leads.seen`** — every move keeps `Node.Seen`, so that a cursor from the surface gets to
  accessible blocks alone.
-/

namespace BlockCursor

namespace Workspace

variable {ws : Workspace} {step : Float} {n n' : Node} {m : Move} {a b t x y : BlockId}
  {c p s : ConnectionId} {i j : InputId} {before after : List InputId}

/-- A cursor that enters a block gets past the inputs `before`: the first input of the block has a
socket, and none of those before is a dummy with a field to stop on. -/
def Passes (ws : Workspace) (a : BlockId) (before : List InputId) : Prop :=
  (∃ i, (ws.inputsOf a).head? = some i ∧ (ws.socket? i).isSome = true) ∧
    ∀ j ∈ before, ¬ (ws.inputKind? j = some .dummy ∧ ∃ f ∈ ws.fieldsOf j, ws.isEditable f = true)

/-- A cursor gets into a block: the root has a connection at its top, and wherever the block or one
above it hangs from the socket of an input, the inputs before it can be passed. -/
def Accessible (ws : Workspace) (b : BlockId) : Prop :=
  (∃ t, ws.root? b = some t ∧ ((ws.previous? t).isSome = true ∨ (ws.output? t).isSome = true)) ∧
    ∀ x, Rises ws.parent? b x → ∀ a before i after s, ws.inputsOf a = before ++ i :: after →
      ws.socket? i = some s → ws.targetBlock? s = some x → ws.Passes a before

/-- A cursor gets to the stops of an input of a block that it has got into. -/
def Within (ws : Workspace) (a : BlockId) (i : InputId) : Prop :=
  ∃ before after, ws.inputsOf a = before ++ i :: after ∧ (before = [] ∨ ws.Passes a before)

/-! ## Rows -/

lemma Passes.mono {pre : List InputId} (h : ws.Passes a before) (hsub : pre ⊆ before) :
    ws.Passes a pre :=
  ⟨h.1, fun j hj => h.2 j (hsub hj)⟩

/-- An input with a socket is no dummy. -/
lemma Owned.inputKind_ne_dummy (h : ws.Owned) (hs : ws.socket? i = some s) :
    ws.inputKind? i ≠ some .dummy := by
  intro hkind
  have hsome := h.socket_isSome i
  rw [hs, hkind] at hsome
  cases hsome

/-- The inputs before one whose socket the cursor gets to can be passed. -/
lemma Within.passes (h : ws.Within a i) (hnodup : (ws.inputsOf a).Nodup)
    (hrow : ws.inputsOf a = before ++ i :: after) (hs : ws.socket? i = some s) :
    ws.Passes a before := by
  obtain ⟨before', after', hrow', hopen⟩ := h
  obtain rfl := before_unique hnodup hrow hrow'
  rcases hopen with rfl | hpasses
  · refine ⟨⟨i, by rw [hrow]; rfl, by rw [hs]; rfl⟩, fun j hj => ?_⟩
    cases hj
  · exact hpasses

/-- A cursor that gets to an input gets to those before it. -/
lemma Within.of_before {mid : List InputId} (h : ws.Within a i) (hnodup : (ws.inputsOf a).Nodup)
    (hrow : ws.inputsOf a = before ++ j :: mid ++ i :: after) : ws.Within a j := by
  obtain ⟨before', after', hrow', hopen⟩ := h
  obtain rfl := before_unique hnodup hrow hrow'
  refine ⟨before, mid ++ i :: after, by rw [hrow]; simp, Or.inr ?_⟩
  rcases hopen with hnil | hpasses
  · simp at hnil
  · exact hpasses.mono fun k hk => List.mem_append_left _ hk

/-- From a socket the cursor gets to the next input with a stop. -/
lemma Within.of_after {mid : List InputId} (h : ws.Within a i) (howned : ws.Owned)
    (hs : ws.socket? i = some s) (hrow : ws.inputsOf a = before ++ i :: mid ++ j :: after)
    (hmid : ∀ k ∈ mid, ws.inputStops k = []) : ws.Within a j := by
  have hrow' : ws.inputsOf a = before ++ i :: (mid ++ j :: after) := by rw [hrow]; simp
  have hpasses := h.passes (howned.inputs_nodup a) hrow' hs
  refine ⟨before ++ i :: mid, after, hrow, Or.inr ⟨hpasses.1, fun k hk => ?_⟩⟩
  rcases List.mem_append.mp hk with hk | hk
  · exact hpasses.2 k hk
  · rcases List.mem_cons.mp hk with rfl | hk
    · exact fun hblock => howned.inputKind_ne_dummy hs hblock.1
    · rintro ⟨-, f, hf, hedit⟩
      have hmem := field_mem_inputStops hf hedit
      rw [hmid k hk] at hmem
      cases hmem

/-- The first input of a block is where the block is entered. -/
lemma within_head (hi : (ws.inputsOf a).head? = some i) : ws.Within a i := by
  obtain ⟨after, hrow⟩ := List.head?_eq_some_iff.mp hi
  exact ⟨[], after, hrow, Or.inl rfl⟩

/-! ## Up and down -/

namespace Forest

variable (h : ws.Forest)
include h

/-- A block that hangs from the socket of an input is held there alone. -/
lemma holder_of_socket (hs : ws.socket? i = some s) (hx : ws.targetBlock? s = some x) :
    ws.holder? x = some s := by
  obtain ⟨a, -, hplace⟩ := h.place_of_socket hs
  exact h.holder_iff.mpr ⟨hx, a, .socket i, hplace, rfl⟩

/-- What is above an accessible block is accessible. -/
lemma accessible_up (hb : ws.Accessible b) (hba : ws.parent? b = some a) : ws.Accessible a := by
  obtain ⟨⟨t, ht, hopen⟩, hpass⟩ := hb
  have hroot := h.root_of_rises (h.hasBlock_of_parent hba).1 (.single hba)
  exact ⟨⟨t, hroot ▸ ht, hopen⟩, fun x hx => hpass x (hx.head hba)⟩

lemma accessible_rises (hb : ws.Accessible b) (hba : Rises ws.parent? b a) : ws.Accessible a := by
  induction hba with
  | refl => exact hb
  | tail _ hstep ih => exact h.accessible_up ih hstep

/-- What hangs from an accessible block is accessible if the inputs before it can be passed. -/
lemma accessible_down (ha : ws.Accessible a) (hy : ws.parent? y = some a)
    (hpass : ∀ before i after s, ws.inputsOf a = before ++ i :: after → ws.socket? i = some s →
      ws.holder? y = some s → ws.Passes a before) : ws.Accessible y := by
  obtain ⟨⟨t, ht, hopen⟩, hpass'⟩ := ha
  have hroot := h.root_of_rises (h.hasBlock_of_parent hy).1 (.single hy)
  refine ⟨⟨t, hroot.trans ht, hopen⟩, fun x hx u before i after s hrow hs hxs => ?_⟩
  rcases hx.cases_head with rfl | ⟨z, hz, hzx⟩
  · have hholder := h.holder_of_socket hs hxs
    have hu : ws.parent? y = some u := by
      obtain ⟨u', hi, hplace⟩ := h.place_of_socket hs
      obtain rfl : u = u' := Option.some.inj ((h.inputBlock_of_row hrow).symm.trans hi)
      exact h.parent_iff.mpr ⟨s, hholder, owner?_of_place hplace⟩
    obtain rfl : u = a := Option.some.inj (hu.symm.trans hy)
    exact hpass before i after s hrow hs hholder
  · obtain rfl : z = a := Option.some.inj (hz.symm.trans hy)
    exact hpass' x hzx u before i after s hrow hs hxs

/-- What hangs from an accessible block is accessible, provided that the cursor gets to the socket
if it hangs from one. -/
lemma accessible_hung (ha : ws.Accessible a) (hc : ws.place? c = some (a, r))
    (hr : r.isUpper = true) (hy : ws.targetBlock? c = some y)
    (hin : ∀ i, r = .socket i → ws.Within a i) : ws.Accessible y := by
  have hholder := h.holder_iff.mpr ⟨hy, a, r, hc, hr⟩
  refine h.accessible_down ha (h.parent_iff.mpr ⟨c, hholder, owner?_of_place hc⟩) ?_
  intro before i after s hrow hs hys
  obtain ⟨u, -, hplace⟩ := h.place_of_socket hs
  rw [hholder] at hys
  cases hys
  rw [hc] at hplace
  cases hplace
  exact (hin i rfl).passes (h.inputs_nodup a) hrow hs

/-- The block below an accessible one in its chain is accessible. -/
lemma accessible_next (ha : ws.Accessible a) (hc : ws.place? c = some (a, .next))
    (hy : ws.targetBlock? c = some y) : ws.Accessible y :=
  h.accessible_hung ha hc rfl hy nofun

/-- What hangs from a socket that the cursor gets to is accessible. -/
lemma accessible_socket (ha : ws.Accessible a) (hi : ws.Within a i)
    (hc : ws.place? c = some (a, .socket i)) (hy : ws.targetBlock? c = some y) :
    ws.Accessible y := by
  refine h.accessible_hung ha hc rfl hy ?_
  rintro _ ⟨⟩
  exact hi

/-- An accessible block that hangs from a socket shows the way to that socket. -/
lemma within_of_holder (hb : ws.Accessible b) (hp : ws.holder? b = some p)
    (hplace : ws.place? p = some (a, .socket i)) : ws.Accessible a ∧ ws.Within a i := by
  have hba := h.parent_iff.mpr ⟨p, hp, owner?_of_place hplace⟩
  obtain ⟨hmem, hs⟩ := h.socket_of_place hplace
  obtain ⟨before, after, hrow⟩ := List.append_of_mem hmem
  have hpass := hb.2 b .refl a before i after p hrow hs (h.holder_iff.mp hp).1
  exact ⟨h.accessible_up hb hba, before, after, hrow, Or.inr hpass⟩

/-- A top with a connection at its top is accessible. -/
lemma accessible_of_mem_tops (hb : b ∈ ws.tops) (hn : ws.topNode? b = some n) :
    ws.Accessible b := by
  have hnone := ((h.mem_tops_iff b).mp hb).2
  refine ⟨⟨b, h.root_of_mem_tops hb, ?_⟩, fun x hx a before i after s _ hs hxs => ?_⟩
  · rcases topNode?_eq_some_iff.mp hn with ⟨c, hc, -⟩ | ⟨c, -, hc, -⟩
    · exact Or.inl (by rw [hc]; rfl)
    · exact Or.inr (by rw [hc]; rfl)
  · -- nothing holds a top
    obtain rfl := hx.eq_of_top hnone
    rw [h.parent_eq_none_iff, h.holder_of_socket hs hxs] at hnone
    cases hnone

end Forest

end Workspace

open Workspace

/-! ## What a cursor gets to -/

/-- A node is a part of an accessible block, or a stack whose top is on the list of tops. -/
def Node.Seen (ws : Workspace) : Node → Prop
  | .workspace _ => True
  | .stack b => b ∈ ws.tops ∨ ws.Accessible b
  | .block b => ws.Accessible b
  | .output c => ∃ b, ws.place? c = some (b, .output) ∧ ws.Accessible b
  | .previous c => ∃ b, ws.place? c = some (b, .previous) ∧ ws.Accessible b
  | .next c => ∃ b, ws.Accessible b ∧ (ws.place? c = some (b, .next) ∨
      ∃ i, ws.place? c = some (b, .socket i) ∧ ws.Within b i)
  | .input c => ∃ b i, ws.place? c = some (b, .socket i) ∧ ws.Accessible b ∧ ws.Within b i
  | .field f => ∃ b i, ws.fieldInput? f = some i ∧ ws.inputBlock? i = some b ∧
      ws.Accessible b ∧ ws.Within b i

namespace Workspace

variable {ws : Workspace} {step : Float} {n n' : Node} {m : Move} {a b : BlockId}
  {c : ConnectionId} {i : InputId}

lemma Owned.seen_of_topNode (h : ws.Owned) (hb : ws.Accessible b) (hn : ws.topNode? b = some n) :
    n.Seen ws := by
  rcases topNode?_eq_some_iff.mp hn with ⟨c, hc, rfl⟩ | ⟨c, -, hc, rfl⟩
  · exact ⟨b, h.place_of_previous hc, hb⟩
  · exact ⟨b, h.place_of_output hc, hb⟩

lemma Owned.seen_of_stop (h : ws.Owned) (hb : ws.Accessible b) (hi : ws.Within b i)
    (hn : n ∈ ws.inputStops i) : n.Seen ws := by
  obtain ⟨before, after, hrow, -⟩ := id hi
  have hblock := h.inputBlock_of_row hrow
  rcases mem_inputStops_iff.mp hn with ⟨f, hf, -, rfl⟩ | ⟨s, hs, rfl⟩
  · exact ⟨b, i, (h.field_iff i f).mp hf, hblock, hb, hi⟩
  · obtain ⟨b', hb', hplace⟩ := h.place_of_socket hs
    obtain rfl : b' = b := Option.some.inj (hb'.symm.trans hblock)
    exact ⟨b', i, hplace, hb, hi⟩

/-- A chain of accessible blocks leads out to a socket on the way to them, or to an accessible
block. -/
lemma Forest.seen_outOfChain (h : ws.Forest) (hlive : ws.hasBlock b = true)
    (hb : ws.Accessible b) : (ws.outOfChain b).Seen ws := by
  obtain ⟨t, -, hrises, -, ⟨p, a, i, hp, hplace, -, -, heq⟩ | ⟨-, heq⟩⟩ := h.outOfChain_cases hlive
  · have ht := h.accessible_rises hb (h.rises_of_above hrises)
    obtain ⟨ha, hi⟩ := h.within_of_holder ht (holder_of_hangsFrom hp) hplace
    rw [heq]
    exact ⟨a, ha, Or.inr ⟨i, hplace, hi⟩⟩
  · rw [heq]
    exact Or.inr (h.accessible_rises hb (h.rises_of_above hrises))

/-- What hangs from a `next` node that a cursor gets to is accessible. -/
lemma Forest.accessible_of_next (h : ws.Forest) (hn : (Node.next c).Seen ws)
    (hb : ws.targetBlock? c = some b) : ws.Accessible b := by
  obtain ⟨a, ha, hc | ⟨i, hc, hi⟩⟩ := hn
  · exact h.accessible_next ha hc hb
  · exact h.accessible_socket ha hi hc hb

/-- The block of a `next` node that a cursor gets to is accessible. -/
lemma accessible_of_next_owner (hn : (Node.next c).Seen ws) (hb : ws.owner? c = some b) :
    ws.Accessible b := by
  obtain ⟨a, ha, hc⟩ := hn
  have hac : ws.owner? c = some a := by
    rcases hc with hc | ⟨i, hc, -⟩
    · exact owner?_of_place hc
    · exact owner?_of_place hc
  obtain rfl : a = b := Option.some.inj (hac.symm.trans hb)
  exact ha

/-- **Every move keeps to accessible blocks.** -/
theorem Leads.seen (h : ws.Forest) (hn : n.Seen ws) (hmove : ws.Leads step n m n') :
    n'.Seen ws := by
  have hblock : ∀ {c r a b}, ws.place? c = some (a, r) → ws.owner? c = some b → a = b :=
    fun hc hb => Option.some.inj ((owner?_of_place hc).symm.trans hb)
  cases hmove with
  | shiftRight p => trivial
  | shiftLeft p => trivial
  | firstStack hb => exact Or.inl (List.mem_of_head? hb)
  | following _ _ hb => exact Or.inl (mem_of_ringBeside hb)
  | preceding _ _ hb => exact Or.inl (mem_of_ringBeside hb)
  | stackInto hn' =>
      rcases hn with hb | hb
      · exact h.seen_of_topNode (h.accessible_of_mem_tops hb hn') hn'
      · exact h.seen_of_topNode hb hn'
  | outputNext hb =>
      obtain ⟨a, hc, ha⟩ := hn
      exact hblock hc hb ▸ ha
  | outputPrev hb hd =>
      obtain ⟨a, hc, ha⟩ := hn
      obtain rfl := hblock hc hb
      exact ⟨a, h.place_of_previous hd, ha⟩
  | outputSocket hs =>
      obtain ⟨b, hc, hb⟩ := hn
      obtain ⟨a, i, hplace, -, hholder⟩ := h.place_of_output_target hc hs
      exact ⟨a, i, hplace, h.within_of_holder hb hholder hplace⟩
  | outputStack _ _ ht => exact Or.inl (h.root_mem_tops ht)
  | previousOutput hb hd =>
      obtain ⟨a, hc, ha⟩ := hn
      obtain rfl := hblock hc hb
      exact ⟨a, h.place_of_output hd, ha⟩
  | previousBlock hb _ =>
      obtain ⟨a, hc, ha⟩ := hn
      exact hblock hc hb ▸ ha
  | previousPrev ha hd =>
      obtain ⟨b, hc, hb⟩ := hn
      obtain ⟨p, hp, hpa⟩ := Option.bind_eq_some_iff.mp ha
      have hba := h.parent_iff.mpr ⟨p, h.holder_of_lower hc rfl hp, hpa⟩
      exact ⟨_, h.accessible_up hb hba, Or.inl (h.place_of_next hd)⟩
  | previousOut hb =>
      obtain ⟨a, hc, ha⟩ := hn
      obtain rfl := hblock hc hb
      exact h.seen_outOfChain (h.hasBlock_of_owner hb) ha
  | nextNext hb hn' => exact h.seen_of_topNode (h.accessible_of_next hn hb) hn'
  | nextPrev hb => exact accessible_of_next_owner hn hb
  | nextOut hb =>
      exact h.seen_outOfChain (h.hasBlock_of_owner hb) (accessible_of_next_owner hn hb)
  | blockNext hc => exact ⟨_, hn, Or.inl (h.place_of_next hc)⟩
  | blockOutput hc => exact ⟨_, h.place_of_output hc, hn⟩
  | blockPrevious _ hc => exact ⟨_, h.place_of_previous hc, hn⟩
  | blockInto hi hn' => exact h.seen_of_stop hn (within_head hi) (mem_of_enterForward hn')
  | blockSocket hc hs =>
      obtain ⟨a, i, hplace, -, hholder⟩ := h.place_of_output_target (h.place_of_output hc) hs
      exact ⟨a, i, hplace, h.within_of_holder hn hholder hplace⟩
  | blockOut hc _ => exact ⟨_, h.place_of_output hc, hn⟩
  | blockChain _ hb => exact h.seen_outOfChain hb hn
  | fieldNext hn' =>
      obtain ⟨b, i, hf, -, hb, hi⟩ := hn
      exact h.seen_of_stop hb hi (h.stop_of_afterField hf hn')
  | fieldPrev hn' =>
      obtain ⟨b, i, hf, hblock, hb, hi⟩ := hn
      rcases h.stop_of_beforeField hf hblock hn' with hstop | ⟨pre, j, post, hrow, hstop⟩
      · exact h.seen_of_stop hb hi hstop
      · have hrow' : ws.inputsOf b = pre ++ j :: [] ++ i :: post := by rw [hrow]; simp
        exact h.seen_of_stop hb (hi.of_before (h.inputs_nodup b) hrow') hstop
  | fieldOut hf hb =>
      obtain ⟨a, i, hf', hblock, ha, -⟩ := hn
      rw [hf] at hf'
      cases hf'
      rw [hb] at hblock
      cases hblock
      exact ha
  | inputNext hn' =>
      obtain ⟨b, i, hc, hb, hi⟩ := hn
      obtain ⟨pre, mid, j, post, hrow, hmid, hstop⟩ := h.stop_of_afterSocket hc hn'
      exact h.seen_of_stop hb (hi.of_after h.toOwned (h.socket_of_place hc).2 hrow hmid) hstop
  | inputPrev hn' =>
      obtain ⟨b, i, hc, hb, hi⟩ := hn
      rcases h.stop_of_beforeSocket hc hn' with hstop | ⟨pre, j, mid, post, hrow, hstop⟩
      · exact h.seen_of_stop hb hi hstop
      · exact h.seen_of_stop hb (hi.of_before (h.inputs_nodup b) hrow) hstop
  | inputInto hb hn' =>
      obtain ⟨a, i, hc, ha, hi⟩ := hn
      exact h.seen_of_topNode (h.accessible_socket ha hi hc hb) hn'
  | inputOut hb =>
      obtain ⟨a, i, hc, ha, -⟩ := hn
      exact hblock hc hb ▸ ha

end Workspace

end BlockCursor
