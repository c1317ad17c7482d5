import BlockCursor.Proofs.Navigation.Chains
import BlockCursor.Proofs.Navigation.Moves
import BlockCursor.Proofs.Navigation.Stops

/-!
# Kinds of nodes and what they refer to

A node says what it refers to twice, by its kind and by the object itself.  The two agree if a
connection is of the node's kind; a `next` node alone may also sit on a statement socket, since that
is where a chain of blocks leads out to.

* `Node.Agrees` — the object is live, and of the kind that the node says.
* `Node.Sound` — the node agrees, and if it is a field's, the field is editable.
* **`Leads.sound`** — every move from a node that agrees leads to a sound node.
-/

namespace BlockCursor

open Workspace

/-- What a node refers to is live and of the node's kind. -/
def Node.Agrees (ws : Workspace) : Node → Prop
  | .workspace _ => True
  | .stack b | .block b => ws.hasBlock b = true
  | .field f => ws.hasField f = true
  | .output c => ws.kind? c = some .output
  | .previous c => ws.kind? c = some .previous
  | .input c => ws.kind? c = some .input
  | .next c => ws.kind? c = some .next ∨
      ∃ i, ws.parentInput? c = some i ∧ ws.inputKind? i = some .statement

/-- A node that agrees, on an editable field if on a field at all. -/
def Node.Sound (ws : Workspace) (n : Node) : Prop :=
  n.Agrees ws ∧ ∀ f, n = .field f → ws.isEditable f = true

namespace Workspace

variable {ws : Workspace} {step : Float} {n n' : Node} {m : Move} {b : BlockId} {c : ConnectionId}
  {i : InputId} {r : Role} {f : FieldId}

/-! ## Connections in place -/

lemma kind?_of_place (hc : ws.place? c = some (b, r)) : ws.kind? c = some r.kind := by
  rw [kind?_eq, hc]
  rfl

/-- A role without an input is told by its kind. -/
lemma exists_place_of_own (hr : r.input? = none) (hc : ws.kind? c = some r.kind) :
    ∃ b, ws.place? c = some (b, r) := by
  obtain ⟨b, s, hplace, hkind⟩ := place_of_kind hc
  have hs : s = r := by
    cases r <;> cases s <;> simp_all [Role.kind, Role.input?]
  exact ⟨b, hs ▸ hplace⟩

lemma exists_place_of_input (hc : ws.kind? c = some .input) :
    ∃ b i, ws.place? c = some (b, .socket i) := by
  obtain ⟨b, r, hplace, hr⟩ := place_of_kind hc
  cases r with
  | socket i => exact ⟨b, i, hplace⟩
  | previous => cases hr
  | next => cases hr
  | output => cases hr

/-- A plugged output is plugged into a value socket. -/
lemma Linked.place_of_output_target (h : ws.Linked) (hc : ws.place? c = some (b, .output))
    {s : ConnectionId} (hs : ws.target? c = some s) :
    ∃ a i, ws.place? s = some (a, .socket i) ∧ ws.inputKind? i = some .value ∧
      ws.holder? b = some s := by
  obtain ⟨a, r, hplace, hfit, -⟩ := h.upper_of_lower hc rfl hs
  rcases roleFits_iff.mp hfit with ⟨-, hr⟩ | ⟨i, -, hr, -⟩ | ⟨i, rfl, -, hi⟩
  · cases hr
  · cases hr
  · exact ⟨a, i, hplace, hi, h.holder_of_lower hc rfl hs⟩

/-! ## Sound nodes -/

lemma hasField_of_isEditable (hf : ws.isEditable f = true) : ws.hasField f = true := by
  rw [isEditable] at hf
  rw [hasField]
  cases hx : ws.field? f with
  | none =>
      rw [hx] at hf
      cases hf
  | some x => rfl

/-- The stops of an input are sound. -/
lemma Owned.sound_of_stop (h : ws.Owned) (hn : n ∈ ws.inputStops i) : n.Sound ws := by
  rcases mem_inputStops_iff.mp hn with ⟨f, -, hedit, rfl⟩ | ⟨s, hs, rfl⟩
  · refine ⟨hasField_of_isEditable hedit, fun g hg => ?_⟩
    cases hg
    exact hedit
  · obtain ⟨b, -, hplace⟩ := h.place_of_socket hs
    refine ⟨kind?_of_place hplace, fun g hg => ?_⟩
    cases hg

/-- What agrees and is no field is sound. -/
lemma sound_of_agrees (hn : n.Agrees ws) (hfield : ∀ f, n ≠ .field f) : n.Sound ws :=
  ⟨hn, fun f hf => absurd hf (hfield f)⟩

lemma Owned.sound_of_topNode (h : ws.Owned) (hn : ws.topNode? b = some n) : n.Sound ws := by
  rcases topNode?_eq_some_iff.mp hn with ⟨c, hc, rfl⟩ | ⟨c, -, hc, rfl⟩
  · exact sound_of_agrees (kind?_of_place (h.place_of_previous hc)) (by simp)
  · exact sound_of_agrees (kind?_of_place (h.place_of_output hc)) (by simp)

/-- A chain leads out to a statement socket or to a live block. -/
lemma Forest.sound_outOfChain (h : ws.Forest) (hb : ws.hasBlock b = true) :
    (ws.outOfChain b).Sound ws := by
  obtain ⟨t, -, -, ht, ⟨p, a, i, -, hplace, hi, -, heq⟩ | ⟨-, heq⟩⟩ := h.outOfChain_cases hb
  · rw [heq]
    exact sound_of_agrees (Or.inr ⟨i, parentInput?_eq_some_iff.mpr ⟨a, hplace⟩, hi⟩) (by simp)
  · rw [heq]
    exact sound_of_agrees ht (by simp)

/-- Every entry beside a place on the ring is on the ring. -/
lemma mem_of_ringBeside {ring : List BlockId} {k : ℕ} {forward : Bool}
    (hb : ringBeside ring k forward = some b) : b ∈ ring :=
  List.mem_of_getElem? hb

/-! ## Moves -/

/-- **Every move from a node that agrees leads to a sound node.** -/
theorem Leads.sound (h : ws.Forest) (hn : n.Agrees ws) (hmove : ws.Leads step n m n') :
    n'.Sound ws := by
  cases hmove with
  | shiftRight p => exact sound_of_agrees trivial (by simp)
  | shiftLeft p => exact sound_of_agrees trivial (by simp)
  | firstStack hb =>
      exact sound_of_agrees (h.hasBlock_of_mem_tops (List.mem_of_head? hb)) (by simp)
  | following _ _ hb =>
      exact sound_of_agrees (h.hasBlock_of_mem_tops (mem_of_ringBeside hb)) (by simp)
  | preceding _ _ hb =>
      exact sound_of_agrees (h.hasBlock_of_mem_tops (mem_of_ringBeside hb)) (by simp)
  | stackInto hn => exact h.sound_of_topNode hn
  | outputNext hb => exact sound_of_agrees (h.hasBlock_of_owner hb) (by simp)
  | outputPrev _ hd => exact sound_of_agrees (kind?_of_place (h.place_of_previous hd)) (by simp)
  | outputSocket hs =>
      obtain ⟨b, hc⟩ := exists_place_of_own (r := .output) rfl hn
      obtain ⟨a, i, hplace, -, -⟩ := h.place_of_output_target hc hs
      exact sound_of_agrees (kind?_of_place hplace) (by simp)
  | outputStack _ _ ht =>
      exact sound_of_agrees (h.hasBlock_of_mem_tops (h.root_mem_tops ht)) (by simp)
  | previousOutput _ hd => exact sound_of_agrees (kind?_of_place (h.place_of_output hd)) (by simp)
  | previousBlock hb _ => exact sound_of_agrees (h.hasBlock_of_owner hb) (by simp)
  | previousPrev _ hd =>
      exact sound_of_agrees (Or.inl (kind?_of_place (h.place_of_next hd))) (by simp)
  | previousOut hb => exact h.sound_outOfChain (h.hasBlock_of_owner hb)
  | nextNext _ hn => exact h.sound_of_topNode hn
  | nextPrev hb => exact sound_of_agrees (h.hasBlock_of_owner hb) (by simp)
  | nextOut hb => exact h.sound_outOfChain (h.hasBlock_of_owner hb)
  | blockNext hc => exact sound_of_agrees (Or.inl (kind?_of_place (h.place_of_next hc))) (by simp)
  | blockOutput hc => exact sound_of_agrees (kind?_of_place (h.place_of_output hc)) (by simp)
  | blockPrevious _ hc => exact sound_of_agrees (kind?_of_place (h.place_of_previous hc)) (by simp)
  | blockInto _ hn => exact h.sound_of_stop (mem_of_enterForward hn)
  | blockSocket hc hs =>
      obtain ⟨a, i, hplace, -, -⟩ := h.place_of_output_target (h.place_of_output hc) hs
      exact sound_of_agrees (kind?_of_place hplace) (by simp)
  | blockOut hc _ => exact sound_of_agrees (kind?_of_place (h.place_of_output hc)) (by simp)
  | blockChain _ hb => exact h.sound_outOfChain hb
  | @fieldNext f n' hn' =>
      obtain ⟨i, hf, -⟩ := Option.bind_eq_some_iff.mp hn'
      exact h.sound_of_stop (h.stop_of_afterField hf hn')
  | @fieldPrev f n' hn' =>
      obtain ⟨i, hf, -⟩ := Option.bind_eq_some_iff.mp hn'
      obtain ⟨b, hi⟩ := h.exists_inputBlock_of_fieldInput hf
      rcases h.stop_of_beforeField hf hi hn' with hstop | ⟨-, j, -, -, hstop⟩
      · exact h.sound_of_stop hstop
      · exact h.sound_of_stop hstop
  | fieldOut hf hb => exact sound_of_agrees (h.hasBlock_of_inputBlock hb) (by simp)
  | inputNext hn' =>
      obtain ⟨b, i, hc⟩ := exists_place_of_input hn
      obtain ⟨-, -, j, -, -, -, hstop⟩ := h.stop_of_afterSocket hc hn'
      exact h.sound_of_stop hstop
  | inputPrev hn' =>
      obtain ⟨b, i, hc⟩ := exists_place_of_input hn
      rcases h.stop_of_beforeSocket hc hn' with hstop | ⟨-, j, -, -, -, hstop⟩
      · exact h.sound_of_stop hstop
      · exact h.sound_of_stop hstop
  | inputInto _ hn => exact h.sound_of_topNode hn
  | inputOut hb => exact sound_of_agrees (h.hasBlock_of_owner hb) (by simp)

end Workspace

/-! ## What agrees is live -/

variable {ws : Workspace} {n : Node}

lemma Node.Agrees.isLive (hn : n.Agrees ws) : n.isLive ws = true := by
  have hlive : ∀ {c k}, ws.kind? c = some k → ws.hasConnection c = true := by
    intro c k hc
    obtain ⟨b, r, hplace, -⟩ := place_of_kind hc
    exact hasConnection_of_place hplace
  cases n with
  | workspace p => rfl
  | stack b => exact hn
  | block b => exact hn
  | field f => exact hn
  | output c => exact hlive hn
  | previous c => exact hlive hn
  | input c => exact hlive hn
  | next c =>
      rcases hn with hn | ⟨i, hc, -⟩
      · exact hlive hn
      · obtain ⟨b, hplace⟩ := parentInput?_eq_some_iff.mp hc
        exact hasConnection_of_place hplace

end BlockCursor
