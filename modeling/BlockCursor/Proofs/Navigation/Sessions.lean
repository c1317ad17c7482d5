import BlockCursor.Navigation.Cursor
import BlockCursor.Proofs.Navigation.Locations

/-!
# Sessions

A session is a workspace and a cursor on it, with edits and moves in any order.  The cursor does not
see the edits, so its node may go stale; but numbers are never given a new meaning, and so a node
that is still live is still of its kind.

* `Session` — a workspace and a cursor that some order of edits and moves leads to.
* `Evolves.agrees` — a node that agrees goes on agreeing for as long as it is live.
* `Session.known` — the invariant of sessions.
* **`Session.go_sound`** — a move never fails, stays if the node is stale, and else arrives at a
  sound node.
-/

namespace BlockCursor

open Workspace

variable {ws ws' : Workspace} {n : Node} {b : BlockId}

/-! ## Nodes over time -/

/-- The number in a node has been given out. -/
def Node.Issued (ws : Workspace) : Node → Prop
  | .workspace _ => True
  | .stack b | .block b => b.index < ws.blocks.size
  | .field f => f.index < ws.fields.size
  | .input c | .output c | .previous c | .next c => c.index < ws.connections.size

lemma Node.issued_of_isLive (hn : n.isLive ws = true) : n.Issued ws := by
  have hconnection : ∀ {c}, ws.hasConnection c = true → c.index < ws.connections.size := by
    intro c hc
    obtain ⟨x, hx⟩ := Option.isSome_iff_exists.mp hc
    exact Arena.lt_size_of_get? hx
  cases n with
  | workspace p => trivial
  | stack b => exact index_lt_of_hasBlock hn
  | block b => exact index_lt_of_hasBlock hn
  | field f =>
      obtain ⟨x, hx⟩ := Option.isSome_iff_exists.mp hn
      exact Arena.lt_size_of_get? hx
  | input c => exact hconnection hn
  | output c => exact hconnection hn
  | previous c => exact hconnection hn
  | next c => exact hconnection hn

namespace Workspace.Evolves

variable (h : ws.Evolves ws')
include h

lemma issued (hn : n.Issued ws) : n.Issued ws' := by
  cases n with
  | workspace p => trivial
  | stack b => exact hn.trans_le h.blocks_le
  | block b => exact hn.trans_le h.blocks_le
  | field f => exact hn.trans_le h.fields_le
  | input c => exact hn.trans_le h.connections_le
  | output c => exact hn.trans_le h.connections_le
  | previous c => exact hn.trans_le h.connections_le
  | next c => exact hn.trans_le h.connections_le

/-- A node that is live later was live before. -/
lemma isLive_of (hn : n.Issued ws) (hlive : n.isLive ws' = true) : n.isLive ws = true := by
  have hconnection : ∀ {c : ConnectionId}, c.index < ws.connections.size →
      ws'.hasConnection c = true → ws.hasConnection c = true := by
    intro c hc hlive
    rw [hasConnection_eq, ← h.place?_eq hc hlive, ← hasConnection_eq]
    exact hlive
  cases n with
  | workspace p => rfl
  | stack b => exact h.hasBlock_of hn hlive
  | block b => exact h.hasBlock_of hn hlive
  | field f =>
      show (ws.field? f).isSome = true
      rw [← h.field?_eq hn hlive]
      exact hlive
  | input c => exact hconnection hn hlive
  | output c => exact hconnection hn hlive
  | previous c => exact hconnection hn hlive
  | next c => exact hconnection hn hlive

/-- **A node that agrees goes on agreeing for as long as it is live.** -/
theorem agrees (howned : ws'.Owned) (hn : n.Agrees ws) (hlive : n.isLive ws' = true) :
    n.Agrees ws' := by
  have hissued := Node.issued_of_isLive hn.isLive
  cases n with
  | workspace p => trivial
  | stack b => exact hlive
  | block b => exact hlive
  | field f => exact hlive
  | input c => exact (h.kind?_eq hissued hlive).trans hn
  | output c => exact (h.kind?_eq hissued hlive).trans hn
  | previous c => exact (h.kind?_eq hissued hlive).trans hn
  | next c =>
      rcases hn with hn | ⟨i, hc, hi⟩
      · exact Or.inl ((h.kind?_eq hissued hlive).trans hn)
      · obtain ⟨b, hplace⟩ := parentInput?_eq_some_iff.mp hc
        rw [← h.place?_eq hissued hlive] at hplace
        -- the input of a live socket is live, and so it is the input that it was
        have hinput := hasInput_of_inputBlock
          ((howned.input_iff b i).mp (howned.socket_of_place hplace).1)
        obtain ⟨y, hy, -⟩ := Option.map_eq_some_iff.mp hi
        refine Or.inr ⟨i, parentInput?_eq_some_iff.mpr ⟨b, hplace⟩, ?_⟩
        rw [h.inputKind?_eq (Arena.lt_size_of_get? hy) hinput, hi]

end Workspace.Evolves

/-! ## Sessions -/

/-- A workspace and a cursor on it, as any order of edits and moves leads to them.  The cursor
starts on the surface or where a start location says. -/
inductive Session : Workspace → Cursor → Prop
  | default {ws : Workspace} : ws.Reachable → Session ws {}
  | resolved {ws : Workspace} {spec : String} {n : Node} : ws.Reachable →
      Start.resolve ws spec = .ok n → Session ws ⟨n⟩
  | edit {ws : Workspace} {cursor : Cursor} : Session ws cursor → (e : Edit) →
      Session (ws.applyD e) cursor
  | go {ws : Workspace} {cursor after : Cursor} {moved : Bool} : Session ws cursor →
      (step : Float) → (m : Move) → cursor.go (.ofWorkspace ws step) m = .ok (moved, after) →
      Session ws after

/-- What is known of a node that a cursor holds: its number has been given out, and the node agrees
unless it has gone stale. -/
def Node.Known (ws : Workspace) (n : Node) : Prop :=
  n.Issued ws ∧ (n.isLive ws = true → n.Agrees ws)

lemma Node.Agrees.known (hn : n.Agrees ws) : n.Known ws :=
  ⟨Node.issued_of_isLive hn.isLive, fun _ => hn⟩

/-- **One move.**  It never fails, stays if the node is stale, and else arrives at a sound node. -/
theorem Workspace.Forest.exists_go (h : ws.Forest) {cursor : Cursor}
    (hknown : cursor.current.Known ws) (step : Float) (m : Move) :
    ∃ moved after, cursor.go (.ofWorkspace ws step) m = .ok (moved, after) ∧
      (cursor.current.isLive ws = false → moved = false) ∧ (moved = false → after = cursor) ∧
      (moved = true → after.current.Sound ws) := by
  obtain ⟨r, hr⟩ := h.exists_navigate step cursor.current m
  rw [Cursor.go, hr]
  cases r with
  | none => exact ⟨false, cursor, rfl, fun _ => rfl, fun _ => rfl, by simp⟩
  | some n =>
      obtain ⟨hlive, hmove⟩ := Navigator.navigate_eq_some_iff.mp hr
      refine ⟨true, ⟨n⟩, rfl, ?_, by simp, fun _ => hmove.sound h (hknown.2 hlive)⟩
      intro hstale
      rw [hstale] at hlive
      cases hlive

lemma Session.reachable {cursor : Cursor} (h : Session ws cursor) : ws.Reachable := by
  induction h with
  | default hws => exact hws
  | resolved hws _ => exact hws
  | edit _ e ih => exact ih.applyD e
  | go _ _ _ _ ih => exact ih

/-- **The invariant of sessions**: the cursor's node was given out, and is stale or agrees. -/
theorem Session.known {cursor : Cursor} (h : Session ws cursor) : cursor.current.Known ws := by
  induction h with
  | default _ => exact ⟨trivial, fun _ => trivial⟩
  | resolved hws hn => exact (Start.resolve_agrees hws hn).known
  | @edit ws cursor hsession e ih =>
      have hreach := hsession.reachable
      have hevolves := evolves_applyD hreach.forest e
      refine ⟨hevolves.issued ih.1, fun hlive => ?_⟩
      exact hevolves.agrees (hreach.applyD e).forest.toOwned
        (ih.2 (hevolves.isLive_of ih.1 hlive)) hlive
  | @go ws cursor after moved hsession step m hgo ih =>
      obtain ⟨moved', after', hgo', -, hstay, hmove⟩ :=
        hsession.reachable.forest.exists_go ih step m
      rw [hgo] at hgo'
      cases hgo'
      cases moved with
      | false => exact hstay rfl ▸ ih
      | true => exact (hmove rfl).1.known

/-- **Moves in a session.**  A move never fails.  If what the cursor sits on is gone, it stays; and
if it moves, then to a live node whose kind agrees with what it refers to, and never to a field that
cannot be edited. -/
theorem Session.go_sound {cursor : Cursor} (h : Session ws cursor) (step : Float) (m : Move) :
    ∃ moved after, cursor.go (.ofWorkspace ws step) m = .ok (moved, after) ∧
      (cursor.current.isLive ws = false → moved = false ∧ after = cursor) ∧
      (moved = false → after = cursor) ∧
      (moved = true → after.current.isLive ws = true ∧ after.current.Agrees ws ∧
        ∀ f, after.current = .field f → ws.isEditable f = true) := by
  obtain ⟨moved, after, hgo, hstale, hstay, hmove⟩ :=
    h.reachable.forest.exists_go h.known step m
  refine ⟨moved, after, hgo, fun hgone => ⟨hstale hgone, hstay (hstale hgone)⟩, hstay, ?_⟩
  intro hmoved
  obtain ⟨hagrees, hfield⟩ := hmove hmoved
  exact ⟨hagrees.isLive, hagrees, hfield⟩

/-- A cursor that went into the only stack stays where it is once the stack is disposed. -/
theorem go_stays_on_disposed : ∃ moved after,
    (⟨.stack ⟨0⟩⟩ : Cursor).go (.ofWorkspace ((empty.applyD
      (.insert ⟨"hat", false, true, false, []⟩)).applyD (.dispose ⟨0⟩)) 10) .out =
        .ok (moved, after) ∧ moved = false ∧ after = ⟨.stack ⟨0⟩⟩ := by
  have hstart : Session (empty.applyD (.insert ⟨"hat", false, true, false, []⟩)) {} :=
    .edit (.default reachable_empty) _
  have hstack : Session (empty.applyD (.insert ⟨"hat", false, true, false, []⟩)) ⟨.stack ⟨0⟩⟩ :=
    .go hstart 10 .into rfl
  obtain ⟨moved, after, hgo, hstale, -⟩ := (hstack.edit (.dispose ⟨0⟩)).go_sound 10 .out
  exact ⟨moved, after, hgo, hstale rfl⟩

end BlockCursor
