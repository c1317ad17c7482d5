import BlockCursor.Proofs.Navigation.Moves
import BlockCursor.Proofs.Navigation.Order
import BlockCursor.Proofs.Workspace.Consistency

/-!
# Moves inside a block follow display order

The moves inside a block come from four walkers with fallbacks of their own: forward an input is
entered at its fields and backward at its socket, a search may stop at one input or go past several,
and back from a field only the socket just before is looked at.  All of them go by one row, the
stops of the block in display order.

* `Workspace.InDisplayOrder` — what each of the moves does, told by the row.
* **`Reachable.moves_in_display_order`** — on a live block they all do that.
-/

namespace BlockCursor.Workspace

variable {ws : Workspace} {b : BlockId} {c : ConnectionId} {f : FieldId}

/-- The moves into a block and between its fields and sockets go by what the block shows, where they
stop on sockets and editable fields alone. -/
structure InDisplayOrder (ws : Workspace) (step : Float) (b : BlockId) : Prop where
  /-- In goes to the first stop, if that is in the first input. -/
  into : (Navigator.ofWorkspace ws step).navigate (.block b) .into =
    .ok ((ws.stops b).head?.filter fun n => ws.stopInput? n = (ws.inputsOf b).head?)
  /-- All sockets of the block are among its stops. -/
  socket_mem : ∀ i ∈ ws.inputsOf b, ∀ c, ws.socket? i = some c → .input c ∈ ws.stops b
  /-- Next from a socket goes to the following stop. -/
  socket_next : ∀ c pre post, ws.stops b = pre ++ .input c :: post →
    (Navigator.ofWorkspace ws step).navigate (.input c) .next = .ok post.head?
  /-- Prev from a socket goes to the preceding stop. -/
  socket_prev : ∀ c pre post, ws.stops b = pre ++ .input c :: post →
    (Navigator.ofWorkspace ws step).navigate (.input c) .prev = .ok pre.getLast?
  /-- All fields of the block are shown. -/
  field_mem : ∀ i ∈ ws.inputsOf b, ∀ f ∈ ws.fieldsOf i, .field f ∈ ws.displayed b
  /-- Next from a field, be it a stop or not, goes to the first stop after it, if that is in the
  same input. -/
  field_next : ∀ f pre post, ws.displayed b = pre ++ .field f :: post →
    ∃ r, (Navigator.ofWorkspace ws step).navigate (.field f) .next = .ok r ∧
      ∀ n, r = some n ↔
        (post.filter ws.isStop).head? = some n ∧ ws.stopInput? n = ws.fieldInput? f
  /-- Prev from a field, be it a stop or not, goes to the last stop before it, if that is in the
  same input or is the socket of the input just before. -/
  field_prev : ∀ f pre post, ws.displayed b = pre ++ .field f :: post →
    ∃ r, (Navigator.ofWorkspace ws step).navigate (.field f) .prev = .ok r ∧
      ∀ n, r = some n ↔ (pre.filter ws.isStop).getLast? = some n ∧
        (ws.stopInput? n = ws.fieldInput? f ∨ ∃ j i s, [j, i] <:+: ws.inputsOf b ∧
          ws.fieldInput? f = some i ∧ ws.socket? j = some s ∧ n = .input s)

namespace Owned

variable (h : ws.Owned)
include h

/-- **A block is entered** at its first stop, if that is in its first input. -/
theorem enterForward_head : (ws.inputsOf b).head?.bind ws.enterForward? =
    (ws.stops b).head?.filter fun n => ws.stopInput? n = (ws.inputsOf b).head? := by
  rw [stops]
  have hnodup := h.inputs_nodup b
  cases hrow : ws.inputsOf b with
  | nil => rfl
  | cons i rest =>
      rw [hrow, List.nodup_cons] at hnodup
      rw [List.head?_cons, Option.bind_some, enterForward?_eq_head?, List.flatMap_cons,
        List.head?_append]
      cases hn : (ws.inputStops i).head? with
      | some n =>
          have hi := h.stopInput_of_mem (List.mem_of_head? hn)
          rw [Option.some_or, Option.filter_some_pos (by simp [hi])]
      | none =>
          -- the first stop is in a later input, if there is any
          rw [Option.none_or, eq_comm, Option.filter_eq_none_iff]
          intro n hn' hi
          obtain ⟨j, hj, hmem⟩ := List.mem_flatMap.mp (List.mem_of_head? hn')
          have hij : ws.stopInput? n = some i := of_decide_eq_true hi
          obtain rfl : j = i := Option.some.inj ((h.stopInput_of_mem hmem).symm.trans hij)
          exact hnodup.1 hj

lemma isLive_of_stops (hc : .input c ∈ ws.stops b) : (Node.input c).isLive ws = true := by
  rcases h.mem_stops_cases hc with ⟨f, i, hf, -⟩ | ⟨_, i, hinput, hplace⟩
  · cases hf
  · cases hinput
    exact hasConnection_of_place hplace

lemma isLive_of_displayed (hf : .field f ∈ ws.displayed b) : (Node.field f).isLive ws = true := by
  obtain ⟨i, -, hshown⟩ := List.mem_flatMap.mp hf
  exact hasField_of_fieldInput (h.stopInput_of_shown hshown)

end Owned

/-- **Moves inside a block follow display order.** -/
theorem Reachable.moves_in_display_order (h : ws.Reachable) (step : Float)
    (hb : ws.hasBlock b = true) : ws.InDisplayOrder step b := by
  have howned := h.forest.toOwned
  have hlive : (Node.block b).isLive ws = true := hb
  have hsocket : ∀ {c pre post}, ws.stops b = pre ++ .input c :: post →
      (Node.input c).isLive ws = true := fun hrow =>
    howned.isLive_of_stops (hrow ▸ List.mem_append_right _ List.mem_cons_self)
  have hfield : ∀ {f pre post}, ws.displayed b = pre ++ .field f :: post →
      (Node.field f).isLive ws = true := fun hrow =>
    howned.isLive_of_displayed (hrow ▸ List.mem_append_right _ List.mem_cons_self)
  refine ⟨?into, fun i hi c hc => ?_, fun c pre post hrow => ?_, fun c pre post hrow => ?_,
    fun i hi f hf => ?_, fun f pre post hrow => ?_, fun f pre post hrow => ?_⟩
  case into =>
    rw [Navigator.navigate_of_live hlive, ← howned.enterForward_head]
    rfl
  · exact List.mem_flatMap.mpr ⟨i, hi, input_mem_inputStops hc⟩
  · rw [Navigator.navigate_of_live (hsocket hrow), ← howned.afterSocket_eq hrow]
    rfl
  · rw [Navigator.navigate_of_live (hsocket hrow), ← howned.beforeSocket_eq hrow]
    rfl
  · exact howned.field_mem_displayed ((howned.field_iff i f).mp hf) ((howned.input_iff b i).mp hi)
  · refine ⟨ws.afterField? f, Navigator.navigate_of_live (hfield hrow), fun n => ?_⟩
    exact howned.afterField_iff_of_displayed hrow
  · refine ⟨ws.beforeField? f, Navigator.navigate_of_live (hfield hrow), fun n => ?_⟩
    exact howned.beforeField_iff_of_displayed hrow

/-- A block with a value input, an empty row and a statement input, each of the two with a field
that is a stop and one that is not. -/
def mixedEdits : List Edit :=
  [.insert ⟨"mixed", false, true, false, [⟨"first", .value, [⟨"name", false⟩, ⟨"x", true⟩]⟩,
    ⟨"gap", .dummy, []⟩, ⟨"last", .statement, [⟨"y", true⟩, ⟨"tail", false⟩]⟩]⟩]

/-- In goes past the name; next from the first socket goes past the gap to the field behind it, and
prev from there does not; next from the tail goes to the socket. -/
theorem moves_around_gap :
    (Navigator.ofWorkspace (applyAll empty mixedEdits)).navigate (.block ⟨0⟩) .into =
      .ok (some (.field ⟨1⟩)) ∧
    (Navigator.ofWorkspace (applyAll empty mixedEdits)).navigate (.input ⟨1⟩) .next =
      .ok (some (.field ⟨2⟩)) ∧
    (Navigator.ofWorkspace (applyAll empty mixedEdits)).navigate (.field ⟨2⟩) .prev = .ok none ∧
    (Navigator.ofWorkspace (applyAll empty mixedEdits)).navigate (.field ⟨3⟩) .next =
      .ok (some (.input ⟨2⟩)) := by
  have horder : (applyAll empty mixedEdits).InDisplayOrder 10 ⟨0⟩ :=
    Reachable.moves_in_display_order ⟨mixedEdits, rfl⟩ 10 rfl
  refine ⟨horder.into, horder.socket_next ⟨1⟩ [.field ⟨1⟩] [.field ⟨2⟩, .input ⟨2⟩] rfl, ?_, ?_⟩
  · obtain ⟨r, hprev, hr⟩ := horder.field_prev ⟨2⟩ [.field ⟨0⟩, .field ⟨1⟩, .input ⟨1⟩]
      [.field ⟨3⟩, .input ⟨2⟩] rfl
    rw [hprev, Except.ok.injEq, Option.eq_none_iff_forall_ne_some]
    intro n hn
    obtain ⟨hlast, hnear⟩ := (hr n).mp hn
    cases hlast
    rcases hnear with hsame | ⟨j, i, s, hpair, hi, hj, hs⟩
    · cases hsame
    · cases hi
      -- the input just before is the gap, and that has no socket
      have hgap : j = ⟨1⟩ := left_unique (by decide) hpair ⟨[⟨0⟩], [], rfl⟩
      subst hgap
      cases hj
  · obtain ⟨r, hnext, hr⟩ := horder.field_next ⟨3⟩
      [.field ⟨0⟩, .field ⟨1⟩, .input ⟨1⟩, .field ⟨2⟩] [.input ⟨2⟩] rfl
    rw [hnext, (hr (.input ⟨2⟩)).mpr ⟨rfl, rfl⟩]

end BlockCursor.Workspace
