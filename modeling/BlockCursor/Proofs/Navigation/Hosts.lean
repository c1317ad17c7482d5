import BlockCursor.Navigation.Cursor
import BlockCursor.Proofs.Navigation.Moves
import BlockCursor.Proofs.Workspace.Consistency

/-!
# Hosts with a list of their own

A host offers the list of stacks for a workspace, and nothing makes it offer the right one: it may
be empty, hold a block twice, hold blocks that are gone, or leave out a top.  Only moves from stack
to stack and moves from a point into the first stack read the list.  The former fail if the root is
not on the list, and nothing else fails.

* `Node.ReadsRing` — the moves that read the list.
* `stackBeside?_of_idxOf` — around the list, no place is out of range.
* **`navigate_eq_error_iff`** — which moves fail, and how.
* `Cursor.goInPlace_eq` — a cursor that is moved in place.
* **`foreign_ring`** — all of it for one list and one move.
* **`Reachable.never_fails_iff`** — the lists with which no move fails.
-/

namespace BlockCursor

/-- The list of stacks is read by moves from stack to stack and from a point to the first stack. -/
def Node.ReadsRing (n : Node) (m : Move) : Prop :=
  (n.kind = .stack ∧ (m = .next ∨ m = .prev)) ∨ (n.kind = .workspace ∧ m = .into)

namespace Workspace

variable {ws : Workspace} {ring : List BlockId} {step : Float} {n : Node} {m : Move} {b t : BlockId}
  {i : ℕ} {e : CursorError} {forward : Bool}

/-! ## Around the list -/

/-- **No place is out of range**: from a root that is on the list, the place after it and the place
before it are both on the list, and there is a block in them. -/
lemma stackBeside?_of_idxOf (hroot : (n.block? ws).bind ws.root? = some t)
    (hi : ring.idxOf? t = some i) (forward : Bool) :
    0 < ring.length ∧
      (if forward then i + 1 else i + ring.length - 1) % ring.length < ring.length ∧
      ∃ u ∈ ring, stackBeside? ws ring n forward = .ok (some (.stack u)) := by
  obtain ⟨hlt, -⟩ := List.idxOf?_eq_some_iff.mp hi
  have hpos : 0 < ring.length := Nat.zero_lt_of_lt hlt
  have hplace := Nat.mod_lt (if forward then i + 1 else i + ring.length - 1) hpos
  refine ⟨hpos, hplace, _, List.getElem_mem hplace, ?_⟩
  have hbeside : ringBeside ring i forward = some _ := List.getElem?_eq_getElem hplace
  simp only [stackBeside?, hroot, hi, hbeside, Option.map_some]

lemma stackBeside?_eq_error_iff : stackBeside? ws ring n forward = .error e ↔
    ∃ t, (n.block? ws).bind ws.root? = some t ∧ t ∉ ring ∧ e = .stackNotFound t := by
  cases hroot : (n.block? ws).bind ws.root? with
  | none => simp [stackBeside?, hroot]
  | some t =>
      cases hi : ring.idxOf? t with
      | none =>
          have ht : t ∉ ring := List.idxOf?_eq_none_iff.mp hi
          simp only [stackBeside?, hroot, hi]
          simp [ht, eq_comm]
      | some i =>
          obtain ⟨-, -, u, -, hok⟩ := stackBeside?_of_idxOf hroot hi forward
          have ht : t ∈ ring := by
            by_contra hnot
            rw [List.idxOf?_eq_none_iff.mpr hnot] at hi
            cases hi
          simp [hok, ht]

/-! ## Moves -/

/-- All other moves answer as they do with the workspace's own list. -/
lemma navigate_of_not_readsRing (h : ¬ n.ReadsRing m) :
    (⟨ws, ring, step⟩ : Navigator).navigate n m = (Navigator.ofWorkspace ws step).navigate n m := by
  cases n with
  | workspace p =>
      cases m with
      | into => exact absurd (Or.inr ⟨rfl, rfl⟩) h
      | next | prev | out => rfl
  | stack b =>
      cases m with
      | next => exact absurd (Or.inl ⟨rfl, Or.inl rfl⟩) h
      | prev => exact absurd (Or.inl ⟨rfl, Or.inr rfl⟩) h
      | into | out => rfl
  | block b | field f | input c | output c | previous c | next c => cases m <;> rfl

/-- No move but those from stack to stack has a way to fail. -/
lemma exists_stack_of_error (h : (⟨ws, ring, step⟩ : Navigator).navigate n m = .error e) :
    ∃ b, n = .stack b ∧ ws.hasBlock b = true ∧ (m = .next ∨ m = .prev) := by
  by_cases hlive : n.isLive ws = true
  · simp only [Navigator.navigate, hlive, if_true] at h
    cases m with
    | into | out => cases h
    | next | prev =>
        cases n with
        | stack b => exact ⟨b, rfl, hlive, by simp⟩
        | _ => cases h
  · rw [show (⟨ws, ring, step⟩ : Navigator).navigate n m = .ok none from if_neg hlive] at h
    cases h

/-- A move from a live stack asks for the stack beside it. -/
lemma navigate_stack (hb : ws.hasBlock b = true) (hm : m = .next ∨ m = .prev) :
    ∃ forward, (⟨ws, ring, step⟩ : Navigator).navigate (.stack b) m =
      stackBeside? ws ring (.stack b) forward := by
  rcases hm with rfl | rfl
  · exact ⟨true, if_pos hb⟩
  · exact ⟨false, if_pos hb⟩

/-- **Which moves fail**: those from a live stack to the next or the previous one whose root is not
on the list. -/
theorem navigate_eq_error_iff : (⟨ws, ring, step⟩ : Navigator).navigate n m = .error e ↔
    ∃ b t, n = .stack b ∧ (m = .next ∨ m = .prev) ∧ ws.hasBlock b = true ∧ ws.root? b = some t ∧
      t ∉ ring ∧ e = .stackNotFound t := by
  have hbeside : ∀ {b}, ws.hasBlock b = true → (m = .next ∨ m = .prev) →
      ((⟨ws, ring, step⟩ : Navigator).navigate (.stack b) m = .error e ↔
        ∃ t, ws.root? b = some t ∧ t ∉ ring ∧ e = .stackNotFound t) := by
    intro b hb hm
    obtain ⟨forward, hmove⟩ := navigate_stack hb hm
    have hblock : (Node.stack b).block? ws = some b := if_pos hb
    rw [hmove, stackBeside?_eq_error_iff, hblock, Option.bind_some]
  constructor
  · intro herror
    obtain ⟨b, rfl, hb, hm⟩ := exists_stack_of_error herror
    obtain ⟨t, ht⟩ := (hbeside hb hm).mp herror
    exact ⟨b, t, rfl, hm, hb, ht⟩
  · rintro ⟨b, t, rfl, hm, hb, ht⟩
    exact (hbeside hb hm).mpr ⟨t, ht⟩

end Workspace

/-! ## Cursors -/

/-- A cursor that is moved in place goes where `Cursor.go` says, and where that fails it stays. -/
lemma Cursor.goInPlace_eq (nav : Navigator) (m : Move) (cursor : Cursor) :
    goInPlace nav m cursor =
      match cursor.go nav m with
      | .ok (moved, after) => .ok moved after
      | .error e => .error e cursor := by
  show (goInPlace nav m).run cursor = _
  rw [goInPlace, EStateM.run_bind, EStateM.run_get, go]
  dsimp only
  cases nav.navigate cursor.current m with
  | error e => rfl
  | ok r => cases r <;> rfl

open Workspace

variable {ws : Workspace}

/-- **A host with a list of its own.**  Whatever the list, a move fails just if it is from a live
stack to the next or the previous one and the root of the stack is not on the list, and the failure
names that root; a cursor that was to make it stays where it was.  Where the root is on the list, no
place around the list is out of range and the list has a block there.  Every other move answers as
with the workspace's own list. -/
theorem foreign_ring (ws : Workspace) (ring : List BlockId) (step : Float) (n : Node) (m : Move) :
    (∀ e, (⟨ws, ring, step⟩ : Navigator).navigate n m = .error e ↔
      ∃ b t, n = .stack b ∧ (m = .next ∨ m = .prev) ∧ ws.hasBlock b = true ∧
        ws.root? b = some t ∧ t ∉ ring ∧ e = .stackNotFound t) ∧
    (∀ e, (⟨ws, ring, step⟩ : Navigator).navigate n m = .error e →
      Cursor.goInPlace ⟨ws, ring, step⟩ m ⟨n⟩ = .error e ⟨n⟩) ∧
    (∀ t i forward, (n.block? ws).bind ws.root? = some t → ring.idxOf? t = some i →
      0 < ring.length ∧
      (if forward then i + 1 else i + ring.length - 1) % ring.length < ring.length ∧
      ∃ u ∈ ring, stackBeside? ws ring n forward = .ok (some (.stack u))) ∧
    (¬ n.ReadsRing m → (⟨ws, ring, step⟩ : Navigator).navigate n m =
      (Navigator.ofWorkspace ws step).navigate n m) := by
  refine ⟨fun e => navigate_eq_error_iff, fun e herror => ?_,
    fun t i forward hroot hi => stackBeside?_of_idxOf hroot hi forward, navigate_of_not_readsRing⟩
  rw [Cursor.goInPlace_eq, Cursor.go, herror]

/-- A list that has lost the only stack, and one where it stands beside a block that is gone. -/
theorem foreign_ring_of_hat :
    Cursor.goInPlace ⟨empty.applyD (.insert ⟨"hat", false, true, false, []⟩), [⟨7⟩], 10⟩ .next
      ⟨.stack ⟨0⟩⟩ = .error (.stackNotFound ⟨0⟩) ⟨.stack ⟨0⟩⟩ ∧
    (∃ u ∈ ([⟨7⟩, ⟨0⟩, ⟨7⟩] : List BlockId),
      stackBeside? (empty.applyD (.insert ⟨"hat", false, true, false, []⟩)) [⟨7⟩, ⟨0⟩, ⟨7⟩]
        (.stack ⟨0⟩) true = .ok (some (.stack u))) := by
  constructor
  · obtain ⟨herror, hstays, -⟩ := foreign_ring
      (empty.applyD (.insert ⟨"hat", false, true, false, []⟩)) [⟨7⟩] 10 (.stack ⟨0⟩) .next
    exact hstays _ ((herror _).mpr ⟨⟨0⟩, ⟨0⟩, rfl, Or.inl rfl, rfl, rfl, by decide, rfl⟩)
  · obtain ⟨-, -, hplaces, -⟩ := foreign_ring
      (empty.applyD (.insert ⟨"hat", false, true, false, []⟩)) [⟨7⟩, ⟨0⟩, ⟨7⟩] 10 (.stack ⟨0⟩) .next
    exact (hplaces ⟨0⟩ 1 true rfl rfl).2.2

/-- **The lists with which no move fails** are those that have all tops of the workspace on them. -/
theorem Workspace.Reachable.never_fails_iff (h : ws.Reachable) (ring : List BlockId)
    (step : Float) :
    (∀ n m e, (⟨ws, ring, step⟩ : Navigator).navigate n m ≠ .error e) ↔
      ∀ t ∈ ws.tops, t ∈ ring := by
  constructor
  · intro hnever t ht
    by_contra hnot
    have hroot := h.forest.root_of_mem_tops ht
    exact hnever (.stack t) .next (.stackNotFound t) (navigate_eq_error_iff.mpr
      ⟨t, t, rfl, Or.inl rfl, h.forest.hasBlock_of_mem_tops ht, hroot, hnot, rfl⟩)
  · intro hall n m e herror
    obtain ⟨b, t, -, -, -, hroot, hnot, -⟩ := navigate_eq_error_iff.mp herror
    exact hnot (hall t (h.forest.root_mem_tops hroot))

end BlockCursor
