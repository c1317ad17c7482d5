import BlockCursor.Proofs.Workspace.Consistency
import BlockCursor.Workspace.InPlace

/-!
# All or nothing

An edit that is made in place could be refused after its first write.  None is.  A label, a link and
the end of a link are checked in full before anything is written; and when a block is disposed, the
links that are broken first are links of a live block to live blocks, and breaking one of those is
never refused.

* `Workspace.outcome` — what an edit in place should come to: the new workspace, or the old one.
* `InPlace.run_connect` and its like — one edit in place.
* **`Forest.run_edit`** — any edit.
* **`Reachable.all_or_nothing`** — a refused edit leaves the workspace as it was.
-/

namespace BlockCursor.Workspace

variable {ws ws' : Workspace} {b : BlockId} {c : ConnectionId} {e : Edit}

/-- What an edit should come to: the workspace that it answers, or the old one with the refusal. -/
def outcome (ws : Workspace) : Except EditError Workspace → EStateM.Result EditError Workspace Unit
  | .ok after => .ok () after
  | .error refusal => .error refusal ws

namespace InPlace

/-! ## One edit -/

/-- What is read first is read off the workspace that the edit begins with. -/
lemma run_get_bind (f : Workspace → InPlace Unit) (ws : Workspace) :
    (get >>= f : InPlace Unit) ws = f ws ws :=
  rfl

lemma run_setLabel (ws : Workspace) (b : BlockId) (label : String) :
    setLabel b label ws = ws.outcome (ws.setLabel b label) := by
  rw [setLabel, run_get_bind, Workspace.setLabel]
  split
  · rfl
  split
  · rfl
  cases ws.labelOf? b <;> rfl

lemma run_connect (ws : Workspace) (p c : ConnectionId) :
    connect p c ws = ws.outcome (ws.connect p c) := by
  rw [connect, run_get_bind, Workspace.connect]
  cases ws.connection? p with
  | none => rfl
  | some x =>
      cases ws.connection? c with
      | none => rfl
      | some y =>
          -- the kinds, what hangs above already, what hangs below already, and the root
          dsimp only
          split
          · rfl
          split
          · rfl
          split
          · rfl
          split
          · rfl
          rfl

lemma run_disconnect (ws : Workspace) (c : ConnectionId) :
    disconnect c ws = ws.outcome (ws.disconnect c) := by
  rw [disconnect, run_get_bind, Workspace.disconnect]
  cases ws.connection? c with
  | none => rfl
  | some x =>
      cases ht : x.target with
      | none =>
          simp only [ht]
          rfl
      | some d =>
          simp only [ht]
          cases ws.owner? (lowerEnd c x.role d) <;> rfl

lemma run_release (ws : Workspace) (c : ConnectionId) :
    release c ws = ws.outcome (ws.release c) := by
  rw [release, run_get_bind, Workspace.release]
  split
  · exact run_disconnect ws c
  · rfl

/-- Where all links can be broken one after the other, they are broken in place. -/
lemma run_releases {cs : List ConnectionId} (hok : cs.foldlM Workspace.release ws = .ok ws') :
    cs.forM release ws = .ok () ws' := by
  induction cs generalizing ws with
  | nil =>
      cases hok
      rfl
  | cons c cs ih =>
      obtain ⟨mid, hmid, hok⟩ := exists_of_bind_eq_ok hok
      show EStateM.bind (release c) (fun _ => cs.forM release) ws = _
      rw [EStateM.bind, run_release, hmid]
      exact ih hok

end InPlace

/-- In a forest the links that a disposal breaks first can be broken, so it ends as it should. -/
lemma Forest.run_dispose (h : ws.Forest) (b : BlockId) :
    InPlace.dispose b ws = ws.outcome (ws.dispose b) := by
  by_cases hb : ws.hasBlock b = true
  · obtain ⟨mid, hmid, -⟩ := h.exists_released b
    rw [dispose_of_released hb hmid, InPlace.dispose, InPlace.run_get_bind, hb]
    show EStateM.bind (List.forM _ InPlace.release) _ ws = _
    rw [EStateM.bind, InPlace.run_releases hmid]
    rfl
  · rw [dispose_eq_error hb, InPlace.dispose, InPlace.run_get_bind,
      Bool.eq_false_of_not_eq_true hb]
    rfl

/-- **Any edit in place** ends with the workspace that the edit answers, or is refused and ends with
the workspace that it began with. -/
theorem Forest.run_edit (h : ws.Forest) (e : Edit) :
    InPlace.edit e ws = ws.outcome (ws.apply e) := by
  cases e with
  | insert spec => rfl
  | setLabel b label => exact InPlace.run_setLabel ws b label
  | connect p c => exact InPlace.run_connect ws p c
  | disconnect c => exact InPlace.run_disconnect ws c
  | dispose b => exact h.run_dispose b

/-- **All or nothing.**  An edit in place that is refused leaves the workspace just as it was, with
its objects, links, tops and labels; one that is not refused leaves the workspace that the edit
answers.  A disposal is refused if the block is not live, and for no other reason. -/
theorem Reachable.all_or_nothing (h : ws.Reachable) :
    (∀ e refusal after, InPlace.edit e ws = .error refusal after ↔
      ws.apply e = .error refusal ∧ after = ws) ∧
    (∀ e after, InPlace.edit e ws = .ok () after ↔ ws.apply e = .ok after) ∧
    ∀ b refusal after, InPlace.edit (.dispose b) ws = .error refusal after ↔
      ws.hasBlock b = false ∧ refusal = .unknownBlock b ∧ after = ws := by
  refine ⟨fun e refusal after => ?_, fun e after => ?_, fun b refusal after => ?_⟩
  · rw [h.forest.run_edit e]
    cases ws.apply e <;> simp [outcome, eq_comm]
  · rw [h.forest.run_edit e]
    cases ws.apply e <;> simp [outcome]
  · rw [h.forest.run_edit]
    by_cases hb : ws.hasBlock b = true
    · obtain ⟨mid, -, -, hok⟩ := dispose_eq_ok h.forest hb
      simp [Workspace.apply, hok, outcome, hb]
    · simp [Workspace.apply, dispose_eq_error hb, outcome, hb, eq_comm]

/-- A block that another one is plugged into. -/
def plugEdits : List Edit :=
  [.insert ⟨"holder", false, true, false, [⟨"value", .value, []⟩]⟩,
    .insert ⟨"plugged", false, false, true, []⟩, .connect ⟨1⟩ ⟨2⟩]

/-- A second link at the same socket is refused, and so is disposing a block that was never there;
disposing the plugged block is not. -/
theorem refused_beside_plug :
    InPlace.edit (.connect ⟨1⟩ ⟨2⟩) (applyAll empty plugEdits) =
      .error (.occupied ⟨1⟩) (applyAll empty plugEdits) ∧
    InPlace.edit (.dispose ⟨2⟩) (applyAll empty plugEdits) =
      .error (.unknownBlock ⟨2⟩) (applyAll empty plugEdits) ∧
    ∃ after, InPlace.edit (.dispose ⟨1⟩) (applyAll empty plugEdits) = .ok () after := by
  obtain ⟨hrefused, hanswers, hdispose⟩ := Reachable.all_or_nothing ⟨plugEdits, rfl⟩
  refine ⟨?_, ?_, ?_⟩
  · exact (hrefused (.connect ⟨1⟩ ⟨2⟩) _ _).mpr ⟨rfl, rfl⟩
  · exact (hdispose ⟨2⟩ _ _).mpr ⟨rfl, rfl, rfl⟩
  · exact ⟨_, (hanswers (.dispose ⟨1⟩) _).mpr rfl⟩

end BlockCursor.Workspace
