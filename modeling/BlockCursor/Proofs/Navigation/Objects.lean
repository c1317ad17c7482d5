import BlockCursor.Navigation.Navigator
import BlockCursor.Proofs.Workspace.ObjectIds

/-!
# What nodes refer to

A node refers to an object by its id, or to a point.  The object may be gone, and then the node is
stale; and since no id is given out twice, a stale node stays stale whatever is built afterwards.

* `Node.object?` — the id in a node.
* `Owned.exists_block`, `isLive_of_block` — what is live belongs to a live block.
* **`given_out_once`** — ids through a whole history: new ones are new, those whose objects are gone
  lead nowhere for ever, and what is fixed about an object stays.
-/

namespace BlockCursor

/-- The id of what a node refers to; a point is no object. -/
def Node.object? (n : Node) : Option ObjectId :=
  match n.reference with
  | .point _ => none
  | .block b => some (.block b)
  | .connection c => some (.connection c)
  | .field f => some (.field f)

lemma Node.isLive_eq (ws : Workspace) (n : Node) : n.isLive ws = n.object?.all ws.has := by
  cases n <;> rfl

lemma Node.block?_eq (ws : Workspace) (n : Node) :
    n.block? ws = n.object?.bind (ObjectId.block? ws) := by
  cases n <;> rfl

lemma Node.exists_object {n : Node} (hn : n.kind ≠ .workspace) : ∃ o, n.object? = some o := by
  cases n with
  | workspace p => exact absurd rfl hn
  | _ => exact ⟨_, rfl⟩

namespace Workspace

variable {ws : Workspace} {n : Node} {b : BlockId} {o : ObjectId}

/-- What is live, points apart, belongs to a live block. -/
lemma Owned.exists_block (h : ws.Owned) (hn : n.kind ≠ .workspace) (hlive : n.isLive ws = true) :
    ∃ b, n.block? ws = some b ∧ ws.hasBlock b = true := by
  obtain ⟨o, ho⟩ := Node.exists_object hn
  rw [Node.isLive_eq, ho, Option.all_some] at hlive
  rw [Node.block?_eq, ho, Option.bind_some]
  exact h.exists_block_of_has hlive

/-- What belongs to a block is live. -/
lemma isLive_of_block (hn : n.block? ws = some b) : n.isLive ws = true := by
  rw [Node.block?_eq] at hn
  obtain ⟨o, ho, hb⟩ := Option.bind_eq_some_iff.mp hn
  rw [Node.isLive_eq, ho, Option.all_some]
  exact has_of_block hb

/-- A node whose object is gone leads nowhere. -/
lemma navigate_of_gone (hn : n.object? = some o) (hgone : ws.has o = false)
    (ring : List BlockId) (step : Float) (m : Move) :
    (⟨ws, ring, step⟩ : Navigator).navigate n m = .ok none := by
  have hstale : n.isLive ws = false := by
    rw [Node.isLive_eq, hn, Option.all_some, hgone]
  exact if_neg (ne_true_of_eq_false hstale)

/-- **Ids are given out once.**  Along any row of edits, no id is given out twice; each object that
is live has been given its id, and as long as it is live it has the attributes that it had; and an
id whose object is gone never gets an object again, so that every move from a node with that id
leads nowhere for ever. -/
theorem given_out_once (edits later : List Edit) :
    ((handedOut empty edits).Nodup ∧ ∀ spec,
      ∀ o ∈ (applyAll empty edits).handsOut (.insert spec), o ∉ handedOut empty edits) ∧
    (∀ o, (applyAll empty edits).has o = true → o ∈ handedOut empty edits ∧
      ((applyAll empty (edits ++ later)).has o = true →
        (applyAll empty (edits ++ later)).attributes? o = (applyAll empty edits).attributes? o)) ∧
    ∀ o ∈ handedOut empty edits, (applyAll empty edits).has o = false →
      (applyAll empty (edits ++ later)).has o = false ∧
      ∀ n : Node, n.object? = some o → ∀ (ring : List BlockId) (step : Float) (m : Move),
        (⟨applyAll empty (edits ++ later), ring, step⟩ : Navigator).navigate n m = .ok none := by
  have hreach : (applyAll empty edits).Reachable := ⟨edits, rfl⟩
  have hevolves := hreach.evolves_applyAll later
  rw [← applyAll_append] at hevolves
  refine ⟨⟨reachable_empty.nodup_handedOut edits, fun spec o ho hold => ?_⟩, fun o hlive => ?_,
    fun o ho hgone => ?_⟩
  · exact (hreach.forest.of_mem_handsOut ho).1 (reachable_empty.of_mem_handedOut hold).2
  · refine ⟨(reachable_empty.has_or_handedOut hlive).resolve_left fun hempty => ?_,
      hevolves.attributes_eq (issued_of_has hlive)⟩
    cases o <;> cases hempty
  · have hissued := (reachable_empty.of_mem_handedOut ho).2
    have hgone' : (applyAll empty (edits ++ later)).has o = false := by
      refine Bool.eq_false_of_not_eq_true fun hlive => ?_
      rw [hevolves.has_of hissued hlive] at hgone
      cases hgone
    exact ⟨hgone', fun n hn => navigate_of_gone hn hgone'⟩

/-- Two blocks, the first of which is disposed. -/
def disposedEdits : List Edit :=
  [.insert ⟨"gone", false, true, false, []⟩, .insert ⟨"kept", true, false, false, []⟩,
    .dispose ⟨0⟩]

/-- A block that is built afterwards does not bring the first one back; it has an id of its own, and
the block that was kept is what it was. -/
theorem gone_after_rebuild :
    (⟨applyAll empty (disposedEdits ++ [.insert ⟨"new", false, true, false, []⟩]), [], 10⟩ :
        Navigator).navigate (.block ⟨0⟩) .next = .ok none ∧
    .block ⟨2⟩ ∉ handedOut empty disposedEdits ∧
    (applyAll empty (disposedEdits ++ [.insert ⟨"new", false, true, false, []⟩])).attributes?
      (.block ⟨1⟩) = some (.block ⟨"kept", some ⟨1⟩, none, none, []⟩) := by
  obtain ⟨⟨-, hnew⟩, hlive, hgone⟩ :=
    given_out_once disposedEdits [.insert ⟨"new", false, true, false, []⟩]
  refine ⟨?_, ?_, ?_⟩
  · exact (hgone (.block ⟨0⟩) (by decide) (by decide)).2 _ rfl [] 10 .next
  · exact hnew ⟨"new", false, true, false, []⟩ (.block ⟨2⟩) (by decide)
  · exact ((hlive (.block ⟨1⟩) (by decide)).2 (by decide)).trans (by decide)

end Workspace

end BlockCursor
