import BlockCursor.Workspace.Edit

/-!
# Disposing slot by slot

`Workspace.dispose` lists a subtree and then removes all of it at once.  Here the same is done with
no list of what is below: blocks wait on a stack, the one on top is taken out of its slot together
with its inputs, fields and connections, and what was linked to its sockets and to its next
connection is put on the stack.  So links are followed out of slots while slots are being emptied.

* `Workspace.sweepBlock` — removes one block and answers what hung from it.
* `Workspace.sweep` — removes blocks until the stack is empty.
* `Workspace.disposeBySlots` — removes a block with everything below it.

None of the sweeps has an answer if it is to empty a slot with a number that was never given out.
-/

namespace BlockCursor.Workspace

/-- Empties the slot of a field. -/
def clearField (ws : Workspace) (f : FieldId) : Option Workspace := do
  let (_, fields) ← ws.fields.take? f.index
  return { ws with fields }

/-- Empties the slot of a connection. -/
def clearConnection (ws : Workspace) (c : ConnectionId) : Option Workspace := do
  let (_, connections) ← ws.connections.take? c.index
  return { ws with connections }

/-- Removes an input with its fields and its socket, and answers the block that hung from it. -/
def sweepInput (ws : Workspace) (i : InputId) : Option (List BlockId × Workspace) := do
  let (slot, inputs) ← ws.inputs.take? i.index
  let ws := { ws with inputs }
  match slot with
  | none => return ([], ws)
  | some x =>
    let ws ← x.fields.foldlM clearField ws
    let held := (x.socket.bind ws.targetBlock?).toList
    let ws ← x.socket.toList.foldlM clearConnection ws
    return (held, ws)

/-- Removes inputs one after the other. -/
def sweepInputs (ws : Workspace) : List InputId → Option (List BlockId × Workspace)
  | [] => some ([], ws)
  | i :: rest => do
    let (held, ws) ← ws.sweepInput i
    let (more, ws) ← ws.sweepInputs rest
    return (held ++ more, ws)

/-- Removes all that belongs to a block whose own slot is empty already, and answers the blocks that
hung from it: first what its inputs held, in their order, and then the block that followed it. -/
def sweepBlock (ws : Workspace) (b : BlockId) (x : Block) : Option (List BlockId × Workspace) := do
  let (held, ws) ← ws.sweepInputs x.inputs
  let following := (x.next.bind ws.targetBlock?).toList
  let ws ← (x.next.toList ++ x.previous.toList ++ x.output.toList).foldlM clearConnection ws
  return (held ++ following, { ws with
    tops := ws.tops.filter (· != b)
    labels := ws.labels.filter fun entry => entry.2 != b })

/-! ## Only its own slot is emptied for a block -/

variable {ws after : Workspace}

theorem blocks_clearAll {α : Type} {clear : Workspace → α → Option Workspace}
    (hone : ∀ ws after x, clear ws x = some after → after.blocks = ws.blocks) {xs : List α}
    (h : xs.foldlM clear ws = some after) : after.blocks = ws.blocks := by
  induction xs generalizing ws with
  | nil =>
    cases h
    rfl
  | cons x xs ih =>
    obtain ⟨mid, hmid, h⟩ := Option.bind_eq_some_iff.1 h
    exact (ih h).trans (hone _ _ _ hmid)

theorem blocks_clearField {f : FieldId} (h : ws.clearField f = some after) :
    after.blocks = ws.blocks := by
  obtain ⟨_, _, h⟩ := Option.bind_eq_some_iff.1 h
  cases h
  rfl

theorem blocks_clearConnection {c : ConnectionId} (h : ws.clearConnection c = some after) :
    after.blocks = ws.blocks := by
  obtain ⟨_, _, h⟩ := Option.bind_eq_some_iff.1 h
  cases h
  rfl

theorem blocks_sweepInput {i : InputId} {held : List BlockId}
    (h : ws.sweepInput i = some (held, after)) : after.blocks = ws.blocks := by
  obtain ⟨⟨slot, inputs⟩, _, h⟩ := Option.bind_eq_some_iff.1 h
  cases slot with
  | none =>
    cases h
    rfl
  | some x =>
    obtain ⟨mid, hmid, h⟩ := Option.bind_eq_some_iff.1 h
    obtain ⟨last, hlast, h⟩ := Option.bind_eq_some_iff.1 h
    cases h
    have hfields := blocks_clearAll (fun _ _ _ => blocks_clearField) hmid
    exact (blocks_clearAll (fun _ _ _ => blocks_clearConnection) hlast).trans hfields

theorem blocks_sweepInputs {is : List InputId} {held : List BlockId}
    (h : ws.sweepInputs is = some (held, after)) : after.blocks = ws.blocks := by
  induction is generalizing ws held with
  | nil =>
    cases h
    rfl
  | cons i rest ih =>
    obtain ⟨⟨one, mid⟩, hmid, h⟩ := Option.bind_eq_some_iff.1 h
    obtain ⟨⟨more, last⟩, hlast, h⟩ := Option.bind_eq_some_iff.1 h
    cases h
    exact (ih hlast).trans (blocks_sweepInput hmid)

theorem blocks_sweepBlock {b : BlockId} {x : Block} {found : List BlockId}
    (h : ws.sweepBlock b x = some (found, after)) : after.blocks = ws.blocks := by
  obtain ⟨⟨held, mid⟩, hmid, h⟩ := Option.bind_eq_some_iff.1 h
  obtain ⟨last, hlast, h⟩ := Option.bind_eq_some_iff.1 h
  cases h
  exact (blocks_clearAll (fun _ _ _ => blocks_clearConnection) hlast).trans
    (blocks_sweepInputs hmid)

/-! ## Sweeping -/

/-- Removes the blocks on a stack and what hangs from them, the block on top first.  A block that is
gone already is passed over.  Each round shortens the stack or leaves one block less. -/
def sweep (ws : Workspace) : List BlockId → Option Workspace
  | [] => some ws
  | b :: pending =>
    match _ : ws.blocks.take? b.index with
    | none => none
    | some (none, _) => ws.sweep pending
    | some (some x, blocks) =>
      match _ : sweepBlock { ws with blocks } b x with
      | none => none
      | some (found, after) => after.sweep (found.reverse ++ pending)
termination_by pending => (ws.blocks.count, pending.length)
decreasing_by
  · exact Prod.Lex.right _ (Nat.lt_succ_self _)
  · rename_i htake hsweep
    obtain ⟨_, hx, rfl⟩ := Arena.take?_eq_some_iff.1 htake
    refine Prod.Lex.left _ _ ?_
    rw [blocks_sweepBlock hsweep]
    exact Arena.count_clear_lt hx.symm

theorem sweep_of_gone {b : BlockId} {pending : List BlockId} (hlt : b.index < ws.blocks.size)
    (hb : ws.block? b = none) : ws.sweep (b :: pending) = ws.sweep pending := by
  have htake : ws.blocks.take? b.index = some (none, ws.blocks.clear b.index) :=
    Arena.take?_eq_some_iff.2 ⟨hlt, hb.symm, rfl⟩
  rw [sweep]
  split <;> simp_all

theorem sweep_of_live {b : BlockId} {pending found : List BlockId} {x : Block}
    (hx : ws.block? b = some x)
    (hsweep : sweepBlock { ws with blocks := ws.blocks.clear b.index } b x = some (found, after)) :
    ws.sweep (b :: pending) = after.sweep (found.reverse ++ pending) := by
  have htake : ws.blocks.take? b.index = some (some x, ws.blocks.clear b.index) :=
    Arena.take?_eq_some_iff.2 ⟨Arena.lt_size_of_get? hx, hx.symm, rfl⟩
  rw [sweep]
  split
  · simp_all
  · simp_all
  · split <;> simp_all

/-- Removes a block with everything below it, after taking it off what it hangs from. -/
def disposeBySlots (ws : Workspace) (b : BlockId) : Except EditError (Option Workspace) :=
  if !ws.hasBlock b then .error (.unknownBlock b)
  else do
    let ws ← ((ws.previous? b).toList ++ (ws.output? b).toList).foldlM release ws
    return ws.sweep [b]

end BlockCursor.Workspace
