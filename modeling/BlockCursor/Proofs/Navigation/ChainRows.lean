import BlockCursor.Proofs.Navigation.ChainTops
import BlockCursor.Proofs.Navigation.Inverse
import BlockCursor.Proofs.Workspace.Ancestors
import Mathlib.Data.List.Chain

/-!
# Reading a chain

A chain is read from its top downward by next and from its end upward by prev.  The row that is read
lists the nodes of one block after the other, those of a block in the order previous, output, block
and next, as far as the block has them.

* `Workspace.chain` — the blocks from a block downward, with a bound on their number; that the bound
  is enough is **`Forest.runsDown_chain`**.
* `Workspace.chainRow` — the nodes of these blocks.
* `Navigator.Neighbours` — next leads from one node to the other, and prev back.
* **`Forest.isChain_chainRow`** — what stands side by side in the row are neighbours, within a block
  and from one block to the following one.
* **`Reachable.chain_reads_both_ways`** — next reads the row and then stays; prev reads it backwards
  and then stays, unless the chain hangs from a statement socket.
-/

namespace BlockCursor

/-- Making one move over and over, from the first node of a row, goes through the row node by node,
and from its last node the move leads where `after` says. -/
def Navigator.GoesThrough (nav : Navigator) (m : Move) (row : List Node) (after : Option Node) :
    Prop :=
  (row.IsChain fun x y => nav.navigate x m = .ok (some y)) ∧
    ∀ n, row.getLast? = some n → nav.navigate n m = .ok after

/-- Next leads from one node to the other, and prev leads back. -/
def Navigator.Neighbours (nav : Navigator) (x y : Node) : Prop :=
  nav.navigate x .next = .ok (some y) ∧ nav.navigate y .prev = .ok (some x)

/-- In a row of neighbours next goes one way and prev the other. -/
lemma Navigator.GoesThrough.of_neighbours {nav : Navigator} {row : List Node}
    {below above : Option Node} (hrow : row.IsChain nav.Neighbours)
    (hlast : ∀ n, row.getLast? = some n → nav.navigate n .next = .ok below)
    (hfirst : ∀ n, row.head? = some n → nav.navigate n .prev = .ok above) :
    nav.GoesThrough .next row below ∧ nav.GoesThrough .prev row.reverse above := by
  refine ⟨⟨hrow.imp fun _ _ hxy => hxy.1, hlast⟩, ?_, fun n hn => ?_⟩
  · rw [List.isChain_reverse]
    exact hrow.imp fun _ _ hxy => hxy.2
  · rw [List.getLast?_reverse] at hn
    exact hfirst n hn

namespace Workspace

open Navigator (ofWorkspace)

variable {ws : Workspace} {step : Float} {a b t : BlockId} {n x y : Node}

/-! ## The blocks of a chain -/

/-- The blocks from a block downward in its chain.  There are not more of them than slots for
blocks. -/
def chain (ws : Workspace) (b : BlockId) : List BlockId :=
  b :: wayUp ws.follower? ws.blocks.size b

/-- A row of blocks begins at a block and follows the next links, as far as they lead. -/
structure RunsDown (ws : Workspace) (b : BlockId) (blocks : List BlockId) : Prop where
  first : blocks.head? = some b
  follow : blocks.IsChain fun x y => ws.follower? x = some y
  last : ∀ x, blocks.getLast? = some x → ws.follower? x = none

lemma chain_of_last (hb : ws.follower? b = none) : ws.chain b = [b] := by
  rw [chain, wayUp_of_none hb]

namespace Forest

variable (h : ws.Forest)
include h

/-- **Going down a chain ends**: each step goes one level deeper, and there are only so many. -/
theorem grounded_follower : Grounded ws.follower? := by
  refine Subrelation.wf (fun {a b} hb => ?_) (measure fun b => ws.blocks.size - ws.depth b).wf
  have hparent := h.parent_of_follower hb
  have hdeeper := h.depth_of_parent hparent
  have hbound := h.depth_lt_of_hasBlock (h.hasBlock_of_parent hparent).1
  show ws.blocks.size - ws.depth a < ws.blocks.size - ws.depth b
  omega

lemma chain_of_follower (hb : ws.follower? b = some a) : ws.chain b = b :: ws.chain a := by
  have hbound : ∀ x, ws.follower? x ≠ none → x.index < ws.blocks.size := by
    intro x hx
    obtain ⟨y, hy⟩ := Option.ne_none_iff_exists'.mp hx
    exact index_lt_of_hasBlock (h.hasBlock_of_parent (h.parent_of_follower hy)).2
  rw [chain, wayUp_of_step h.grounded_follower hbound hb, chain]

/-- **The blocks of a chain** are found by following next links to the end. -/
theorem runsDown_chain (b : BlockId) : ws.RunsDown b (ws.chain b) := by
  induction b using h.grounded_follower.induction with
  | _ b ih =>
      cases hb : ws.follower? b with
      | none =>
          rw [chain_of_last hb]
          refine ⟨rfl, List.isChain_singleton b, fun x hx => ?_⟩
          cases hx
          exact hb
      | some a =>
          obtain ⟨hfirst, hfollow, hlast⟩ := ih a hb
          rw [h.chain_of_follower hb]
          refine ⟨rfl, List.isChain_cons.mpr ⟨fun x hx => ?_, hfollow⟩, fun x hx => hlast x ?_⟩
          · rw [hfirst] at hx
            cases hx
            exact hb
          · rwa [chain, List.getLast?_cons_cons] at hx

end Forest

/-! ## The nodes of a block -/

/-- The nodes of a block in the order in which next comes by them. -/
def chainNodes (ws : Workspace) (b : BlockId) : List Node :=
  ((ws.previous? b).map Node.previous).toList ++ (((ws.output? b).map Node.output).toList ++
    .block b :: ((ws.next? b).map Node.next).toList)

/-- The nodes of the blocks from a block downward in its chain. -/
def chainRow (ws : Workspace) (b : BlockId) : List Node :=
  (ws.chain b).flatMap ws.chainNodes

/-- The first node of a block: its previous connection, else its output, else the block. -/
def firstNode (ws : Workspace) (b : BlockId) : Node :=
  (ws.topNode? b).getD (.block b)

/-- The last node of a block: its next connection, else the block. -/
def lastNode (ws : Workspace) (b : BlockId) : Node :=
  ((ws.next? b).map Node.next).getD (.block b)

lemma head?_chainNodes (b : BlockId) : (ws.chainNodes b).head? = some (ws.firstNode b) := by
  rw [chainNodes, firstNode, topNode?]
  cases ws.previous? b <;> cases ws.output? b <;> rfl

lemma getLast?_chainNodes (b : BlockId) :
    (ws.chainNodes b).getLast? = some (ws.lastNode b) := by
  rw [chainNodes, lastNode]
  cases ws.next? b <;> simp

lemma chainRow_of_last (hb : ws.follower? b = none) : ws.chainRow b = ws.chainNodes b := by
  rw [chainRow, chain_of_last hb, List.flatMap_singleton]

lemma Forest.chainRow_of_follower (h : ws.Forest) (hb : ws.follower? b = some a) :
    ws.chainRow b = ws.chainNodes b ++ ws.chainRow a := by
  rw [chainRow, h.chain_of_follower hb, List.flatMap_cons, chainRow]

lemma head?_chainRow (b : BlockId) : (ws.chainRow b).head? = some (ws.firstNode b) := by
  rw [chainRow, chain, List.flatMap_cons, List.head?_append, head?_chainNodes, Option.some_or]

lemma chainRow_ne_nil (b : BlockId) : ws.chainRow b ≠ [] := by
  intro hnil
  have hhead : (ws.chainRow b).head? = some (ws.firstNode b) := head?_chainRow b
  rw [hnil] at hhead
  cases hhead

/-! ## Side by side -/

/-- Where next leads from a node that is on no socket, prev leads back. -/
lemma Leads.neighbours (h : ws.Forest) (hx : x.Natural ws) (hy : y.Natural ws)
    (hsocket : ∀ c, x ≠ .input c) (hmove : ws.Leads step x .next y) :
    (ofWorkspace ws step).Neighbours x y := by
  refine ⟨Navigator.navigate_of_leads (hx.isLive h) hmove,
    Navigator.navigate_of_leads (hy.isLive h) (hmove.prev_of_next h hx hy ?_)⟩
  rintro ⟨c, -, -, -, -, -, rfl, -⟩
  exact hsocket c rfl

namespace Forest

variable (h : ws.Forest)
include h

/-- The nodes of a live block are side by side. -/
theorem isChain_chainNodes (hb : ws.hasBlock b = true) :
    (ws.chainNodes b).IsChain (ofWorkspace ws step).Neighbours := by
  have hblock : (Node.block b :: ((ws.next? b).map Node.next).toList).IsChain
      (ofWorkspace ws step).Neighbours := by
    cases hc : ws.next? b with
    | none => exact List.isChain_singleton _
    | some c =>
        refine List.isChain_pair.mpr (Leads.neighbours h hb ?_ (by simp) (.blockNext hc))
        exact kind?_of_place (h.place_of_next hc)
  rw [chainNodes]
  cases hp : ws.previous? b with
  | none =>
      cases ho : ws.output? b with
      | none => exact hblock
      | some c =>
          have hplace := h.place_of_output ho
          exact hblock.cons_cons (Leads.neighbours h (kind?_of_place hplace) hb (by simp)
            (.outputNext (owner?_of_place hplace)))
  | some p =>
      have hplace := h.place_of_previous hp
      have howner := owner?_of_place hplace
      have hnatural : (Node.previous p).Natural ws := kind?_of_place hplace
      cases ho : ws.output? b with
      | none =>
          exact hblock.cons_cons (Leads.neighbours h hnatural hb (by simp)
            (.previousBlock howner ho))
      | some c =>
          have hplace' := h.place_of_output ho
          have hnatural' : (Node.output c).Natural ws := kind?_of_place hplace'
          refine (hblock.cons_cons ?_).cons_cons (Leads.neighbours h hnatural hnatural' (by simp)
            (.previousOutput howner ho))
          exact Leads.neighbours h hnatural' hb (by simp) (.outputNext (owner?_of_place hplace'))

/-- The last node of a block and the first one of the block below are side by side. -/
theorem neighbours_follower (hb : ws.follower? b = some a) :
    (ofWorkspace ws step).Neighbours (ws.lastNode b) (ws.firstNode a) := by
  obtain ⟨c, hc, hca⟩ := Option.bind_eq_some_iff.mp hb
  obtain ⟨p, hp, -⟩ := h.above_iff.mp (h.follower_iff.mp hb)
  obtain ⟨d, hd, -⟩ := Option.bind_eq_some_iff.mp hp
  have htop := topNode?_of_previous hd
  rw [lastNode, firstNode, htop, hc]
  exact Leads.neighbours h (kind?_of_place (h.place_of_next hc))
    (kind?_of_place (h.place_of_previous hd)) (by simp) (.nextNext hca htop)

/-- **In the row of a chain** neighbours stand side by side. -/
theorem isChain_chainRow (hb : ws.hasBlock b = true) :
    (ws.chainRow b).IsChain (ofWorkspace ws step).Neighbours := by
  induction b using h.grounded_follower.induction with
  | _ b ih =>
      cases hfollower : ws.follower? b with
      | none =>
          rw [chainRow_of_last hfollower]
          exact h.isChain_chainNodes hb
      | some a =>
          have ha := (h.hasBlock_of_parent (h.parent_of_follower hfollower)).1
          rw [h.chainRow_of_follower hfollower, List.isChain_append]
          refine ⟨h.isChain_chainNodes hb, ih a hfollower ha, fun x hx y hy => ?_⟩
          rw [getLast?_chainNodes] at hx
          rw [head?_chainRow] at hy
          cases hx
          cases hy
          exact h.neighbours_follower hfollower

/-! ## The two ends -/

/-- Next does not lead on from the last node of a block that nothing follows. -/
lemma next_of_lastNode (hb : ws.hasBlock b = true) (hfollower : ws.follower? b = none) :
    (ofWorkspace ws step).navigate (ws.lastNode b) .next = .ok none := by
  rw [lastNode]
  cases hc : ws.next? b with
  | none =>
      rw [Option.map_none, Option.getD_none, Navigator.navigate_of_live (n := .block b) hb]
      simp only [Navigator.nextOf, ofWorkspace, hc, Option.map_none]
  | some c =>
      have hlive := hasConnection_of_place (h.place_of_next hc)
      rw [follower?, hc, Option.bind_some] at hfollower
      rw [Option.map_some, Option.getD_some, Navigator.navigate_of_live (n := .next c) hlive]
      simp only [Navigator.nextOf, ofWorkspace, hfollower, Option.bind_none]

/-- Next does not lead on from the end of the row. -/
theorem next_of_chainRow_last (hb : ws.hasBlock b = true)
    (hn : (ws.chainRow b).getLast? = some n) :
    (ofWorkspace ws step).navigate n .next = .ok none := by
  induction b using h.grounded_follower.induction with
  | _ b ih =>
      cases hfollower : ws.follower? b with
      | none =>
          rw [chainRow_of_last hfollower, getLast?_chainNodes] at hn
          cases hn
          exact h.next_of_lastNode hb hfollower
      | some a =>
          have ha := (h.hasBlock_of_parent (h.parent_of_follower hfollower)).1
          rw [h.chainRow_of_follower hfollower,
            List.getLast?_append_of_ne_nil _ (chainRow_ne_nil a)] at hn
          exact ih a hfollower ha hn

/-- **Before the first node of a block** prev looks only at what the block hangs from by its
previous connection, and leads to the next connection of the block that has it. -/
theorem prev_of_firstNode (hb : ws.hasBlock b = true) :
    (ofWorkspace ws step).navigate (ws.firstNode b) .prev =
      .ok ((((ws.hangsFrom? b).bind ws.owner?).bind ws.next?).map Node.next) := by
  cases hp : ws.previous? b with
  | some p =>
      have hplace := h.place_of_previous hp
      rw [firstNode, topNode?_of_previous hp, Option.getD_some,
        Navigator.navigate_of_live (n := .previous p) (hasConnection_of_place hplace)]
      simp only [Navigator.prevOf, ofWorkspace, hangsFrom?, hp, Option.bind_some, targetBlock?]
  | none =>
      have hnone : ws.hangsFrom? b = none := by rw [hangsFrom?, hp, Option.bind_none]
      cases ho : ws.output? b with
      | some c =>
          have hplace := h.place_of_output ho
          rw [firstNode, topNode?, hp, ho, hnone]
          simp only [Option.map_none, Option.map_some, Option.none_or, Option.getD_some]
          rw [Navigator.navigate_of_live (n := .output c) (hasConnection_of_place hplace)]
          simp only [Navigator.prevOf, ofWorkspace, owner?_of_place hplace, hp, Option.bind_some,
            Option.bind_none, Option.map_none]
      | none =>
          rw [firstNode, topNode?, hp, ho, hnone]
          simp only [Option.map_none, Option.none_or, Option.getD_none]
          rw [Navigator.navigate_of_live (n := .block b) hb]
          simp only [Navigator.prevOf, ofWorkspace, hp, ho, Option.map_none, Option.none_or,
            Option.bind_none]

end Forest

/-! ## Both ways -/

/-- **A chain is read both ways.**  From the first node of a block that is the top of its chain,
next reads the row of all blocks that follow and then stays.  From the end of that row prev reads it
backwards.  Then it stays, unless the chain hangs from a statement socket: then it goes to the next
connection of the block with the socket, if that has one. -/
theorem Reachable.chain_reads_both_ways (h : ws.Reachable) (step : Float)
    (ht : ws.hasBlock t = true) (hfree : ∀ p, ws.holder? t = some p → ws.kind? p ≠ some .next) :
    ws.RunsDown t (ws.chain t) ∧ (ws.chainRow t).head? = some (ws.firstNode t) ∧
    (ofWorkspace ws step).GoesThrough .next (ws.chainRow t) none ∧
    (∀ s, ws.InStatement t s → ∃ a, ws.owner? s = some a ∧
      (ofWorkspace ws step).GoesThrough .prev (ws.chainRow t).reverse
        ((ws.next? a).map Node.next)) ∧
    ((¬ ∃ s, ws.InStatement t s) →
      (ofWorkspace ws step).GoesThrough .prev (ws.chainRow t).reverse none) := by
  have hforest := h.forest
  have hrow : (ws.chainRow t).IsChain (ofWorkspace ws step).Neighbours :=
    hforest.isChain_chainRow ht
  have hlast : ∀ n, (ws.chainRow t).getLast? = some n →
      (ofWorkspace ws step).navigate n .next = .ok none :=
    fun n hn => hforest.next_of_chainRow_last ht hn
  have hfirst : ∀ n, (ws.chainRow t).head? = some n → (ofWorkspace ws step).navigate n .prev =
      .ok ((((ws.hangsFrom? t).bind ws.owner?).bind ws.next?).map Node.next) := by
    intro n hn
    rw [head?_chainRow] at hn
    cases hn
    exact hforest.prev_of_firstNode ht
  obtain ⟨hnext, hprev⟩ := Navigator.GoesThrough.of_neighbours hrow hlast hfirst
  refine ⟨hforest.runsDown_chain t, head?_chainRow t, hnext, fun s hs => ?held, fun hnot => ?top⟩
  case held =>
    obtain ⟨a, i, hhangs, hplace⟩ := hs.hangsFrom hforest.toLinked
    have ha := owner?_of_place hplace
    rw [hhangs, Option.bind_some, ha, Option.bind_some] at hprev
    exact ⟨a, ha, hprev⟩
  case top =>
    -- by its previous connection a block hangs from a statement socket or a next connection
    have hnone : ws.hangsFrom? t = none := by
      rw [Option.eq_none_iff_forall_ne_some]
      intro p hp
      have hholder := holder_of_hangsFrom hp
      obtain ⟨a, -, hplace | ⟨i, hplace, hi⟩⟩ := hforest.place_of_hangsFrom hp
      · exact hfree p hholder (kind?_of_place hplace)
      · exact hnot ⟨p, hholder, i, parentInput?_eq_some_iff.mpr ⟨a, hplace⟩, hi⟩
    rw [hnone, Option.bind_none, Option.bind_none, Option.map_none] at hprev
    exact hprev

/-- A loop with a chain in it: a block with all three connections, and one that ends the chain. -/
def readEdits : List Edit :=
  [.insert ⟨"loop", false, true, false, [⟨"body", .statement, []⟩]⟩,
    .insert ⟨"first", true, true, true, []⟩, .insert ⟨"second", true, false, false, []⟩,
    .connect ⟨1⟩ ⟨2⟩, .connect ⟨3⟩ ⟨5⟩]

/-- Next reads the chain in the loop; prev reads it back, and goes on to what follows the loop. -/
theorem loop_body_read :
    (ofWorkspace (applyAll empty readEdits)).GoesThrough .next [.previous ⟨2⟩, .output ⟨4⟩,
      .block ⟨1⟩, .next ⟨3⟩, .previous ⟨5⟩, .block ⟨2⟩] none ∧
    (ofWorkspace (applyAll empty readEdits)).GoesThrough .prev [.block ⟨2⟩, .previous ⟨5⟩,
      .next ⟨3⟩, .block ⟨1⟩, .output ⟨4⟩, .previous ⟨2⟩] (some (.next ⟨0⟩)) := by
  have hfree : ∀ p, (applyAll empty readEdits).holder? ⟨1⟩ = some p →
      (applyAll empty readEdits).kind? p ≠ some .next := by
    intro p hp
    cases hp
    decide
  obtain ⟨-, -, hnext, hheld, -⟩ :=
    Reachable.chain_reads_both_ways (t := ⟨1⟩) ⟨readEdits, rfl⟩ 10 rfl hfree
  obtain ⟨a, ha, hprev⟩ := hheld ⟨1⟩ ⟨rfl, ⟨0⟩, rfl, rfl⟩
  cases ha
  exact ⟨hnext, hprev⟩

end Workspace

end BlockCursor
