import BlockCursor.Proofs.Navigation.Agreement
import BlockCursor.Proofs.Navigation.Locality
import BlockCursor.Proofs.Navigation.Objects
import BlockCursor.Proofs.Workspace.Ancestors
import Mathlib.Data.List.Chain

/-!
# Out always climbs

Out is not a step up in the tree each time: a block may lead to its own output first, a socket comes
up again as a `next` node, and a loose output leads to the root at once.  What each move out does
lower is the height of a node, which counts two for each ancestor of its block and a few more for
the place in the block:

| node | height above that of its block |
|---|---|
| field, input | 3 |
| block, plugged output | 2 |
| loose output, previous, next | 1 |
| stack | 0 |

* `Node.height` — this number.
* **`Leads.climbs`** — a move out stays in the block or goes to an ancestor, and lowers the height.
* `Forest.exists_leads_out` — from what is no stack there is a move out.
* **`Reachable.out_climbs`** — so out ends, at a stack, with no node visited twice.
-/

namespace BlockCursor

open Workspace

/-- How far up in its block a node is from below. -/
def Node.storey (ws : Workspace) : Node → ℕ
  | .workspace _ | .stack _ => 0
  | .previous _ | .next _ => 1
  | .output c => if (ws.target? c).isSome then 2 else 1
  | .block _ => 2
  | .field _ | .input _ => 3

/-- A number that goes down with each move out. -/
def Node.height (ws : Workspace) (n : Node) : ℕ :=
  2 * ((n.block? ws).map ws.depth).getD 0 + n.storey ws

namespace Workspace

variable {ws : Workspace} {step : Float} {n n' : Node} {a b : BlockId} {c s : ConnectionId}

lemma height_eq (hn : n.block? ws = some b) : n.height ws = 2 * ws.depth b + n.storey ws := by
  rw [Node.height, hn, Option.map_some, Option.getD_some]

lemma storey_le (ws : Workspace) (n : Node) : n.storey ws ≤ 3 := by
  cases n <;> simp only [Node.storey] <;> (try split) <;> omega

/-- A block and its stack belong to the block. -/
lemma block?_of_hasBlock (hb : ws.hasBlock b = true) :
    (Node.block b).block? ws = some b ∧ (Node.stack b).block? ws = some b :=
  ⟨if_pos hb, if_pos hb⟩

/-- A move out from a live node to one that is less high. -/
def Ascends (ws : Workspace) (step : Float) (x y : Node) : Prop :=
  x.isLive ws = true ∧ ws.Leads step x .out y ∧ y.height ws < x.height ws

namespace Forest

variable (h : ws.Forest)
include h

/-! ## One move out -/

/-- Out of a chain leads to the block at its top, as a stack, or to the parent of that block. -/
lemma outOfChain_climbs (hb : ws.hasBlock b = true) : ∃ a, (ws.outOfChain b).block? ws = some a ∧
    Rises ws.parent? b a ∧ (ws.outOfChain b).height ws ≤ 2 * ws.depth b := by
  obtain ⟨t, -, habove, ht, ⟨p, a, i, -, hplace, -, hta, heq⟩ | ⟨-, heq⟩⟩ := h.outOfChain_cases hb
  all_goals
    have hbt := h.rises_of_above habove
    have hdepth := h.depth_le_of_rises hbt
    rw [heq]
  case inl =>
    have hnode : (Node.next p).block? ws = some a := owner?_of_place hplace
    refine ⟨a, hnode, hbt.tail hta, ?_⟩
    have hstep := h.depth_of_parent hta
    rw [height_eq hnode, Node.storey]
    omega
  case inr =>
    refine ⟨t, (block?_of_hasBlock ht).2, hbt, ?_⟩
    rw [height_eq (block?_of_hasBlock ht).2, Node.storey]
    omega

/-- Out of a plugged output leads to the parent of the block. -/
lemma socket_climbs (hc : ws.place? c = some (b, .output)) (hs : ws.target? c = some s) :
    ∃ a, (Node.input s).block? ws = some a ∧ Rises ws.parent? b a ∧
      (Node.input s).height ws < 2 * ws.depth b + 2 := by
  obtain ⟨a, i, hplace, -, hholder⟩ := h.place_of_output_target hc hs
  have hnode : (Node.input s).block? ws = some a := owner?_of_place hplace
  have hba : ws.parent? b = some a := h.parent_iff.mpr ⟨s, hholder, owner?_of_place hplace⟩
  refine ⟨a, hnode, .single hba, ?_⟩
  have hstep := h.depth_of_parent hba
  rw [height_eq hnode, Node.storey]
  omega

/-- **A move out climbs**: it stays in the block or goes to an ancestor of it, and leads to a node
that is less high. -/
theorem leads_out_climbs (hn : n.Agrees ws) (hb : n.block? ws = some b)
    (hmove : ws.Leads step n .out n') :
    ∃ a, n'.block? ws = some a ∧ Rises ws.parent? b a ∧ n'.height ws < n.height ws := by
  rw [height_eq hb]
  cases hmove with
  | @outputSocket c s hs =>
      obtain ⟨u, hplace⟩ := exists_place_of_own (r := .output) rfl hn
      obtain rfl := Option.some.inj ((owner?_of_place hplace).symm.trans hb)
      rw [Node.storey, hs, Option.isSome_some, if_pos rfl]
      exact h.socket_climbs hplace hs
  | @outputStack c u t hfree hu ht =>
      obtain rfl := Option.some.inj (hu.symm.trans hb)
      obtain ⟨hlive, hrises, -⟩ := h.root_iff.mp ht
      have hstack := (block?_of_hasBlock (h.hasBlock_of_rises hlive hrises)).2
      refine ⟨t, hstack, hrises, ?_⟩
      have hdepth := h.depth_le_of_rises hrises
      rw [height_eq hstack, Node.storey, Node.storey, hfree]
      simp only [Option.isSome_none, Bool.false_eq_true, if_false]
      omega
  | @previousOut c u hu =>
      obtain rfl := Option.some.inj (hu.symm.trans hb)
      obtain ⟨a, ha, hrises, hle⟩ := h.outOfChain_climbs (h.hasBlock_of_owner hu)
      exact ⟨a, ha, hrises, Nat.lt_succ_of_le hle⟩
  | @nextOut c u hu =>
      obtain rfl := Option.some.inj (hu.symm.trans hb)
      obtain ⟨a, ha, hrises, hle⟩ := h.outOfChain_climbs (h.hasBlock_of_owner hu)
      exact ⟨a, ha, hrises, Nat.lt_succ_of_le hle⟩
  | @blockSocket u c s hc hs =>
      obtain rfl := Option.some.inj ((block?_of_hasBlock hn).1.symm.trans hb)
      exact h.socket_climbs (h.place_of_output hc) hs
  | @blockOut u c hc hfree =>
      obtain rfl := Option.some.inj ((block?_of_hasBlock hn).1.symm.trans hb)
      have houtput : (Node.output c).block? ws = some u := owner?_of_place (h.place_of_output hc)
      refine ⟨u, houtput, .refl, ?_⟩
      rw [height_eq houtput, Node.storey, Node.storey, hfree]
      simp
  | @blockChain u hnone hu =>
      obtain rfl := Option.some.inj ((block?_of_hasBlock hn).1.symm.trans hb)
      obtain ⟨a, ha, hrises, hle⟩ := h.outOfChain_climbs hu
      exact ⟨a, ha, hrises, by rw [Node.storey]; omega⟩
  | @fieldOut f i u hf hu =>
      obtain rfl := Option.some.inj ((block?_field_iff.mpr ⟨i, hf, hu⟩).symm.trans hb)
      have hblock := (block?_of_hasBlock (h.hasBlock_of_inputBlock hu)).1
      refine ⟨u, hblock, .refl, ?_⟩
      rw [height_eq hblock, Node.storey, Node.storey]
      omega
  | @inputOut c u hu =>
      obtain rfl := Option.some.inj (hu.symm.trans hb)
      have hblock := (block?_of_hasBlock (h.hasBlock_of_owner hu)).1
      refine ⟨u, hblock, .refl, ?_⟩
      rw [height_eq hblock, Node.storey, Node.storey]
      omega

/-- **From what is no stack there is a move out.** -/
lemma exists_leads_out (step : Float) (hn : n.Agrees ws) (hb : n.block? ws = some b) :
    n = .stack b ∨ ∃ n', ws.Leads step n .out n' := by
  cases n with
  | workspace p => cases hb
  | stack u =>
      obtain rfl := Option.some.inj ((block?_of_hasBlock hn).2.symm.trans hb)
      exact Or.inl rfl
  | block u =>
      refine Or.inr ?_
      cases hc : ws.output? u with
      | none => exact ⟨_, .blockChain hc hn⟩
      | some c =>
          cases hs : ws.target? c with
          | none => exact ⟨_, .blockOut hc hs⟩
          | some s => exact ⟨_, .blockSocket hc hs⟩
  | field f =>
      obtain ⟨i, hf, hi⟩ := block?_field_iff.mp hb
      exact Or.inr ⟨_, .fieldOut hf hi⟩
  | output c =>
      refine Or.inr ?_
      cases hs : ws.target? c with
      | none =>
          obtain ⟨t, ht⟩ := h.exists_root (h.hasBlock_of_owner hb)
          exact ⟨_, .outputStack hs hb ht⟩
      | some s => exact ⟨_, .outputSocket hs⟩
  | previous c => exact Or.inr ⟨_, .previousOut hb⟩
  | next c => exact Or.inr ⟨_, .nextOut hb⟩
  | input c => exact Or.inr ⟨_, .inputOut hb⟩

/-! ## All moves out -/

/-- **Moves out end**, at a stack, and there are no more of them than the node is high. -/
theorem exists_route_out (step : Float) (hn : n.Agrees ws) (hb : n.block? ws = some b) :
    ∃ route, (n :: route).IsChain (ws.Ascends step) ∧ route.length ≤ n.height ws ∧
      ∃ t, (n :: route).getLast? = some (.stack t) := by
  induction hk : n.height ws using Nat.strong_induction_on generalizing n b with
  | _ k ih =>
      rcases h.exists_leads_out step hn hb with rfl | ⟨n', hmove⟩
      · exact ⟨[], .singleton _, Nat.zero_le _, b, rfl⟩
      · obtain ⟨a, ha, -, hlt⟩ := h.leads_out_climbs hn hb hmove
        have hn' : n'.Agrees ws := (hmove.sound h hn).1
        obtain ⟨route, hchain, hlength, t, hlast⟩ := ih _ (hk ▸ hlt) hn' ha rfl
        refine ⟨n' :: route, hchain.cons_cons ⟨hn.isLive, hmove, hlt⟩, ?_, t, ?_⟩
        · rw [List.length_cons]
          omega
        · rwa [List.getLast?_cons_cons]

end Forest

/-- What is visited on the way out is visited once. -/
lemma nodup_of_ascends {route : List Node} (hroute : route.IsChain (ws.Ascends step)) :
    route.Nodup := by
  have hheights : (route.map (Node.height ws)).IsChain (· > ·) :=
    (List.isChain_map _).mpr (hroute.imp fun _ _ hxy => hxy.2.2)
  exact (List.isChain_iff_pairwise.mp hheights).nodup.of_map

/-- **Out always climbs and always ends.**  From a node that agrees and is no point, out leads
nowhere just when the node is a stack.  Else it leads to the node's block or to an ancestor of it;
and repeated it arrives at a stack, in at most two moves for each ancestor of the block and three
more, with no node visited twice. -/
theorem Reachable.out_climbs (h : ws.Reachable) (step : Float) (hn : n.Agrees ws)
    (hpoint : n.kind ≠ .workspace) :
    ((Navigator.ofWorkspace ws step).navigate n .out = .ok none ↔ n.kind = .stack) ∧
    ∃ b, n.block? ws = some b ∧
      (∀ n', (Navigator.ofWorkspace ws step).navigate n .out = .ok (some n') →
        ∃ a, n'.block? ws = some a ∧ (a = b ∨ a ∈ ws.ancestors b)) ∧
      ∃ route, (n :: route).IsChain
          (fun x y => (Navigator.ofWorkspace ws step).navigate x .out = .ok (some y)) ∧
        (n :: route).Nodup ∧ route.length ≤ 2 * (ws.ancestors b).length + 3 ∧
        ∃ t, (n :: route).getLast? = some (.stack t) := by
  have hforest := h.forest
  have hlive := hn.isLive
  obtain ⟨b, hb, -⟩ := hforest.exists_block hpoint hlive
  refine ⟨?_, b, hb, fun n' hout => ?_, ?_⟩
  · rcases hforest.exists_leads_out step hn hb with rfl | ⟨n', hmove⟩
    · rw [Navigator.navigate_of_live hlive]
      exact iff_of_true rfl rfl
    · rw [Navigator.navigate_of_leads hlive hmove]
      refine iff_of_false (by simp) fun hstack => ?_
      cases hmove <;> cases hstack
  · obtain ⟨-, hmove⟩ := Navigator.navigate_eq_some_iff.mp hout
    obtain ⟨a, ha, hrises, -⟩ := hforest.leads_out_climbs hn hb hmove
    exact ⟨a, ha, hforest.rises_iff_mem_ancestors.mp hrises⟩
  · obtain ⟨route, hroute, hlength, hlast⟩ := hforest.exists_route_out step hn hb
    refine ⟨route, ?_, nodup_of_ascends hroute, hlength.trans ?_, hlast⟩
    · exact hroute.imp fun x y hxy => Navigator.navigate_of_leads hxy.1 hxy.2.1
    · rw [height_eq hb]
      exact Nat.add_le_add_left (storey_le ws n) _

/-- A block with a field, plugged by its output into a block with a loose output. -/
def plugInPlugEdits : List Edit :=
  [.insert ⟨"outer", false, false, true, [⟨"value", .value, []⟩]⟩,
    .insert ⟨"inner", false, false, true, [⟨"choice", .dummy, [⟨"option", true⟩]⟩]⟩,
    .connect ⟨1⟩ ⟨2⟩]

/-- Out of the field leads to its block, whose one ancestor is the outer block, and five moves at
the most lead to a stack. -/
theorem out_of_plugged_field :
    (applyAll empty plugInPlugEdits).ancestors ⟨1⟩ = [⟨0⟩] ∧
    (Navigator.ofWorkspace (applyAll empty plugInPlugEdits)).navigate (.field ⟨0⟩) .out =
      .ok (some (.block ⟨1⟩)) ∧
    ∃ route, (Node.field ⟨0⟩ :: route).IsChain (fun x y =>
        (Navigator.ofWorkspace (applyAll empty plugInPlugEdits)).navigate x .out = .ok (some y)) ∧
      (Node.field ⟨0⟩ :: route).Nodup ∧ route.length ≤ 5 ∧
      ∃ t, (Node.field ⟨0⟩ :: route).getLast? = some (.stack t) := by
  obtain ⟨-, b, hb, -, hroute⟩ := Reachable.out_climbs (n := .field ⟨0⟩) ⟨plugInPlugEdits, rfl⟩ 10
    (by decide : (applyAll empty plugInPlugEdits).hasField ⟨0⟩ = true) (by decide)
  obtain rfl : b = ⟨1⟩ := (Option.some.inj hb).symm
  exact ⟨rfl, rfl, hroute⟩

/-- The bound is reached: there are five moves. -/
example : (List.IsChain (fun x y =>
    (Navigator.ofWorkspace (applyAll empty plugInPlugEdits)).navigate x .out = .ok (some y))
      [.field ⟨0⟩, .block ⟨1⟩, .input ⟨1⟩, .block ⟨0⟩, .output ⟨0⟩, .stack ⟨0⟩]) := by
  simp only [List.isChain_cons_cons, List.isChain_singleton, and_true]
  exact ⟨rfl, rfl, rfl, rfl, rfl⟩

end Workspace

end BlockCursor
