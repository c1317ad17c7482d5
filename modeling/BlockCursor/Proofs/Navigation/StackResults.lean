import BlockCursor.Proofs.Navigation.Agreement
import BlockCursor.Proofs.Workspace.Consistency

/-!
# Moves that arrive at a stack

A stack node is meant to name the top of a stack.  Three of the ways to one take it from the list of
tops or from a root.  The fourth goes out of a chain, and it looks at the previous connection of the
chain's top block alone: a chain whose top block is plugged into a value socket by its output hangs
from something too, but the move answers that block as a stack.

* `Workspace.LeavesPlugged` — a move out of a chain of that kind.
* `Leads.stack_cases` — the ways to a stack node.
* **`Reachable.stack_mem_tops_iff`** — every move that arrives at a stack arrives at a top, and out
  arrives at the root, but for the moves out of such chains, which never do.
-/

namespace BlockCursor

namespace Workspace

variable {ws : Workspace} {step : Float} {n n' : Node} {m : Move} {a b : BlockId}

/-- Out of a node goes the way out of the chain of a block: for the block's previous and next
connections, for the block itself if it has no output, and for the statement socket of a `next`
node of the block. -/
def LeavesChain (ws : Workspace) (n : Node) (a : BlockId) : Prop :=
  match n with
  | .previous c | .next c => ws.owner? c = some a
  | .block b => b = a ∧ ws.hasBlock a = true ∧ ws.output? a = none
  | _ => False

/-- A move out of a chain whose top block is plugged in by its output. -/
def LeavesPlugged (ws : Workspace) (n : Node) (m : Move) : Prop :=
  m = .out ∧ ∃ a, ws.LeavesChain n a ∧ (ws.output? (ws.chainTop a)).bind ws.target? ≠ none

/-! ## Leaving a chain -/

lemma leads_of_leavesChain (hn : ws.LeavesChain n a) :
    ws.Leads step n .out (ws.outOfChain a) := by
  cases n with
  | previous c => exact .previousOut hn
  | next c => exact .nextOut hn
  | block b =>
      obtain ⟨rfl, hb, hout⟩ := hn
      exact .blockChain hout hb
  | _ => cases hn

/-- The chain that is left is the one that the node's block is in. -/
lemma block?_of_leavesChain (hn : ws.LeavesChain n a) : n.block? ws = some a := by
  cases n with
  | previous c => exact hn
  | next c => exact hn
  | block b =>
      obtain ⟨rfl, hb, -⟩ := hn
      exact if_pos hb
  | _ => cases hn

lemma Forest.hasBlock_of_leavesChain (h : ws.Forest) (hn : ws.LeavesChain n a) :
    ws.hasBlock a = true := by
  cases n with
  | previous c => exact h.hasBlock_of_owner hn
  | next c => exact h.hasBlock_of_owner hn
  | block b => exact hn.2.1
  | _ => cases hn

/-- A chain leads out to a stack just when its top block is not plugged in by its previous
connection. -/
lemma Forest.outOfChain_eq_stack (h : ws.Forest) (ha : ws.hasBlock a = true)
    (hstack : ws.outOfChain a = .stack b) :
    ws.chainTop a = b ∧ Rises ws.above? a b ∧ ws.hasBlock b = true ∧ ws.hangsFrom? b = none := by
  obtain ⟨t, htop, hrises, ht, ⟨p, u, i, -, -, -, -, heq⟩ | ⟨hfree, heq⟩⟩ := h.outOfChain_cases ha
  · rw [heq] at hstack
    cases hstack
  · rw [heq] at hstack
    cases hstack
    exact ⟨htop, hrises, ht, hfree⟩

/-- A block that is plugged in by its output is not plugged in by its previous connection. -/
lemma Linked.hangsFrom_eq_none (h : ws.Linked) (hout : (ws.output? b).bind ws.target? ≠ none) :
    ws.hangsFrom? b = none := by
  obtain ⟨s, hs⟩ := Option.ne_none_iff_exists'.mp hout
  obtain ⟨c, hc, hcs⟩ := Option.bind_eq_some_iff.mp hs
  rw [hangsFrom?, Option.bind_eq_none_iff]
  intro d hd
  exact (h.target_eq_none_or hd hc).resolve_right (by simp [hcs])

/-! ## The ways to a stack -/

/-- **The ways to a stack node**: by a move that is not out, to a top; out of a free output, to the
root; or out of a chain. -/
theorem Leads.stack_cases (h : ws.Forest) (hmove : ws.Leads step n m n') (hstack : n' = .stack b) :
    (m ≠ .out ∧ b ∈ ws.tops) ∨
    (∃ c a, n = .output c ∧ m = .out ∧ ws.owner? c = some a ∧ ws.root? a = some b) ∨
    (∃ a, m = .out ∧ ws.LeavesChain n a ∧ ws.outOfChain a = .stack b) := by
  have htop : ∀ {u}, ws.topNode? u ≠ some (.stack b) := by
    intro u hu
    rcases topNode?_eq_some_iff.mp hu with ⟨c, -, hc⟩ | ⟨c, -, -, hc⟩ <;> cases hc
  have hstop : ∀ {i}, Node.stack b ∉ ws.inputStops i := by
    intro i hi
    rcases mem_inputStops_iff.mp hi with ⟨f, -, -, hf⟩ | ⟨s, -, hs⟩
    · cases hf
    · cases hs
  cases hmove with
  | firstStack hb =>
      cases hstack
      exact Or.inl ⟨by simp, List.mem_of_head? hb⟩
  | following _ _ hb =>
      cases hstack
      exact Or.inl ⟨by simp, mem_of_ringBeside hb⟩
  | preceding _ _ hb =>
      cases hstack
      exact Or.inl ⟨by simp, mem_of_ringBeside hb⟩
  | outputStack _ hb ht =>
      cases hstack
      exact Or.inr (Or.inl ⟨_, _, rfl, rfl, hb, ht⟩)
  | previousOut hb => exact Or.inr (Or.inr ⟨_, rfl, hb, hstack⟩)
  | nextOut hb => exact Or.inr (Or.inr ⟨_, rfl, hb, hstack⟩)
  | blockChain hout hb => exact Or.inr (Or.inr ⟨_, rfl, ⟨rfl, hb, hout⟩, hstack⟩)
  | stackInto hn => exact absurd (hstack ▸ hn) htop
  | nextNext _ hn => exact absurd (hstack ▸ hn) htop
  | inputInto _ hn => exact absurd (hstack ▸ hn) htop
  | blockInto _ hn => exact absurd (hstack ▸ mem_of_enterForward hn) hstop
  | @fieldNext f n' hn =>
      obtain ⟨i, hf, -⟩ := Option.bind_eq_some_iff.mp hn
      exact absurd (hstack ▸ h.stop_of_afterField hf hn) hstop
  | @fieldPrev f n' hn =>
      obtain ⟨i, hf, -⟩ := Option.bind_eq_some_iff.mp hn
      obtain ⟨u, hi⟩ := h.exists_inputBlock_of_fieldInput hf
      rcases h.stop_of_beforeField hf hi hn with hmem | ⟨-, j, -, -, hmem⟩
      · exact absurd (hstack ▸ hmem) hstop
      · exact absurd (hstack ▸ hmem) hstop
  | @inputNext c n' hn =>
      obtain ⟨i, hi, -⟩ := Option.bind_eq_some_iff.mp hn
      obtain ⟨u, hc⟩ := parentInput?_eq_some_iff.mp hi
      obtain ⟨-, -, j, -, -, -, hmem⟩ := h.stop_of_afterSocket hc hn
      exact absurd (hstack ▸ hmem) hstop
  | @inputPrev c n' hn =>
      obtain ⟨i, hi, -⟩ := Option.bind_eq_some_iff.mp hn
      obtain ⟨u, hc⟩ := parentInput?_eq_some_iff.mp hi
      rcases h.stop_of_beforeSocket hc hn with hmem | ⟨-, j, -, -, -, hmem⟩
      · exact absurd (hstack ▸ hmem) hstop
      · exact absurd (hstack ▸ hmem) hstop
  | _ => cases hstack

/-- A top that a chain climbs to is the root of the chain. -/
lemma Forest.root_of_above (h : ws.Forest) (ha : ws.hasBlock a = true)
    (hrises : Rises ws.above? a b) (hb : b ∈ ws.tops) : ws.root? a = some b :=
  h.root_iff.mpr ⟨ha, h.rises_of_above hrises, ((h.mem_tops_iff b).mp hb).2⟩

/-! ## Which of them are tops -/

/-- **A chain that leads out to a stack** leads to a top, and to the root of its blocks, unless its
top block is plugged in by its output: the answer is that block all the same. -/
theorem Forest.leaves_to_stack (h : ws.Forest) (hleaves : ws.LeavesChain n a)
    (hstack : ws.outOfChain a = .stack b) : (b ∈ ws.tops ↔ ¬ ws.LeavesPlugged n .out) ∧
      (ws.root? a = some b ↔ ¬ ws.LeavesPlugged n .out) := by
  have ha := h.hasBlock_of_leavesChain hleaves
  obtain ⟨htop, hrises, hb, hfree⟩ := h.outOfChain_eq_stack ha hstack
  have hplugged : ws.LeavesPlugged n .out ↔ (ws.output? b).bind ws.target? ≠ none := by
    constructor
    · rintro ⟨-, a', hleaves', hout⟩
      have hsame := (block?_of_leavesChain hleaves').symm.trans (block?_of_leavesChain hleaves)
      cases hsame
      rwa [htop] at hout
    · intro hout
      exact ⟨rfl, a, hleaves, by rwa [htop]⟩
  have htops : b ∈ ws.tops ↔ ¬ ws.LeavesPlugged n .out := by
    rw [h.mem_tops_iff_of_free hb hfree, hplugged, not_not]
  refine ⟨htops, ?_⟩
  rw [← htops]
  exact ⟨h.root_mem_tops, h.root_of_above ha hrises⟩

/-- **Which moves arrive at a top**, among those that arrive at a stack: all but the moves out of
a chain whose top block is plugged in by its output.  Those do arrive at a stack, and never at a
top.  Of all others, the moves out arrive at the root of the node's block. -/
theorem Reachable.stack_mem_tops_iff (h : ws.Reachable) (step : Float) (n : Node) (m : Move) :
    (∀ b, (Navigator.ofWorkspace ws step).navigate n m = .ok (some (.stack b)) →
      (b ∈ ws.tops ↔ ¬ ws.LeavesPlugged n m) ∧
      ∀ a, m = .out → n.block? ws = some a → (ws.root? a = some b ↔ ¬ ws.LeavesPlugged n m)) ∧
    (ws.LeavesPlugged n m → n.isLive ws = true → ∃ b,
      (Navigator.ofWorkspace ws step).navigate n m = .ok (some (.stack b)) ∧ b ∉ ws.tops) := by
  have hforest := h.forest
  constructor
  · intro b hb
    obtain ⟨-, hmove⟩ := Navigator.navigate_eq_some_iff.mp hb
    rcases hmove.stack_cases hforest rfl with ⟨hm, hmem⟩ | ⟨c, a, rfl, rfl, hc, hroot⟩ |
      ⟨a, rfl, hleaves, hstack⟩
    · have hnot : ¬ ws.LeavesPlugged n m := fun hplugged => hm hplugged.1
      exact ⟨iff_of_true hmem hnot, fun a hout => absurd hout hm⟩
    · have hnot : ¬ ws.LeavesPlugged (.output c) .out := fun ⟨_, _, hleaves, _⟩ => hleaves
      refine ⟨iff_of_true (hforest.root_mem_tops hroot) hnot, fun a' _ ha' => ?_⟩
      obtain rfl : a = a' := Option.some.inj (hc.symm.trans ha')
      exact iff_of_true hroot hnot
    · obtain ⟨htops, hroot⟩ := hforest.leaves_to_stack hleaves hstack
      refine ⟨htops, fun a' _ ha' => ?_⟩
      obtain rfl : a = a' := Option.some.inj ((block?_of_leavesChain hleaves).symm.trans ha')
      exact hroot
  · rintro ⟨rfl, a, hleaves, hout⟩ hlive
    have hfree := hforest.hangsFrom_eq_none hout
    have hstack : ws.outOfChain a = .stack (ws.chainTop a) := by
      simp only [outOfChain, hfree]
    refine ⟨ws.chainTop a, ?_, fun hmem => ?_⟩
    · rw [← hstack]
      exact Navigator.navigate_of_leads hlive (leads_of_leavesChain hleaves)
    · exact (hforest.leaves_to_stack hleaves hstack).1.mp hmem ⟨rfl, a, hleaves, hout⟩

/-- A block with a value input, and a block plugged into it by its output. -/
def pluggedEdits : List Edit :=
  [.insert ⟨"holder", true, false, false, [⟨"value", .value, []⟩]⟩,
    .insert ⟨"plugged", false, true, true, []⟩, .connect ⟨1⟩ ⟨3⟩]

/-- Out of the next connection of the plugged block leads to that block as a stack, and it is no
top. -/
theorem out_of_plugged_next :
    (applyAll empty pluggedEdits).next? ⟨1⟩ = some ⟨2⟩ ∧
    (∃ b, (Navigator.ofWorkspace (applyAll empty pluggedEdits) 10).navigate (.next ⟨2⟩) .out =
      .ok (some (.stack b)) ∧ b ∉ (applyAll empty pluggedEdits).tops) ∧
    (applyAll empty pluggedEdits).root? ⟨1⟩ = some ⟨0⟩ := by
  refine ⟨rfl, ?_, rfl⟩
  exact (Reachable.stack_mem_tops_iff ⟨pluggedEdits, rfl⟩ 10 (.next ⟨2⟩) .out).2
    ⟨rfl, ⟨1⟩, rfl, by decide⟩ rfl

end Workspace

end BlockCursor
