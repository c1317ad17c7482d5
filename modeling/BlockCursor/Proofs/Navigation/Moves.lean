import BlockCursor.Navigation.Navigator
import BlockCursor.Proofs.Workspace.Forest

/-!
# Moves as a relation

`Navigator.navigate` reads several queries for each kind of node.  `Leads` lists what they come to,
one constructor for each way to move on, for a navigator whose ring is the list of tops; what is
proved about all moves is proved by cases on it.

* `Workspace.Leads` — from a node by a move to a node.
* **`navigate_eq_some_iff`** — it is what `navigate` does on live nodes.
* **`Forest.exists_navigate`** — on a forest a move never fails: every root is on the ring.
-/

namespace BlockCursor

namespace Workspace

/-- Which moves lead from which nodes to which. -/
inductive Leads (ws : Workspace) (step : Float) : Node → Move → Node → Prop
  | shiftRight (p : Point) : Leads ws step (.workspace p) .next (.workspace (p.offset step 0))
  | shiftLeft (p : Point) : Leads ws step (.workspace p) .prev (.workspace (p.offset (-step) 0))
  | firstStack {p b} : ws.tops.head? = some b → Leads ws step (.workspace p) .into (.stack b)
  | following {a t i b} : ws.root? a = some t → ws.tops.idxOf? t = some i →
      ringBeside ws.tops i true = some b → Leads ws step (.stack a) .next (.stack b)
  | preceding {a t i b} : ws.root? a = some t → ws.tops.idxOf? t = some i →
      ringBeside ws.tops i false = some b → Leads ws step (.stack a) .prev (.stack b)
  | stackInto {b n} : ws.topNode? b = some n → Leads ws step (.stack b) .into n
  | outputNext {c b} : ws.owner? c = some b → Leads ws step (.output c) .next (.block b)
  | outputPrev {c b d} : ws.owner? c = some b → ws.previous? b = some d →
      Leads ws step (.output c) .prev (.previous d)
  /-- An output that is plugged in leads out to its socket. -/
  | outputSocket {c s} : ws.target? c = some s → Leads ws step (.output c) .out (.input s)
  /-- An output that is free leads out to the stack of its block. -/
  | outputStack {c b t} : ws.target? c = none → ws.owner? c = some b → ws.root? b = some t →
      Leads ws step (.output c) .out (.stack t)
  | previousOutput {c b d} : ws.owner? c = some b → ws.output? b = some d →
      Leads ws step (.previous c) .next (.output d)
  | previousBlock {c b} : ws.owner? c = some b → ws.output? b = none →
      Leads ws step (.previous c) .next (.block b)
  /-- Before a block is the next connection of what it hangs from. -/
  | previousPrev {c a d} : ws.targetBlock? c = some a → ws.next? a = some d →
      Leads ws step (.previous c) .prev (.next d)
  | previousOut {c b} : ws.owner? c = some b →
      Leads ws step (.previous c) .out (ws.outOfChain b)
  | nextNext {c b n} : ws.targetBlock? c = some b → ws.topNode? b = some n →
      Leads ws step (.next c) .next n
  | nextPrev {c b} : ws.owner? c = some b → Leads ws step (.next c) .prev (.block b)
  | nextOut {c b} : ws.owner? c = some b → Leads ws step (.next c) .out (ws.outOfChain b)
  | blockNext {b c} : ws.next? b = some c → Leads ws step (.block b) .next (.next c)
  | blockOutput {b c} : ws.output? b = some c → Leads ws step (.block b) .prev (.output c)
  | blockPrevious {b c} : ws.output? b = none → ws.previous? b = some c →
      Leads ws step (.block b) .prev (.previous c)
  | blockInto {b i n} : (ws.inputsOf b).head? = some i → ws.enterForward? i = some n →
      Leads ws step (.block b) .into n
  | blockSocket {b c s} : ws.output? b = some c → ws.target? c = some s →
      Leads ws step (.block b) .out (.input s)
  | blockOut {b c} : ws.output? b = some c → ws.target? c = none →
      Leads ws step (.block b) .out (.output c)
  | blockChain {b} : ws.output? b = none → ws.hasBlock b = true →
      Leads ws step (.block b) .out (ws.outOfChain b)
  | fieldNext {f n} : ws.afterField? f = some n → Leads ws step (.field f) .next n
  | fieldPrev {f n} : ws.beforeField? f = some n → Leads ws step (.field f) .prev n
  | fieldOut {f i b} : ws.fieldInput? f = some i → ws.inputBlock? i = some b →
      Leads ws step (.field f) .out (.block b)
  | inputNext {c n} : ws.afterSocket? c = some n → Leads ws step (.input c) .next n
  | inputPrev {c n} : ws.beforeSocket? c = some n → Leads ws step (.input c) .prev n
  | inputInto {c b n} : ws.targetBlock? c = some b → ws.topNode? b = some n →
      Leads ws step (.input c) .into n
  | inputOut {c b} : ws.owner? c = some b → Leads ws step (.input c) .out (.block b)

end Workspace

open Workspace

variable {ws : Workspace} {step : Float} {n n' : Node} {m : Move} {b : BlockId}

/-! ## The ring of stacks -/

/-- What is beside a live stack on the ring of tops. -/
lemma stackBeside?_eq_some_iff (hb : ws.hasBlock b = true) (forward : Bool) :
    stackBeside? ws ws.tops (.stack b) forward = .ok (some n') ↔
      ∃ t i u, ws.root? b = some t ∧ ws.tops.idxOf? t = some i ∧
        ringBeside ws.tops i forward = some u ∧ n' = .stack u := by
  have hblock : (Node.stack b).block? ws = some b := by
    simp [Node.block?, Node.reference, Reference.block?, hb]
  rw [stackBeside?, hblock, Option.bind_some]
  cases ht : ws.root? b with
  | none => simp
  | some t =>
      cases hi : ws.tops.idxOf? t with
      | none => simp [hi]
      | some i => simp [hi, eq_comm (a := n')]

/-- On a forest every stack has its place on the ring. -/
lemma Workspace.Forest.exists_stackBeside (h : ws.Forest) (n : Node) (forward : Bool) :
    ∃ r, stackBeside? ws ws.tops n forward = .ok r := by
  rw [stackBeside?]
  cases ht : (n.block? ws).bind ws.root? with
  | none => exact ⟨none, rfl⟩
  | some t =>
      obtain ⟨b, -, hroot⟩ := Option.bind_eq_some_iff.mp ht
      cases hi : ws.tops.idxOf? t with
      | none => exact absurd (h.root_mem_tops hroot) (List.idxOf?_eq_none_iff.mp hi)
      | some i => exact ⟨_, by simp only [hi]; rfl⟩

namespace Navigator

/-! ## What a move does -/

lemma leads_of_nextOf (hlive : n.isLive ws = true)
    (h : (ofWorkspace ws step).nextOf n = .ok (some n')) : ws.Leads step n .next n' := by
  cases n with
  | workspace p =>
      cases h
      exact .shiftRight p
  | stack b =>
      obtain ⟨t, i, u, ht, hi, hu, rfl⟩ := (stackBeside?_eq_some_iff hlive true).mp h
      exact .following ht hi hu
  | output c =>
      obtain ⟨b, hb, rfl⟩ := Option.map_eq_some_iff.mp (Except.ok.inj h)
      exact .outputNext hb
  | previous c =>
      obtain ⟨b, hb, hn⟩ := Option.map_eq_some_iff.mp (Except.ok.inj h)
      cases hd : ws.output? b with
      | none =>
          simp only [ofWorkspace, hd, Option.map_none, Option.getD_none] at hn
          exact hn ▸ .previousBlock hb hd
      | some d =>
          simp only [ofWorkspace, hd, Option.map_some, Option.getD_some] at hn
          exact hn ▸ .previousOutput hb hd
  | next c =>
      obtain ⟨b, hb, hn⟩ := Option.bind_eq_some_iff.mp (Except.ok.inj h)
      exact .nextNext hb hn
  | block b =>
      obtain ⟨c, hc, rfl⟩ := Option.map_eq_some_iff.mp (Except.ok.inj h)
      exact .blockNext hc
  | field f => exact .fieldNext (Except.ok.inj h)
  | input c => exact .inputNext (Except.ok.inj h)

lemma leads_of_prevOf (hlive : n.isLive ws = true)
    (h : (ofWorkspace ws step).prevOf n = .ok (some n')) : ws.Leads step n .prev n' := by
  cases n with
  | workspace p =>
      cases h
      exact .shiftLeft p
  | stack b =>
      obtain ⟨t, i, u, ht, hi, hu, rfl⟩ := (stackBeside?_eq_some_iff hlive false).mp h
      exact .preceding ht hi hu
  | output c =>
      obtain ⟨d, hd, rfl⟩ := Option.map_eq_some_iff.mp (Except.ok.inj h)
      obtain ⟨b, hb, hd⟩ := Option.bind_eq_some_iff.mp hd
      exact .outputPrev hb hd
  | previous c =>
      obtain ⟨d, hd, rfl⟩ := Option.map_eq_some_iff.mp (Except.ok.inj h)
      obtain ⟨a, ha, hd⟩ := Option.bind_eq_some_iff.mp hd
      exact .previousPrev ha hd
  | next c =>
      obtain ⟨b, hb, rfl⟩ := Option.map_eq_some_iff.mp (Except.ok.inj h)
      exact .nextPrev hb
  | block b =>
      rcases Option.or_eq_some_iff.mp (Except.ok.inj h) with hn | ⟨hnone, hn⟩
      · obtain ⟨c, hc, rfl⟩ := Option.map_eq_some_iff.mp hn
        exact .blockOutput hc
      · obtain ⟨c, hc, rfl⟩ := Option.map_eq_some_iff.mp hn
        exact .blockPrevious (Option.map_eq_none_iff.mp hnone) hc
  | field f => exact .fieldPrev (Except.ok.inj h)
  | input c => exact .inputPrev (Except.ok.inj h)

lemma leads_of_inOf (h : (ofWorkspace ws step).inOf n = some n') : ws.Leads step n .into n' := by
  cases n with
  | workspace p =>
      obtain ⟨b, hb, rfl⟩ := Option.map_eq_some_iff.mp h
      exact .firstStack hb
  | stack b => exact .stackInto h
  | block b =>
      obtain ⟨i, hi, hn⟩ := Option.bind_eq_some_iff.mp h
      exact .blockInto hi hn
  | input c =>
      obtain ⟨b, hb, hn⟩ := Option.bind_eq_some_iff.mp h
      exact .inputInto hb hn
  | field f => cases h
  | output c => cases h
  | previous c => cases h
  | next c => cases h

lemma leads_of_outOf (hlive : n.isLive ws = true) (h : (ofWorkspace ws step).outOf n = some n') :
    ws.Leads step n .out n' := by
  cases n with
  | workspace p => cases h
  | stack b => cases h
  | output c =>
      cases hs : ws.target? c with
      | none =>
          simp only [outOf, ofWorkspace, hs] at h
          obtain ⟨t, ht, rfl⟩ := Option.map_eq_some_iff.mp h
          obtain ⟨b, hb, ht⟩ := Option.bind_eq_some_iff.mp ht
          exact .outputStack hs hb ht
      | some s =>
          simp only [outOf, ofWorkspace, hs, Option.some.injEq] at h
          exact h ▸ .outputSocket hs
  | previous c =>
      obtain ⟨b, hb, rfl⟩ := Option.map_eq_some_iff.mp h
      exact .previousOut hb
  | next c =>
      obtain ⟨b, hb, rfl⟩ := Option.map_eq_some_iff.mp h
      exact .nextOut hb
  | block b =>
      cases hc : ws.output? b with
      | none =>
          simp only [outOf, ofWorkspace, hc] at h
          obtain ⟨b', hb', rfl⟩ := Option.map_eq_some_iff.mp h
          have hlive' : ws.hasBlock b = true := hlive
          rw [Reference.block?, if_pos hlive', Option.some.injEq] at hb'
          exact hb' ▸ .blockChain hc hlive'
      | some c =>
          cases hs : ws.target? c with
          | none =>
              simp only [outOf, ofWorkspace, hc, hs, Option.map_none, Option.getD_none,
                Option.some.injEq] at h
              exact h ▸ .blockOut hc hs
          | some s =>
              simp only [outOf, ofWorkspace, hc, hs, Option.map_some, Option.getD_some,
                Option.some.injEq] at h
              exact h ▸ .blockSocket hc hs
  | field f =>
      obtain ⟨b, hb, rfl⟩ := Option.map_eq_some_iff.mp h
      obtain ⟨i, hi, hb⟩ := Option.bind_eq_some_iff.mp hb
      exact .fieldOut hi hb
  | input c =>
      obtain ⟨b, hb, rfl⟩ := Option.map_eq_some_iff.mp h
      exact .inputOut hb

lemma navigate_of_live (hlive : n.isLive ws = true) :
    (ofWorkspace ws step).navigate n m =
      match m with
      | .next => (ofWorkspace ws step).nextOf n
      | .prev => (ofWorkspace ws step).prevOf n
      | .into => .ok ((ofWorkspace ws step).inOf n)
      | .out => .ok ((ofWorkspace ws step).outOf n) :=
  if_pos hlive

/-- A stale node is left nowhere. -/
lemma navigate_of_stale (hstale : ¬ n.isLive ws = true) :
    (ofWorkspace ws step).navigate n m = .ok none :=
  if_neg hstale

/-- What leads on from a live node is where the move goes. -/
lemma navigate_of_leads (hlive : n.isLive ws = true) (h : ws.Leads step n m n') :
    (ofWorkspace ws step).navigate n m = .ok (some n') := by
  rw [navigate_of_live hlive, ofWorkspace]
  cases h with
  | shiftRight p => rfl
  | shiftLeft p => rfl
  | firstStack hb => simp [inOf, hb]
  | following ht hi hu =>
      exact (stackBeside?_eq_some_iff hlive true).mpr ⟨_, _, _, ht, hi, hu, rfl⟩
  | preceding ht hi hu =>
      exact (stackBeside?_eq_some_iff hlive false).mpr ⟨_, _, _, ht, hi, hu, rfl⟩
  | stackInto hn => exact congrArg Except.ok hn
  | outputNext hb => simp [nextOf, hb]
  | outputPrev hb hd => simp [prevOf, hb, hd]
  | outputSocket hs => simp [outOf, hs]
  | outputStack hs hb ht => simp [outOf, hs, hb, ht]
  | previousOutput hb hd => simp [nextOf, hb, hd]
  | previousBlock hb hd => simp [nextOf, hb, hd]
  | previousPrev ha hd => simp [prevOf, ha, hd]
  | previousOut hb => simp [outOf, outOfChain?, hb]
  | nextNext hb hn => simp [nextOf, hb, hn]
  | nextPrev hb => simp [prevOf, hb]
  | nextOut hb => simp [outOf, outOfChain?, hb]
  | blockNext hc => simp [nextOf, hc]
  | blockOutput hc => simp [prevOf, hc]
  | blockPrevious hd hc => simp [prevOf, hd, hc]
  | blockInto hi hn => simp [inOf, hi, hn]
  | blockSocket hc hs => simp [outOf, hc, hs]
  | blockOut hc hs => simp [outOf, hc, hs]
  | blockChain hc hb => simp [outOf, outOfChain?, Reference.block?, hc, hb]
  | fieldNext hn => exact congrArg Except.ok hn
  | fieldPrev hn => exact congrArg Except.ok hn
  | fieldOut hi hb => simp [outOf, Node.block?, Node.reference, Reference.block?, hi, hb]
  | inputNext hn => exact congrArg Except.ok hn
  | inputPrev hn => exact congrArg Except.ok hn
  | inputInto hb hn => simp [inOf, hb, hn]
  | inputOut hb => simp [outOf, hb]

/-- **Where a move goes**: nowhere from a stale node, and else where `Leads` says. -/
theorem navigate_eq_some_iff : (ofWorkspace ws step).navigate n m = .ok (some n') ↔
    n.isLive ws = true ∧ ws.Leads step n m n' := by
  constructor
  · intro h
    by_cases hlive : n.isLive ws = true
    · rw [navigate_of_live hlive] at h
      refine ⟨hlive, ?_⟩
      cases m with
      | next => exact leads_of_nextOf hlive h
      | prev => exact leads_of_prevOf hlive h
      | into => exact leads_of_inOf (Except.ok.inj h)
      | out => exact leads_of_outOf hlive (Except.ok.inj h)
    · rw [navigate_of_stale hlive] at h
      cases h
  · rintro ⟨hlive, h⟩
    exact navigate_of_leads hlive h

end Navigator

open Navigator

/-- **On a forest no move fails.** -/
theorem Workspace.Forest.exists_navigate (h : ws.Forest) (step : Float) (n : Node) (m : Move) :
    ∃ r, (ofWorkspace ws step).navigate n m = .ok r := by
  by_cases hlive : n.isLive ws = true
  · rw [navigate_of_live hlive]
    cases m with
    | next =>
        cases n with
        | stack b => exact h.exists_stackBeside (.stack b) true
        | _ => exact ⟨_, rfl⟩
    | prev =>
        cases n with
        | stack b => exact h.exists_stackBeside (.stack b) false
        | _ => exact ⟨_, rfl⟩
    | into => exact ⟨_, rfl⟩
    | out => exact ⟨_, rfl⟩
  · exact ⟨none, navigate_of_stale hlive⟩

end BlockCursor
