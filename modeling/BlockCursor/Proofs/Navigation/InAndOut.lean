import BlockCursor.Proofs.Navigation.Inverse
import BlockCursor.Proofs.Navigation.StackResults

/-!
# In and then out

Going in leads to the top of what a stack or a socket holds, or to the first stop of a block, and
going out leads back from there.

| from | in | and then out |
|---|---|---|
| stack | previous of its top block, else its output | the stack |
| block | first field or socket of its first input | the block |
| statement socket | previous of the block it holds | the socket, as a `next` node |
| value socket | output of the block it holds | the socket |
| the same, held block with a previous connection | that connection | the held block as a stack |

The last line is a way in by one connection of a block that is plugged in by another one, and the
way out does not look for that one.

* `Workspace.outside` — a node, as the way out would name it.
* `Workspace.HoldsBeside` — the last line of the table.
* **`Reachable.out_after_into`** — out leads back from every node that in leads to, but for that
  line, where it leads to a stack that is no top.
-/

namespace BlockCursor

namespace Workspace

variable {ws : Workspace} {step : Float} {n y : Node} {a b : BlockId} {c s : ConnectionId}
  {i : InputId}

/-- How the way out names what a node is on: a statement socket is a `next` node, where a chain
leads out to. -/
def outside (ws : Workspace) : Node → Node
  | .input s =>
    if (ws.parentInput? s).bind ws.inputKind? = some .statement then .next s else .input s
  | n => n

/-- The node is on a value socket, and the block it holds has a previous connection beside the
output that it is plugged in by. -/
def HoldsBeside (ws : Workspace) (n : Node) (b : BlockId) : Prop :=
  ∃ s i, n = .input s ∧ ws.parentInput? s = some i ∧ ws.inputKind? i = some .value ∧
    ws.targetBlock? s = some b ∧ ws.previous? b ≠ none

/-- It is another node on the same object. -/
lemma reference_outside (ws : Workspace) (n : Node) : (ws.outside n).reference = n.reference := by
  cases n with
  | input s =>
      rw [outside]
      split <;> rfl
  | _ => rfl

lemma outside_of_kind {k : InputKind} (hs : ws.parentInput? s = some i)
    (hk : ws.inputKind? i = some k) :
    ws.outside (.input s) = if k = .statement then .next s else .input s := by
  rw [outside, hs, Option.bind_some, hk]
  simp only [Option.some.injEq]

namespace Forest

variable (h : ws.Forest)
include h

/-! ## Out of the top of a stack -/

lemma hangsFrom_of_mem_tops (hb : b ∈ ws.tops) : ws.hangsFrom? b = none := by
  have hfree := h.parent_eq_none_iff.mp ((h.mem_tops_iff b).mp hb).2
  exact (Option.or_eq_none_iff.mp hfree).1

/-- Out of the top of a top block leads to its stack. -/
lemma leads_out_of_top (hb : b ∈ ws.tops) (hy : ws.topNode? b = some y) :
    ws.Leads step y .out (.stack b) := by
  rcases topNode?_eq_some_iff.mp hy with ⟨c, hc, rfl⟩ | ⟨c, -, hc, rfl⟩
  · rw [← h.outOfChain_of_free (h.hangsFrom_of_mem_tops hb)]
    exact .previousOut (owner?_of_place (h.place_of_previous hc))
  · have hplace := h.place_of_output hc
    have hholder := h.parent_eq_none_iff.mp ((h.mem_tops_iff b).mp hb).2
    exact .outputStack (h.target_of_holder_eq_none hplace rfl hholder) (owner?_of_place hplace)
      (h.root_of_mem_tops hb)

/-! ## Out of what a socket holds -/

/-- What a statement socket holds hangs by its previous connection, and what a value socket holds by
its output. -/
lemma held_by_socket (hs : ws.place? s = some (a, .socket i)) (hb : ws.targetBlock? s = some b) :
    ∃ c, ws.target? c = some s ∧
      ((ws.inputKind? i = some .statement ∧ ws.place? c = some (b, .previous)) ∨
        (ws.inputKind? i = some .value ∧ ws.place? c = some (b, .output))) := by
  obtain ⟨c, hsc, hc⟩ := Option.bind_eq_some_iff.mp hb
  obtain ⟨u, q, hplace, hfit, hcs⟩ := h.lower_of_upper hs rfl hsc
  obtain rfl : u = b := Option.some.inj ((owner?_of_place hplace).symm.trans hc)
  refine ⟨c, hcs, ?_⟩
  rcases roleFits_iff.mp hfit with ⟨hr, -⟩ | ⟨j, hr, rfl, hk⟩ | ⟨j, hr, rfl, hk⟩
  · cases hr
  · cases hr
    exact Or.inl ⟨hk, hplace⟩
  · cases hr
    exact Or.inr ⟨hk, hplace⟩

/-- Out of the top of what a socket holds leads to the socket, unless the block plugs in beside its
previous connection. -/
lemma leads_out_of_held (hs : ws.place? s = some (a, .socket i)) (hb : ws.targetBlock? s = some b)
    (hy : ws.topNode? b = some y) (hbeside : ¬ ws.HoldsBeside (.input s) b) :
    ws.Leads step y .out (ws.outside (.input s)) := by
  have hinput := parentInput?_eq_some_iff.mpr ⟨a, hs⟩
  obtain ⟨c, hcs, ⟨hk, hplace⟩ | ⟨hk, hplace⟩⟩ := h.held_by_socket hs hb
  case inl =>
    have hprevious := h.previous_of_place hplace
    have hhangs : ws.hangsFrom? b = some s := by rw [hangsFrom?, hprevious, Option.bind_some, hcs]
    rw [topNode?_of_previous hprevious] at hy
    cases hy
    rw [outside_of_kind hinput hk, if_pos rfl, ← h.outOfChain_of_socket hhangs hs]
    exact .previousOut (owner?_of_place hplace)
  case inr =>
    have hnone : ws.previous? b = none := by
      by_contra hprevious
      exact hbeside ⟨s, i, rfl, hinput, hk, hb, hprevious⟩
    rcases topNode?_eq_some_iff.mp hy with ⟨d, hd, -⟩ | ⟨d, -, hd, rfl⟩
    · rw [hnone] at hd
      cases hd
    · obtain rfl : c = d := Option.some.inj ((h.output_of_place hplace).symm.trans hd)
      rw [outside_of_kind hinput hk, if_neg (by simp)]
      exact .outputSocket hcs

/-- A block that plugs in beside its previous connection is left for its own stack, though it is no
top. -/
lemma leads_out_of_beside (hbeside : ws.HoldsBeside (.input s) b) (hy : ws.topNode? b = some y) :
    ws.Leads step y .out (.stack b) ∧ b ∉ ws.tops := by
  obtain ⟨_, i, hinput, hs, hk, hb, hprevious⟩ := hbeside
  cases hinput
  obtain ⟨a, hs⟩ := parentInput?_eq_some_iff.mp hs
  obtain ⟨c, hcs, ⟨hk', -⟩ | ⟨-, hplace⟩⟩ := h.held_by_socket hs hb
  case inl =>
    rw [hk] at hk'
    cases hk'
  case inr =>
    have hplugged : (ws.output? b).bind ws.target? ≠ none := by
      rw [h.output_of_place hplace, Option.bind_some, hcs]
      simp
    have hfree := h.hangsFrom_eq_none hplugged
    obtain ⟨d, hd⟩ := Option.ne_none_iff_exists'.mp hprevious
    rw [topNode?_of_previous hd] at hy
    cases hy
    refine ⟨?_, fun hmem => ?_⟩
    · rw [← h.outOfChain_of_free hfree]
      exact .previousOut (owner?_of_place (h.place_of_previous hd))
    · exact hplugged ((h.mem_tops_iff_of_free (h.hasBlock_of_mem_tops hmem) hfree).mp hmem)

end Forest

/-! ## Out of a stop -/

/-- Out of every stop of a block leads to the block. -/
lemma Owned.leads_out_of_stop (h : ws.Owned) (hi : ws.inputBlock? i = some b)
    (hy : y ∈ ws.inputStops i) : ws.Leads step y .out (.block b) := by
  rcases mem_inputStops_iff.mp hy with ⟨f, hf, -, rfl⟩ | ⟨s, hs, rfl⟩
  · exact .fieldOut ((h.field_iff i f).mp hf) hi
  · obtain ⟨a, ha, hplace⟩ := h.place_of_socket hs
    obtain rfl : a = b := Option.some.inj (ha.symm.trans hi)
    exact .inputOut (owner?_of_place hplace)

/-! ## In and then out -/

/-- A socket holds one block. -/
lemma HoldsBeside.unique (hb : ws.HoldsBeside n b) (ha : ws.HoldsBeside n a) : b = a := by
  obtain ⟨s, i, rfl, -, -, hb, -⟩ := hb
  obtain ⟨_, j, hinput, -, -, ha, -⟩ := ha
  cases hinput
  exact Option.some.inj (hb.symm.trans ha)

/-- **Out of where in leads to**, line by line. -/
theorem Leads.out_of_into (h : ws.Forest) (hn : n.Natural ws) (hmove : ws.Leads step n .into y) :
    ∃ z, ws.Leads step y .out z ∧ ((z = ws.outside n ∧ ∀ b, ¬ ws.HoldsBeside n b) ∨
      ∃ b, ws.HoldsBeside n b ∧ z = .stack b ∧ b ∉ ws.tops) := by
  cases hmove with
  | firstStack => exact hn.elim
  | @stackInto b y hy =>
      refine ⟨_, h.leads_out_of_top hn hy, Or.inl ⟨rfl, ?_⟩⟩
      rintro _ ⟨s, i, hinput, -⟩
      cases hinput
  | @blockInto b i y hi hy =>
      have hblock := (h.input_iff b i).mp (List.mem_of_head? hi)
      refine ⟨_, h.leads_out_of_stop hblock (mem_of_enterForward hy), Or.inl ⟨rfl, ?_⟩⟩
      rintro _ ⟨s, j, hinput, -⟩
      cases hinput
  | @inputInto s b y hb hy =>
      by_cases hbeside : ws.HoldsBeside (.input s) b
      · have hout : ws.Leads step y .out (.stack b) ∧ b ∉ ws.tops :=
          h.leads_out_of_beside hbeside hy
        exact ⟨_, hout.1, Or.inr ⟨b, hbeside, rfl, hout.2⟩⟩
      · obtain ⟨a, i, hs⟩ := exists_place_of_input hn
        refine ⟨_, h.leads_out_of_held hs hb hy hbeside, Or.inl ⟨rfl, fun u hu => ?_⟩⟩
        obtain ⟨_, j, hinput, -, -, hub, -⟩ := id hu
        cases hinput
        obtain rfl : b = u := Option.some.inj (hb.symm.trans hub)
        exact hbeside hu

/-- **In and then out leads back** to a node on the same object, unless the node is on a value
socket and the block it holds has a previous connection: then out leads to that block as a stack,
and it is no top. -/
theorem Reachable.out_after_into (h : ws.Reachable) (step : Float) (hn : n.Natural ws)
    (hin : (Navigator.ofWorkspace ws step).navigate n .into = .ok (some y)) :
    ∃ z, (Navigator.ofWorkspace ws step).navigate y .out = .ok (some z) ∧
      (z = ws.outside n ↔ ¬ ∃ b, ws.HoldsBeside n b) ∧
      ∀ b, ws.HoldsBeside n b → z = .stack b ∧ b ∉ ws.tops := by
  obtain ⟨-, hmove⟩ := Navigator.navigate_eq_some_iff.mp hin
  have hlive : y.isLive ws = true := (hmove.sound h.forest (hn.agrees h.forest)).1.isLive
  obtain ⟨z, hout, hz⟩ := hmove.out_of_into h.forest hn
  refine ⟨z, Navigator.navigate_of_leads hlive hout, ?_⟩
  rcases hz with ⟨hback, hnot⟩ | ⟨b, hbeside, rfl, hnot⟩
  · exact ⟨iff_of_true hback fun ⟨b, hb⟩ => hnot b hb, fun b hb => absurd hb (hnot b)⟩
  · refine ⟨iff_of_false (fun hback => ?_) (not_not_intro ⟨b, hbeside⟩), fun a ha => ?_⟩
    · -- the socket is a connection, and the stack is named by a block
      obtain ⟨s, i, rfl, -⟩ := hbeside
      have hreference := congrArg Node.reference hback
      rw [reference_outside] at hreference
      cases hreference
    · rw [← hbeside.unique ha]
      exact ⟨rfl, hnot⟩

/-- A block with a value input, and a block with a previous connection plugged into it by its
output. -/
def besideEdits : List Edit :=
  [.insert ⟨"holder", true, false, false, [⟨"v", .value, []⟩]⟩,
    .insert ⟨"plugged", true, false, true, []⟩, .connect ⟨1⟩ ⟨3⟩]

/-- In and then out of the stack leads back to it; in and then out of the socket leads to the block
that it holds. -/
theorem out_of_previous_beside :
    (Navigator.ofWorkspace (applyAll empty besideEdits)).navigate (.previous ⟨0⟩) .out =
      .ok (some (.stack ⟨0⟩)) ∧
    (Navigator.ofWorkspace (applyAll empty besideEdits)).navigate (.previous ⟨2⟩) .out =
      .ok (some (.stack ⟨1⟩)) ∧ ⟨1⟩ ∉ (applyAll empty besideEdits).tops := by
  have hreach : (applyAll empty besideEdits).Reachable := ⟨besideEdits, rfl⟩
  constructor
  · obtain ⟨z, hout, hback, -⟩ := Reachable.out_after_into (n := .stack ⟨0⟩) (y := .previous ⟨0⟩)
      hreach 10 (by decide : ⟨0⟩ ∈ (applyAll empty besideEdits).tops) rfl
    rw [hout, hback.mpr ?_]
    · rfl
    · rintro ⟨b, s, i, hinput, -⟩
      cases hinput
  · obtain ⟨z, hout, -, hbeside⟩ := Reachable.out_after_into (n := .input ⟨1⟩) (y := .previous ⟨2⟩)
      hreach 10 rfl rfl
    obtain ⟨rfl, hnot⟩ := hbeside ⟨1⟩ ⟨⟨1⟩, ⟨0⟩, rfl, rfl, rfl, rfl, by decide⟩
    exact ⟨hout, hnot⟩

end Workspace

end BlockCursor
