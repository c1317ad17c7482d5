import BlockCursor.Proofs.Workspace.Swept

/-!
# Removing a subtree

What disposing a block comes to, told by the queries of the workspace before and after.  Taking the
block off what it hangs from makes it a top for a moment, but it goes at once, so the tops that are
left are the tops that there were.

* `Workspace.TakenOff` — a block has been taken off what it hangs from, if it hangs from anything.
* `Workspace.SubtreeRemoved` — a block is gone with everything below it, and nothing else is.
* **`Reachable.dispose_removes_subtree`** — disposing a live block ends, and does just that.
-/

namespace BlockCursor.Workspace

variable {ws mid after : Workspace} {a b x : BlockId} {c p : ConnectionId} {r s : Role}
  {cs : List ConnectionId}

/-! ## Taking a block off -/

/-- The workspace `mid` is `ws` with the block `b` taken off what it hangs from. -/
structure TakenOff (ws : Workspace) (b : BlockId) (mid : Workspace) : Prop where
  same : ws.SameObjects mid
  top : mid.parent? b = none
  parent : ∀ x, x ≠ b → mid.parent? x = ws.parent? x
  target : ∀ c, ws.owner? c ≠ some b →
    mid.target? c = if ws.holder? b = some c then none else ws.target? c
  tops : mid.tops = ws.tops ∨ mid.tops = ws.tops ++ [b]
  labels : mid.labels = ws.labels

/-- A block that hangs from nothing need not be taken off. -/
lemma Linked.takenOff_self (h : ws.Linked) (hb : ws.holder? b = none) : ws.TakenOff b ws where
  same := .refl ws
  top := h.parent_eq_none_iff.mpr hb
  parent _ _ := rfl
  target c _ := by rw [hb, if_neg (by simp)]
  tops := Or.inl rfl
  labels := rfl

/-- Breaking the link that a block hangs by takes it off. -/
lemma Linked.takenOff_unlink (h : ws.Linked) (hp : ws.place? p = some (a, r))
    (hc : ws.place? c = some (b, s)) (hfit : ws.roleFits r s = true)
    (hpc : ws.target? p = some c) : ws.TakenOff b (ws.unlink p c b) where
  same := sameObjects_unlink ws p c b
  top := by rw [h.parent_unlink hp hc hfit hpc, if_pos rfl]
  parent x hx := by rw [h.parent_unlink hp hc hfit hpc, if_neg hx]
  target d hd := by
    have hdc : d ≠ c := by
      rintro rfl
      exact hd (owner?_of_place hc)
    have hholder := h.holder_of_lower hc (isUpper_of_roleFits hfit).2 (h.symm p c hpc)
    rw [target?_unlink hp hc, if_neg hdc, hholder]
    simp only [Option.some.injEq, eq_comm]
  tops := Or.inr rfl
  labels := rfl

lemma releases_of_free (hfree : ∀ c ∈ cs, ws.target? c = none) :
    cs.foldlM release ws = .ok ws := by
  induction cs with
  | nil => rfl
  | cons c cs ih =>
      rw [List.foldlM_cons, release_of_free (hfree c List.mem_cons_self)]
      exact ih fun d hd => hfree d (List.mem_cons_of_mem _ hd)

/-- **A block is taken off** by breaking one link, or none if it hangs from nothing. -/
theorem Forest.exists_takenOff (h : ws.Forest) (b : BlockId) :
    ∃ mid, ((ws.previous? b).toList ++ (ws.output? b).toList).foldlM release ws = .ok mid ∧
      mid.Forest ∧ ws.TakenOff b mid := by
  cases hb : ws.holder? b with
  | none =>
      refine ⟨ws, releases_of_free fun c hc => ?_, h, h.takenOff_self hb⟩
      rcases List.mem_append.mp hc with hc | hc
      · exact h.target_of_holder_eq_none (h.place_of_previous (Option.mem_toList.mp hc)) rfl hb
      · exact h.target_of_holder_eq_none (h.place_of_output (Option.mem_toList.mp hc)) rfl hb
  | some p =>
      obtain ⟨a, r, c, s, hp, hc, hfit, hpc, hcp⟩ := h.of_holder hb
      have hok : ws.disconnect c = .ok (ws.unlink p c b) := (disconnect_eq_ok_iff h.toLinked).mpr
        ⟨p, c, a, r, b, s, hp, hc, hfit, hpc, Or.inr rfl, rfl⟩
      have hrelease : ws.release c = .ok (ws.unlink p c b) := by
        rw [release, hcp]
        exact hok
      refine ⟨ws.unlink p c b, ?_, h.disconnect hok, h.takenOff_unlink hp hc hfit hpc⟩
      cases s with
      | previous =>
          rw [h.previous_of_place hc]
          show (ws.release c >>= fun mid => (ws.output? b).toList.foldlM release mid) = _
          rw [hrelease]
          refine releases_of_free fun d hd => ?_
          have hfree := h.target_eq_none_or (h.previous_of_place hc) (Option.mem_toList.mp hd)
          rw [target?_unlink hp hc, hfree.resolve_left (by simp [hcp])]
          simp
      | output =>
          have hfree : ∀ d ∈ (ws.previous? b).toList, ws.target? d = none := fun d hd =>
            (h.target_eq_none_or (Option.mem_toList.mp hd) (h.output_of_place hc)).resolve_right
              (by simp [hcp])
          rw [List.foldlM_append, releases_of_free hfree, h.output_of_place hc]
          show (ws.release c >>= fun mid => pure mid) = _
          rw [hrelease]
          rfl
      | next => cases (isUpper_of_roleFits hfit).2
      | socket i => cases (isUpper_of_roleFits hfit).2

/-! ## What is left -/

/-- The workspace `after` is `ws` without the block `b` and what is below it. -/
structure SubtreeRemoved (ws : Workspace) (b : BlockId) (after : Workspace) : Prop where
  /-- A block is live if it was, is not `b` and does not have `b` above it. -/
  block_iff : ∀ x, after.hasBlock x = true ↔
    ws.hasBlock x = true ∧ x ≠ b ∧ ¬ Relation.TransGen (fun y z => ws.parent? y = some z) x b
  /-- An object of any sort is live if the block that it belonged to is. -/
  object_iff : ∀ o : ObjectId, after.has o = true ↔
    ∃ x, o.block? ws = some x ∧ after.hasBlock x = true
  /-- What is left of an object is all that was fixed about it. -/
  attributes_eq : ∀ o, after.has o = true → after.attributes? o = ws.attributes? o
  /-- A connection that is left keeps its link, unless `b` hung from it. -/
  target_eq : ∀ c, after.hasConnection c = true →
    after.target? c = if ws.holder? b = some c then none else ws.target? c
  tops_eq : after.tops = ws.tops.filter (· != b)
  /-- The block was no top if it hung from another one. -/
  tops_nested : ∀ a, ws.parent? b = some a → after.tops = ws.tops
  labels_eq : after.labels = ws.labels.filter fun entry => after.hasBlock entry.2

namespace TakenOff

variable (h : ws.TakenOff b mid) (hws : ws.Forest)
include h hws

/-- The same blocks are below a block before and after it is taken off. -/
lemma rises_iff : Rises mid.parent? x b ↔ Rises ws.parent? x b := by
  constructor
  · refine Relation.ReflTransGen.mono (fun y z hyz => ?_) x b
    have hy : y ≠ b := by
      rintro rfl
      rw [h.top] at hyz
      cases hyz
    rwa [h.parent y hy] at hyz
  · intro hx
    induction hx using Relation.ReflTransGen.head_induction_on with
    | refl => exact .refl
    | @head y z hyz hz ih =>
        have hy : y ≠ b := by
          rintro rfl
          exact hws.grounded.not_rises hyz hz
        rw [← h.parent y hy] at hyz
        exact ih.head hyz

variable (hmid : mid.Forest) (hb : ws.hasBlock b = true)
include hmid hb

lemma mem_subtree_iff : x ∈ mid.subtree b ↔ Rises ws.parent? x b := by
  have hb' : mid.hasBlock b = true := by rwa [h.same.hasBlock]
  rw [hmid.mem_subtree_iff hb', h.rises_iff hws]

lemma hasBlock_iff : (mid.without (mid.subtree b)).hasBlock x = true ↔
    ws.hasBlock x = true ∧ x ≠ b ∧ ¬ Relation.TransGen (fun y z => ws.parent? y = some z) x b := by
  have hbelow : Rises ws.parent? x b ↔
      b = x ∨ Relation.TransGen (fun y z => ws.parent? y = some z) x b :=
    Relation.reflTransGen_iff_eq_or_transGen
  rw [hasBlock_without, h.same.hasBlock, h.mem_subtree_iff hws hmid hb, hbelow, not_or, ne_comm]

/-- A connection that is left is none of `b`'s, and only what `b` hung from has lost its link. -/
lemma target_left (hc : (mid.without (mid.subtree b)).hasConnection c = true) :
    (mid.without (mid.subtree b)).target? c =
      if ws.holder? b = some c then none else ws.target? c := by
  obtain ⟨y, hy⟩ := Option.isSome_iff_exists.mp hc
  obtain ⟨hold, hstays⟩ := connection?_without.mp hy
  have howner : mid.owner? c = some y.block := by rw [owner?, hold, Option.map_some]
  have hne : ws.owner? c ≠ some b := by
    rw [← h.same.owner, howner]
    rintro ⟨⟩
    exact hstays ((h.mem_subtree_iff hws hmid hb).mpr .refl)
  rw [target?, connection?_without_eq howner hstays, ← target?, h.target c hne]

/-- The only top that goes is `b`: it is there for a moment if it was not there before. -/
lemma tops_left : (mid.without (mid.subtree b)).tops = ws.tops.filter (· != b) := by
  have hold : ws.tops.filter (fun x => !(mid.subtree b).contains x) = ws.tops.filter (· != b) := by
    refine List.filter_congr fun t ht => ?_
    have hmem : t ∈ mid.subtree b ↔ t = b := by
      rw [h.mem_subtree_iff hws hmid hb]
      exact ⟨fun htb => (htb.eq_of_top ((hws.mem_tops_iff t).mp ht).2).symm, fun e => e ▸ .refl⟩
    rw [Bool.eq_iff_iff]
    simp [hmem]
  have hself : b ∈ mid.subtree b := (h.mem_subtree_iff hws hmid hb).mpr .refl
  show mid.tops.filter _ = _
  rcases h.tops with htops | htops
  · rw [htops, hold]
  · rw [htops, List.filter_append, hold]
    simp [hself]

/-- **Taking a block off and removing what is listed below it removes its subtree.** -/
theorem subtreeRemoved (hlabels : ∀ e ∈ ws.labels, ws.hasBlock e.2 = true)
    (hev : ws.Evolves (mid.without (mid.subtree b)))
    (hafter : (mid.without (mid.subtree b)).Forest) :
    ws.SubtreeRemoved b (mid.without (mid.subtree b)) where
  block_iff x := h.hasBlock_iff hws hmid hb
  object_iff o := by
    constructor
    · intro hlive
      have hold : ws.has o = true := by rw [← h.same.has_eq]; exact has_of_without hlive
      obtain ⟨x, hx, hxlive⟩ := hws.exists_block_of_has hold
      exact ⟨x, hx, (hev.has_iff_hasBlock hws.toOwned hafter.toOwned hxlive hx).mp hlive⟩
    · rintro ⟨x, hx, hxlive⟩
      have hold := ((h.hasBlock_iff hws hmid hb).mp hxlive).1
      exact (hev.has_iff_hasBlock hws.toOwned hafter.toOwned hold hx).mpr hxlive
  attributes_eq o hlive := by
    have hold : ws.has o = true := by rw [← h.same.has_eq]; exact has_of_without hlive
    exact hev.attributes_eq (issued_of_has hold) hlive
  target_eq c hc := h.target_left hws hmid hb hc
  tops_eq := h.tops_left hws hmid hb
  tops_nested a ha := by
    rw [h.tops_left hws hmid hb, List.filter_eq_self]
    intro t ht
    have hne : t ≠ b := by
      rintro rfl
      rw [((hws.mem_tops_iff t).mp ht).2] at ha
      cases ha
    simpa using hne
  labels_eq := by
    show mid.labels.filter _ = _
    rw [h.labels]
    refine List.filter_congr fun entry hentry => ?_
    rw [Bool.eq_iff_iff, hasBlock_without, h.same.hasBlock, hlabels entry hentry]
    simp

end TakenOff

/-- **Disposing removes exactly one subtree**: of a live block it succeeds, also slot by slot as a
worklist goes, and what is left is all that was there but the block and what is below it. -/
theorem Reachable.dispose_removes_subtree (h : ws.Reachable) (hb : ws.hasBlock b = true) :
    ∃ after, ws.dispose b = .ok after ∧ ws.disposeBySlots b = .ok (some after) ∧
      ws.SubtreeRemoved b after := by
  obtain ⟨mid, hok, hmid, hoff⟩ := h.forest.exists_takenOff b
  have hdispose := dispose_of_released hb hok
  refine ⟨_, hdispose, ?_, ?_⟩
  · rw [h.forest.disposeBySlots_eq, hdispose]
    rfl
  · exact hoff.subtreeRemoved h.forest hmid hb h.hasBlock_of_mem_labels
      (evolves_apply h.forest (e := .dispose b) hdispose) (h.forest.dispose hdispose)

/-- A loop with two blocks in its body, the first of which holds a labelled block. -/
def bodyEdits : List Edit :=
  [.insert ⟨"loop", false, true, false, [⟨"body", .statement, []⟩]⟩,
    .insert ⟨"first", true, true, false, [⟨"value", .value, []⟩]⟩,
    .insert ⟨"plugged", false, false, true, []⟩, .insert ⟨"second", true, false, false, []⟩,
    .connect ⟨1⟩ ⟨2⟩, .connect ⟨4⟩ ⟨5⟩, .connect ⟨3⟩ ⟨6⟩, .setLabel ⟨2⟩ "held"]

/-- The body goes as a whole, with the label in it, and the loop stays the only top, with nothing
left in its socket. -/
theorem body_removed : ∃ after, (applyAll empty bodyEdits).dispose ⟨1⟩ = .ok after ∧
    (applyAll empty bodyEdits).disposeBySlots ⟨1⟩ = .ok (some after) ∧
    after.tops = [⟨0⟩] ∧ after.labels = [] ∧ after.hasBlock ⟨3⟩ = false ∧
    after.target? ⟨1⟩ = none := by
  obtain ⟨after, hok, hslots, hleft⟩ :=
    Reachable.dispose_removes_subtree (b := ⟨1⟩) ⟨bodyEdits, rfl⟩ rfl
  have hloop : after.hasBlock ⟨0⟩ = true := by
    refine (hleft.block_iff ⟨0⟩).mpr ⟨rfl, by decide, fun habove => ?_⟩
    obtain ⟨x, hx, -⟩ := Relation.TransGen.head'_iff.mp habove
    cases hx
  have hgone : ∀ x, Relation.TransGen (fun y z => (applyAll empty bodyEdits).parent? y = some z)
      x ⟨1⟩ → after.hasBlock x = false := fun x hx =>
    Bool.eq_false_of_not_eq_true fun hlive => ((hleft.block_iff x).mp hlive).2.2 hx
  have hplugged : after.hasBlock ⟨2⟩ = false := hgone ⟨2⟩ (.single rfl)
  have hsecond : after.hasBlock ⟨3⟩ = false := hgone ⟨3⟩ (.single rfl)
  have hsocket : after.hasConnection ⟨1⟩ = true :=
    (hleft.object_iff (.connection ⟨1⟩)).mpr ⟨⟨0⟩, rfl, hloop⟩
  refine ⟨after, hok, hslots, hleft.tops_nested ⟨0⟩ rfl, ?_, hsecond, hleft.target_eq ⟨1⟩ hsocket⟩
  rw [hleft.labels_eq]
  show [("held", ⟨2⟩)].filter (fun entry : String × BlockId => after.hasBlock entry.2) = []
  rw [List.filter_cons_of_neg (by simp [hplugged]), List.filter_nil]

end BlockCursor.Workspace
