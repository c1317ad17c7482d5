import BlockCursor.Proofs.Workspace.Connecting

/-!
# Connecting and disconnecting undo each other

Either end of a link names it, and breaking it writes the two ends and puts the lower block behind
the other tops.  Making the link again writes the same two ends and takes the block out of the tops,
wherever it stands; so nothing is left of breaking it.  The other way round one thing is left: the
block has been a top before, and it comes back as the last one.

* `link_unlink`, `unlink_link` — what is left of the two writes.
* **`Forest.connect_unlink`** — a link that has been broken can be made again.
* **`Reachable.connect_disconnect_undo`** — both ways round.
-/

namespace BlockCursor.Workspace

variable {ws after : Workspace} {a b : BlockId} {c p x : ConnectionId} {r s : Role}

/-! ## Two writes -/

section Writes

variable (hp : ws.place? p = some (a, r)) (hc : ws.place? c = some (b, s))
include hp hc

/-- Nothing is left of breaking a link and making it again. -/
lemma link_unlink (hpc : ws.target? p = some c) (hcp : ws.target? c = some p)
    (hnodup : (ws.tops ++ [b]).Nodup) : (ws.unlink p c b).link p c b = ws := by
  have hsame := onlyRelinked_unlink ws p c b
  refine (hsame.trans (onlyRelinked_link _ p c b)).eq (fun x => ?_) ?_
  · rw [target?_link ((hsame.place p).trans hp) ((hsame.place c).trans hc), target?_unlink hp hc]
    by_cases hxc : x = c
    · rw [if_pos hxc, hxc, hcp]
    by_cases hxp : x = p
    · rw [if_neg hxc, if_pos hxp, hxp, hpc]
    · simp only [if_neg hxc, if_neg hxp]
  · show (ws.tops ++ [b]).filter (· != b) = ws.tops
    rw [filter_ne_eq hnodup, List.append_nil]

/-- Of making a link and breaking it is left that the lower block stands behind the other tops. -/
lemma unlink_link (hfree : ws.target? p = none) (hcfree : ws.target? c = none) :
    (ws.link p c b).unlink p c b = { ws with tops := ws.tops.filter (· != b) ++ [b] } := by
  have hsame := onlyRelinked_link ws p c b
  have hmoved : { ws with tops := ws.tops.filter (· != b) ++ [b] }.OnlyRelinked ws :=
    ⟨rfl, rfl, rfl, rfl, rfl, fun _ => rfl⟩
  refine (hmoved.trans (hsame.trans (onlyRelinked_unlink _ p c b))).eq (fun x => ?_) rfl
  · rw [target?_unlink ((hsame.place p).trans hp) ((hsame.place c).trans hc), target?_link hp hc]
    show _ = ws.target? x
    by_cases hxc : x = c
    · rw [if_pos hxc, hxc, hcfree]
    by_cases hxp : x = p
    · rw [if_neg hxc, if_pos hxp, hxp, hfree]
    · simp only [if_neg hxc, if_neg hxp]

end Writes

/-! ## Broken links -/

/-- A link is broken at either of its ends, with the same result. -/
lemma Linked.disconnect_of_link (h : ws.Linked) (hp : ws.place? p = some (a, r))
    (hc : ws.place? c = some (b, s)) (hfit : ws.roleFits r s = true)
    (hpc : ws.target? p = some c) (hx : x = p ∨ x = c) :
    ws.disconnect x = .ok (ws.unlink p c b) :=
  (disconnect_eq_ok_iff h).mpr ⟨p, c, a, r, b, s, hp, hc, hfit, hpc, hx, rfl⟩

/-- **A link that has been broken can be made again**, and all is as it was before. -/
theorem Forest.connect_unlink (h : ws.Forest) (hp : ws.place? p = some (a, r))
    (hc : ws.place? c = some (b, s)) (hfit : ws.roleFits r s = true)
    (hpc : ws.target? p = some c) : (ws.unlink p c b).connect p c = .ok ws := by
  have hsame := sameObjects_unlink ws p c b
  have hcp := h.symm p c hpc
  have hparent := h.parent_unlink hp hc hfit hpc b
  have hba : ws.parent? b = some a :=
    h.parent_iff.mpr ⟨p, h.holder_of_lower hc (isUpper_of_roleFits hfit).2 hcp, owner?_of_place hp⟩
  have hmid : (ws.unlink p c b).Forest :=
    h.disconnect (h.disconnect_of_link hp hc hfit hpc (Or.inl rfl))
  refine connect_eq_ok_iff.mpr ⟨a, r, b, s, (hsame.place p).trans hp, (hsame.place c).trans hc,
    ?fits, ?free, ?top, ?root, (link_unlink hp hc hpc hcp hmid.tops_nodup).symm⟩
  case fits => rw [hsame.roleFits, hfit]
  case free => rw [target?_unlink hp hc, if_neg (ne_of_roleFits hp hc hfit), if_pos rfl]
  case top => rw [hparent, if_pos rfl]
  case root =>
    -- the upper block would have been below the lower one when that hung from it
    intro hroot
    obtain ⟨-, hrises, -⟩ := hmid.root_iff.mp hroot
    refine h.grounded.not_rises hba (Relation.ReflTransGen.mono (fun x y hxy => ?_) a b hrises)
    rw [hparent] at hxy
    split_ifs at hxy
    exact hxy

/-- **Connecting and disconnecting undo each other.**  A link can be broken at either of its ends,
with the same result, and when it is made again the workspace is what it was, with the same tops in
the same order.  A link that has just been made can be broken at either of its ends, with the same
result, and then the workspace is what it was but for the lower block, which stands behind the other
tops. -/
theorem Reachable.connect_disconnect_undo (h : ws.Reachable) (p c : ConnectionId) :
    (ws.target? p = some c → ws.Joins p c → ∃ mid,
      ws.disconnect p = .ok mid ∧ ws.disconnect c = .ok mid ∧ mid.connect p c = .ok ws) ∧
    ∀ after, ws.connect p c = .ok after → ∃ b back, ws.owner? c = some b ∧ b ∈ ws.tops ∧
      after.disconnect p = .ok back ∧ after.disconnect c = .ok back ∧
      back = { ws with tops := ws.tops.erase b ++ [b] } := by
  have hforest := h.forest
  constructor
  · intro hpc hjoins
    obtain ⟨a, r, hp⟩ := exists_place_of_target hpc
    obtain ⟨b, s, hc⟩ := exists_place_of_target (hforest.symm p c hpc)
    have hfit := (hforest.joins_iff_roleFits hp hc).mp hjoins
    exact ⟨_, hforest.disconnect_of_link hp hc hfit hpc (Or.inl rfl),
      hforest.disconnect_of_link hp hc hfit hpc (Or.inr rfl),
      hforest.connect_unlink hp hc hfit hpc⟩
  · intro after hok
    have hafter := (hforest.connect hok).toLinked
    obtain ⟨a, r, b, s, hp, hc, hfit, hfree, hb, -, rfl⟩ := connect_eq_ok_iff.mp hok
    have hsame := sameObjects_link ws p c b
    have hcfree := hforest.target_of_holder_eq_none hc (isUpper_of_roleFits hfit).2
      (hforest.parent_eq_none_iff.mp hb)
    have hpc : (ws.link p c b).target? p = some c := by
      rw [target?_link hp hc, if_neg (ne_of_roleFits hp hc hfit), if_pos rfl]
    have hbreak : ∀ x, x = p ∨ x = c →
        (ws.link p c b).disconnect x = .ok ((ws.link p c b).unlink p c b) := fun x hx =>
      hafter.disconnect_of_link ((hsame.place p).trans hp) ((hsame.place c).trans hc)
        (hsame.roleFits ▸ hfit) hpc hx
    have htop : b ∈ ws.tops := (hforest.mem_tops_iff b).mpr ⟨hforest.hasBlock_of_place hc, hb⟩
    refine ⟨b, _, owner?_of_place hc, htop, hbreak p (Or.inl rfl), hbreak c (Or.inr rfl), ?_⟩
    rw [unlink_link hp hc hfree hcfree, hforest.tops_nodup.erase_eq_filter]

/-- Two blocks that can make a chain, and a third one. -/
def pairEdits : List Edit :=
  [.insert ⟨"upper", false, true, false, []⟩, .insert ⟨"lower", true, false, false, []⟩,
    .insert ⟨"loose", true, false, false, []⟩]

/-- Hung and taken off, the lower block stands behind the third one; taken off and hung again, it is
where it was. -/
theorem lower_comes_back_last :
    (∃ after back, (applyAll empty pairEdits).connect ⟨0⟩ ⟨1⟩ = .ok after ∧
      after.disconnect ⟨1⟩ = .ok back ∧ (applyAll empty pairEdits).tops = [⟨0⟩, ⟨1⟩, ⟨2⟩] ∧
      back.tops = [⟨0⟩, ⟨2⟩, ⟨1⟩]) ∧
    ∃ mid, (applyAll empty (pairEdits ++ [.connect ⟨0⟩ ⟨1⟩])).disconnect ⟨0⟩ = .ok mid ∧
      mid.connect ⟨0⟩ ⟨1⟩ = .ok (applyAll empty (pairEdits ++ [.connect ⟨0⟩ ⟨1⟩])) := by
  constructor
  · obtain ⟨b, back, hb, -, -, hback, rfl⟩ :=
      (Reachable.connect_disconnect_undo ⟨pairEdits, rfl⟩ ⟨0⟩ ⟨1⟩).2 _ rfl
    obtain rfl : ⟨1⟩ = b := Option.some.inj hb
    exact ⟨_, _, rfl, hback, rfl, rfl⟩
  · obtain ⟨mid, hmid, -, hagain⟩ :=
      (Reachable.connect_disconnect_undo ⟨pairEdits ++ [.connect ⟨0⟩ ⟨1⟩], rfl⟩ ⟨0⟩ ⟨1⟩).1 rfl
        (Or.inl ⟨rfl, rfl⟩)
    exact ⟨mid, hmid, hagain⟩

end BlockCursor.Workspace
