import BlockCursor.Proofs.Workspace.Trees

/-!
# When blocks can be connected

`connect` asks five questions, and the last one looks only at the root of the upper block.  In a
forest that is enough: a lower block that hangs from nothing is above another block just if it is
its root.  So a link is made whenever it leaves a forest, and refused only when it would not.

* `joins_iff_roleFits` — which connections fit, told by kinds and by roles.
* `rises_iff_root` — being below a block that hangs from nothing is having it as the root.
* `Workspace.HungBy` — one link more, one top less, and nothing else.
* **`Reachable.connect_succeeds_iff`** — when a link is made, and what it changes.
-/

namespace BlockCursor.Workspace

variable {ws ws' : Workspace} {a b : BlockId} {c p : ConnectionId} {r s : Role}

/-- Which connections fit is said by their roles. -/
lemma Owned.joins_iff_roleFits (h : ws.Owned) (hp : ws.place? p = some (a, r))
    (hc : ws.place? c = some (b, s)) : ws.Joins p c ↔ ws.roleFits r s = true := by
  refine ⟨fun hjoins => ?_, h.joins hp hc⟩
  have hprevious : ws.kind? c = some .previous → s = .previous := by
    intro hk
    rw [kind?_eq, hc] at hk
    cases s with
    | previous => rfl
    | next | output | socket => cases hk
  have hsocket : ∀ i, ws.socket? i = some p → r = .socket i := by
    intro i hi
    obtain ⟨_, -, hplace⟩ := h.place_of_socket hi
    rw [hp] at hplace
    cases hplace
    rfl
  rw [roleFits_iff]
  rcases hjoins with ⟨hnext, hprev⟩ | ⟨i, hi, hkind, hprev⟩ | ⟨i, hi, hkind, hout⟩
  · rw [kind?_eq, hp] at hnext
    have hr : r = .next := by
      cases r with
      | next => rfl
      | previous | output | socket => cases hnext
    exact Or.inl ⟨hr, hprevious hprev⟩
  · exact Or.inr (Or.inl ⟨i, hsocket i hi, hprevious hprev, hkind⟩)
  · rw [kind?_eq, hc] at hout
    have hs : s = .output := by
      cases s with
      | output => rfl
      | next | previous | socket => cases hout
    exact Or.inr (Or.inr ⟨i, hsocket i hi, hs, hkind⟩)

/-- **One comparison finds every circle**: a block that hangs from nothing is above a live block,
however far, just if it is its root. -/
lemma Forest.rises_iff_root (h : ws.Forest) (ha : ws.hasBlock a = true)
    (hb : ws.parent? b = none) : Rises ws.parent? a b ↔ ws.root? a = some b := by
  rw [h.root_iff]
  exact ⟨fun hab => ⟨ha, hab, hb⟩, fun hroot => hroot.2.1⟩

/-! ## What a link changes -/

/-- The workspace `after` is `ws` with the block `b` hung from `p` by its connection `c`: the two
connections lead to each other, `b` is no top any more, and all else is as it was. -/
structure HungBy (ws : Workspace) (p c : ConnectionId) (b : BlockId) (after : Workspace) :
    Prop where
  upper : after.target? p = some c
  lower : after.target? c = some p
  /-- No connection changes its block or its role. -/
  place : ∀ d, after.place? d = ws.place? d
  others : ∀ d, d ≠ p → d ≠ c → after.connection? d = ws.connection? d
  /-- No number is given out. -/
  size : after.connections.size = ws.connections.size
  blocks : after.blocks = ws.blocks
  inputs : after.inputs = ws.inputs
  fields : after.fields = ws.fields
  labels : after.labels = ws.labels
  /-- The other tops keep their order. -/
  tops : ∃ before behind, ws.tops = before ++ b :: behind ∧ after.tops = before ++ behind

/-- In a row without repeats, dropping all that equals an entry drops that one entry. -/
lemma filter_ne_eq {before behind : List BlockId} (hnodup : (before ++ b :: behind).Nodup) :
    (before ++ b :: behind).filter (· != b) = before ++ behind := by
  have hkeep : ∀ l : List BlockId, b ∉ l → l.filter (· != b) = l := by
    intro l hl
    refine List.filter_eq_self.mpr fun x hx => ?_
    rw [bne_iff_ne]
    exact ne_of_mem_of_not_mem hx hl
  obtain ⟨hb, -⟩ := List.nodup_cons.mp (List.nodup_middle.mp hnodup)
  rw [List.mem_append, not_or] at hb
  rw [List.filter_append, List.filter_cons_of_neg (by simp), hkeep before hb.1, hkeep behind hb.2]

/-- A link between ends that fit hangs the lower block, if it is a top. -/
lemma Forest.hungBy_link (h : ws.Forest) (hp : ws.place? p = some (a, r))
    (hc : ws.place? c = some (b, s)) (hfit : ws.roleFits r s = true)
    (hb : ws.parent? b = none) : ws.HungBy p c b (ws.link p c b) where
  upper := by rw [target?_link hp hc, if_neg (ne_of_roleFits hp hc hfit), if_pos rfl]
  lower := by rw [target?_link hp hc, if_pos rfl]
  place := (sameObjects_link ws p c b).place
  others d hdp hdc := connection?_link hdp hdc b
  size := by simp [link, setTarget]
  blocks := rfl
  inputs := rfl
  fields := rfl
  labels := rfl
  tops := by
    have htop : b ∈ ws.tops := (h.mem_tops_iff b).mpr ⟨h.hasBlock_of_place hc, hb⟩
    obtain ⟨before, behind, htops⟩ := List.append_of_mem htop
    refine ⟨before, behind, htops, ?_⟩
    show ws.tops.filter (· != b) = before ++ behind
    have hnodup := h.tops_nodup
    rw [htops] at hnodup ⊢
    exact filter_ne_eq hnodup

/-- **Connecting makes every link that leaves a forest, and no other.**  It succeeds just if both
connections are live and fit, the upper one is free, the lower block hangs from nothing, and the
upper block is neither the lower block nor anywhere below it.  Then the one link is made, the lower
block is no top any more, and all else is as it was. -/
theorem Reachable.connect_succeeds_iff (h : ws.Reachable) (p c : ConnectionId) :
    ((∃ after, ws.connect p c = .ok after) ↔
      ws.hasConnection p = true ∧ ws.hasConnection c = true ∧ ws.Joins p c ∧
        ws.target? p = none ∧ ∃ a b, ws.owner? p = some a ∧ ws.owner? c = some b ∧
          ws.parent? b = none ∧ ¬ Rises ws.parent? a b) ∧
    ∀ after, ws.connect p c = .ok after →
      ∃ b, ws.owner? c = some b ∧ ws.HungBy p c b after := by
  have hforest := h.forest
  refine ⟨⟨?_, ?_⟩, ?_⟩
  · rintro ⟨after, hok⟩
    obtain ⟨a, r, b, s, hp, hc, hfit, hfree, hb, hroot, -⟩ := connect_eq_ok_iff.mp hok
    refine ⟨hasConnection_of_place hp, hasConnection_of_place hc,
      (hforest.joins_iff_roleFits hp hc).mpr hfit, hfree, a, b, owner?_of_place hp,
      owner?_of_place hc, hb, ?_⟩
    rwa [hforest.rises_iff_root (hforest.hasBlock_of_place hp) hb]
  · rintro ⟨-, -, hjoins, hfree, a, b, ha, hb, hnone, hnot⟩
    obtain ⟨r, hp⟩ := exists_place_of_owner ha
    obtain ⟨s, hc⟩ := exists_place_of_owner hb
    rw [hforest.rises_iff_root (hforest.hasBlock_of_place hp) hnone] at hnot
    exact ⟨_, connect_eq_ok_iff.mpr
      ⟨a, r, b, s, hp, hc, (hforest.joins_iff_roleFits hp hc).mp hjoins, hfree, hnone, hnot, rfl⟩⟩
  · intro after hok
    obtain ⟨a, r, b, s, hp, hc, hfit, -, hb, -, rfl⟩ := connect_eq_ok_iff.mp hok
    exact ⟨b, owner?_of_place hc, hforest.hungBy_link hp hc hfit hb⟩

/-- A chain of two blocks, and a loose third one. -/
def chainBesideLoose : Workspace :=
  applyAll empty [.insert ⟨"upper", true, true, false, []⟩,
    .insert ⟨"lower", true, true, false, []⟩,
    .insert ⟨"loose", true, false, false, []⟩, .connect ⟨1⟩ ⟨2⟩]

/-- Hanging the chain from its own end is refused; hanging the loose block there is not. -/
theorem chain_closes_no_circle :
    (¬ ∃ after, chainBesideLoose.connect ⟨3⟩ ⟨0⟩ = .ok after) ∧
      ∃ after, chainBesideLoose.connect ⟨3⟩ ⟨4⟩ = .ok after ∧
        chainBesideLoose.HungBy ⟨3⟩ ⟨4⟩ ⟨2⟩ after := by
  have hreach : chainBesideLoose.Reachable := ⟨_, rfl⟩
  constructor
  · intro hok
    obtain ⟨-, -, -, -, a, b, ha, hb, -, hnot⟩ :=
      (Reachable.connect_succeeds_iff hreach _ _).1.mp hok
    obtain rfl : ⟨1⟩ = a := Option.some.inj ha
    obtain rfl : ⟨0⟩ = b := Option.some.inj hb
    exact hnot (.single rfl)
  · obtain ⟨b, hb, hhung⟩ := (Reachable.connect_succeeds_iff hreach ⟨3⟩ ⟨4⟩).2 _ rfl
    obtain rfl : ⟨2⟩ = b := Option.some.inj hb
    exact ⟨_, rfl, hhung⟩

end BlockCursor.Workspace
