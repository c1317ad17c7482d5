import BlockCursor.Proofs.Workspace.Consistency

/-!
# The order of links

Whether a link can be made depends on the links made before it: they may take the place above, hang
the block below elsewhere, or close a circle.  Yet a row of links that can all be made can be made
in any order, and ends with the same workspace.  It is enough to swap two neighbours.

* `connect_before` — a link that can be made after another one can be made before it: where there
  are fewer links, less stands in the way.
* `Forest.connect_behind` — the other one can still be made then.  If it closed a circle, the circle
  would be there when both are made in the order that is known to work.
* `link_comm` — both orders come to the same.
* `Workspace.connectAll` — a row of links, one after the other.
* **`Reachable.connectAll_perm`** — the order of the row does not matter.
-/

namespace BlockCursor.Workspace

variable {ws mid after : Workspace} {a a' b b' x y : BlockId} {c d p q : ConnectionId}
  {r r' s s' : Role} {links links' : List (ConnectionId × ConnectionId)}

/-! ## Two links -/

/-- Links between four different connections come to the same in either order. -/
lemma link_comm (hp : ws.place? p = some (a, r)) (hc : ws.place? c = some (b, s))
    (hq : ws.place? q = some (a', r')) (hd : ws.place? d = some (b', s'))
    (hpq : p ≠ q) (hpd : p ≠ d) (hcq : c ≠ q) (hcd : c ≠ d) :
    (ws.link p c b).link q d b' = (ws.link q d b').link p c b := by
  have hone := onlyRelinked_link ws p c b
  have htwo := onlyRelinked_link ws q d b'
  refine ((htwo.trans (onlyRelinked_link _ p c b)).symm.trans
    (hone.trans (onlyRelinked_link _ q d b'))).eq (fun x => ?_) ?_
  · rw [target?_link ((hone.place q).trans hq) ((hone.place d).trans hd), target?_link hp hc,
      target?_link ((htwo.place p).trans hp) ((htwo.place c).trans hc), target?_link hq hd]
    by_cases hxc : x = c
    · rw [hxc, if_neg hcd, if_neg hcq, if_pos rfl, if_pos rfl]
    by_cases hxp : x = p
    · rw [if_neg hxc, if_pos hxp, if_neg hxc, if_pos hxp, hxp, if_neg hpd, if_neg hpq]
    · simp only [if_neg hxc, if_neg hxp]
  · exact List.filter_comm _ _ _

/-- A link takes no step up away: its lower block had none. -/
lemma parent_of_link (hlink : ∀ u, mid.parent? u = if u = b then some a else ws.parent? u)
    (hb : ws.parent? b = none) (hxy : ws.parent? x = some y) : mid.parent? x = some y := by
  have hne : x ≠ b := by
    rintro rfl
    rw [hb] at hxy
    cases hxy
  rw [hlink, if_neg hne, hxy]

namespace Forest

variable (h : ws.Forest) (hone : ws.connect p c = .ok mid) (htwo : mid.connect q d = .ok after)
include h hone htwo

/-- **A link that can be made after another one can be made before it.** -/
theorem connect_before : ∃ mid', ws.connect q d = .ok mid' := by
  have hmid := h.connect hone
  obtain ⟨a, r, b, s, hp, hc, hfit, hfree, hb, -, rfl⟩ := connect_eq_ok_iff.mp hone
  obtain ⟨a', r', b', s', hq, hd, hfit', hfree', hb', hroot', -⟩ := connect_eq_ok_iff.mp htwo
  have hup : ∀ {x y}, ws.parent? x = some y → (ws.link p c b).parent? x = some y :=
    parent_of_link (h.parent_link hp hc hfit hfree (h.parent_eq_none_iff.mp hb) b) hb
  rw [(sameObjects_link ws p c b).place] at hq hd
  rw [(sameObjects_link ws p c b).roleFits] at hfit'
  refine ⟨_, connect_eq_ok_iff.mpr ⟨a', r', b', s', hq, hd, hfit', ?free, ?top, ?root, rfl⟩⟩
  case free =>
    rw [target?_link hp hc] at hfree'
    split_ifs at hfree'
    exact hfree'
  case top =>
    by_contra hne
    obtain ⟨y, hy⟩ := Option.ne_none_iff_exists'.mp hne
    rw [hup hy] at hb'
    cases hb'
  case root =>
    intro hroot
    obtain ⟨hlive, hrises, -⟩ := h.root_iff.mp hroot
    have hrises' := Relation.ReflTransGen.mono (fun _ _ => hup) a' b' hrises
    refine hroot' (hmid.root_iff.mpr ⟨?_, hrises', hb'⟩)
    rw [(sameObjects_link ws p c b).hasBlock, hlive]

/-- **The link that was made first can be made behind the other one**, with the same result. -/
theorem connect_behind {mid' : Workspace} (hother : ws.connect q d = .ok mid') :
    mid'.connect p c = .ok after := by
  have hafter := (h.connect hone).connect htwo
  have hmid := (h.connect hone).toLinked
  obtain ⟨a, r, b, s, hp, hc, hfit, hfree, hb, -, rfl⟩ := connect_eq_ok_iff.mp hone
  obtain ⟨a', r', b', s', hqm, hdm, hfitm, hfreem, hbm, -, rfl⟩ := connect_eq_ok_iff.mp htwo
  obtain ⟨_, _, _, _, hq, hd, hfit', hfree', hb', -, rfl⟩ := connect_eq_ok_iff.mp hother
  have hone := sameObjects_link ws p c b
  have htwo := sameObjects_link ws q d b'
  have hq₂ := (hone.place q).symm.trans hqm
  have hd₂ := (hone.place d).symm.trans hdm
  rw [hq] at hq₂
  rw [hd] at hd₂
  cases hq₂
  cases hd₂
  have hparent := h.parent_link hp hc hfit hfree (h.parent_eq_none_iff.mp hb) b
  have hparent' := h.parent_link hq hd hfit' hfree' (h.parent_eq_none_iff.mp hb') b'
  have hboth := hmid.parent_link hqm hdm hfitm hfreem (hmid.parent_eq_none_iff.mp hbm) b'
  -- the four ends are different
  have hbb : b ≠ b' := by
    rintro rfl
    rw [hparent, if_pos rfl] at hbm
    cases hbm
  have hpq : p ≠ q := by
    rintro rfl
    rw [target?_link hp hc, if_neg (ne_of_roleFits hp hc hfit), if_pos rfl] at hfreem
    cases hfreem
  obtain ⟨hdp, hdc⟩ := ne_of_lower hp hc hfit hbb.symm hd (isUpper_of_roleFits hfit').2
  obtain ⟨hcq, -⟩ := ne_of_lower hq hd hfit' hbb hc (isUpper_of_roleFits hfit).2
  refine connect_eq_ok_iff.mpr ⟨a, r, b, s, (htwo.place p).trans hp, (htwo.place c).trans hc, ?fits,
    ?free, ?top, ?root, link_comm hp hc hq hd hpq hdp.symm hcq hdc.symm⟩
  case fits => rw [htwo.roleFits, hfit]
  case free => rw [target?_link hq hd, if_neg hdp.symm, if_neg hpq, hfree]
  case top => rw [hparent', if_neg hbb, hb]
  case root =>
    -- a way up from `a` to `b` would be there after both links, when `b` hangs from `a`
    intro hroot
    have hforest := h.connect hother
    obtain ⟨-, hrises, -⟩ := hforest.root_iff.mp hroot
    have hab : ((ws.link p c b).link q d b').parent? b = some a := by
      rw [hboth, if_neg hbb, hparent, if_pos rfl]
    refine hafter.grounded.not_rises hab (Relation.ReflTransGen.mono (fun x y hxy => ?_) _ _ hrises)
    rw [hparent'] at hxy
    rw [hboth]
    split_ifs at hxy ⊢
    · exact hxy
    · exact parent_of_link hparent hb hxy

end Forest

/-! ## A row of links -/

/-- Makes a row of links, one after the other, each from an upper to a lower connection. -/
def connectAll (ws : Workspace) (links : List (ConnectionId × ConnectionId)) :
    Except EditError Workspace :=
  links.foldlM (fun ws link => ws.connect link.1 link.2) ws

lemma connectAll_cons_eq_ok_iff {link : ConnectionId × ConnectionId} :
    ws.connectAll (link :: links) = .ok after ↔
      ∃ mid, ws.connect link.1 link.2 = .ok mid ∧ mid.connectAll links = .ok after := by
  constructor
  · intro hok
    exact exists_of_bind_eq_ok hok
  · rintro ⟨mid, hmid, hok⟩
    rw [connectAll, List.foldlM_cons, hmid]
    exact hok

/-- **The order of linking does not matter.**  A row of links that can be made one after the other
can be made in every other order of the row, and ends with the same workspace: the same links, the
same tops in the same order, and all else the same. -/
theorem Reachable.connectAll_perm (h : ws.Reachable) (hperm : links.Perm links')
    (hok : ws.connectAll links = .ok after) : ws.connectAll links' = .ok after := by
  have hforest := h.forest
  clear h
  induction hperm generalizing ws with
  | nil => exact hok
  | cons link _ ih =>
      obtain ⟨mid, hmid, hrest⟩ := connectAll_cons_eq_ok_iff.mp hok
      exact connectAll_cons_eq_ok_iff.mpr ⟨mid, hmid, ih hrest (hforest.connect hmid)⟩
  | swap second first links =>
      obtain ⟨one, hone, hrest⟩ := connectAll_cons_eq_ok_iff.mp hok
      obtain ⟨both, htwo, hrest⟩ := connectAll_cons_eq_ok_iff.mp hrest
      obtain ⟨other, hother⟩ := hforest.connect_before hone htwo
      exact connectAll_cons_eq_ok_iff.mpr ⟨other, hother,
        connectAll_cons_eq_ok_iff.mpr ⟨both, hforest.connect_behind hone htwo hother, hrest⟩⟩
  | trans _ _ ih ih' => exact ih' (ih hok hforest) hforest

/-- A hat, a block with a value input, a block that can end a stack, and a value. -/
def looseEdits : List Edit :=
  [.insert ⟨"hat", false, true, false, []⟩,
    .insert ⟨"holder", true, true, false, [⟨"value", .value, []⟩]⟩,
    .insert ⟨"end", true, false, false, []⟩, .insert ⟨"plug", false, false, true, []⟩]

/-- The links that make one stack of them, from the top downward. -/
def stackLinks : List (ConnectionId × ConnectionId) :=
  [(⟨0⟩, ⟨1⟩), (⟨2⟩, ⟨4⟩), (⟨3⟩, ⟨5⟩)]

/-- From the bottom upward they make the same stack. -/
theorem stack_linked_upward : ∃ after,
    (applyAll empty looseEdits).connectAll stackLinks = .ok after ∧
      (applyAll empty looseEdits).connectAll stackLinks.reverse = .ok after ∧
      after.tops = [⟨0⟩] ∧ after.parent? ⟨3⟩ = some ⟨1⟩ :=
  ⟨_, rfl, Reachable.connectAll_perm ⟨looseEdits, rfl⟩ (List.reverse_perm _).symm rfl, rfl, rfl⟩

end BlockCursor.Workspace
