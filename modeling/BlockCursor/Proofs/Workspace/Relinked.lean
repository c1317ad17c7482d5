import BlockCursor.Proofs.Workspace.Forest

/-!
# Linking and unlinking

What `connect` and `disconnect` do to a forest.  Both write two ends of one link and the list of
tops, so everything follows from what they do to `target?`: a link makes its lower block hang from
its upper end, and unlinking makes it hang from nothing; no other block is hung elsewhere.

* `connect_eq_ok_iff`, `disconnect_eq_ok_iff` — when the edits succeed, and with what.
* `setEnds` — both ends of a link written at once.
* `target?_link`, `target?_unlink`, `Linked.holder_link`, `Linked.holder_unlink` — the effects.
* `OnlyRelinked` — nothing but links and tops is written; such workspaces are the same when their
  links and tops are (`OnlyRelinked.eq`).
* **`Forest.connect`**, **`Forest.disconnect`** — both keep a forest a forest, and so does
  labelling (`Forest.setLabel`).
-/

namespace BlockCursor.Workspace

variable {ws ws' : Workspace} {a b : BlockId} {c d p x : ConnectionId} {r s : Role}

/-! ## Setting one end -/

lemma connection?_setTarget (ws : Workspace) (c d : ConnectionId) (t : Option ConnectionId) :
    (ws.setTarget c t).connection? d =
      if c = d then (ws.connection? d).map fun x => { x with target := t }
      else ws.connection? d := by
  have hiff : c.index = d.index ↔ c = d := by
    cases c; cases d; simp
  simp only [setTarget, connection?, Arena.get?_modify, hiff]

lemma sameObjects_setTarget (ws : Workspace) (c : ConnectionId) (t : Option ConnectionId) :
    ws.SameObjects (ws.setTarget c t) where
  block _ := rfl
  input _ := rfl
  field _ := rfl
  place d := by
    rw [place?, place?, connection?_setTarget]
    split
    · simp [Function.comp_def]
    · rfl

lemma target?_setTarget (hc : ws.place? c = some (b, r)) (t : Option ConnectionId) :
    (ws.setTarget c t).target? d = if d = c then t else ws.target? d := by
  rw [target?, connection?_setTarget]
  by_cases hdc : d = c
  · subst hdc
    obtain ⟨y, hy, -⟩ := Option.map_eq_some_iff.mp hc
    simp [hy]
  · rw [if_neg (Ne.symm hdc), if_neg hdc, target?]

/-! ## Setting both ends -/

/-- The workspace with the targets of two connections and the tops written anew, which is all that
linking and unlinking do. -/
def setEnds (ws : Workspace) (c d : ConnectionId) (t u : Option ConnectionId)
    (tops : List BlockId) : Workspace :=
  { (ws.setTarget c t).setTarget d u with tops }

section Ends

variable (ws : Workspace) (c d : ConnectionId) (t u : Option ConnectionId) (tops : List BlockId)

lemma sameObjects_setEnds : ws.SameObjects (ws.setEnds c d t u tops) := by
  have hboth := (sameObjects_setTarget ws c t).trans
    (sameObjects_setTarget (ws.setTarget c t) d u)
  exact ⟨hboth.block, hboth.input, hboth.field, hboth.place⟩

variable {ws c d}

/-- Two ends have the targets that were written, and all others keep theirs. -/
lemma target?_setEnds (hc : ws.place? c = some (a, r)) (hd : ws.place? d = some (b, s)) :
    (ws.setEnds c d t u tops).target? x =
      if x = d then u else if x = c then t else ws.target? x := by
  have hd' : (ws.setTarget c t).place? d = some (b, s) := by
    rw [(sameObjects_setTarget ws c t).place, hd]
  show ((ws.setTarget c t).setTarget d u).target? x = _
  rw [target?_setTarget hd', target?_setTarget hc]

lemma connection?_setEnds (hc : x ≠ c) (hd : x ≠ d) :
    (ws.setEnds c d t u tops).connection? x = ws.connection? x := by
  show ((ws.setTarget c t).setTarget d u).connection? x = _
  rw [connection?_setTarget, if_neg (Ne.symm hd), connection?_setTarget, if_neg (Ne.symm hc)]

end Ends

/-! ## The effect of an edit -/

/-- The workspace with the link between two connections broken, and `b` as its last top. -/
def unlink (ws : Workspace) (c d : ConnectionId) (b : BlockId) : Workspace :=
  { (ws.setTarget c none).setTarget d none with tops := ws.tops ++ [b] }

lemma sameObjects_setLabel (ws : Workspace) (label : String) (b : BlockId) :
    ws.SameObjects { ws with labels := ws.labels ++ [(label, b)] } where
  block _ := rfl
  input _ := rfl
  field _ := rfl
  place _ := rfl

/-- A connection is its place and its target. -/
lemma connection?_ext (hplace : ws'.place? c = ws.place? c)
    (htarget : ws'.target? c = ws.target? c) :
    ws'.connection? c = ws.connection? c := by
  rw [place?, place?] at hplace
  rw [target?, target?] at htarget
  cases hx : ws.connection? c with
  | none => simpa [hx] using hplace
  | some x =>
      rw [hx] at hplace htarget
      obtain ⟨y, hy, hyx⟩ := Option.map_eq_some_iff.mp hplace
      rw [hy] at htarget ⊢
      cases x
      cases y
      simp_all

/-- The second workspace differs from the first one in links and tops alone. -/
structure OnlyRelinked (ws ws' : Workspace) : Prop where
  blocks : ws'.blocks = ws.blocks
  inputs : ws'.inputs = ws.inputs
  fields : ws'.fields = ws.fields
  labels : ws'.labels = ws.labels
  size : ws'.connections.size = ws.connections.size
  place : ∀ c, ws'.place? c = ws.place? c

namespace OnlyRelinked

lemma symm (h : ws.OnlyRelinked ws') : ws'.OnlyRelinked ws :=
  ⟨h.blocks.symm, h.inputs.symm, h.fields.symm, h.labels.symm, h.size.symm,
    fun c => (h.place c).symm⟩

lemma trans {ws'' : Workspace} (h : ws.OnlyRelinked ws') (h' : ws'.OnlyRelinked ws'') :
    ws.OnlyRelinked ws'' :=
  ⟨h'.blocks.trans h.blocks, h'.inputs.trans h.inputs, h'.fields.trans h.fields,
    h'.labels.trans h.labels, h'.size.trans h.size, fun c => (h'.place c).trans (h.place c)⟩

/-- If the links and the tops are the same too, nothing differs. -/
lemma eq (h : ws.OnlyRelinked ws') (htarget : ∀ c, ws'.target? c = ws.target? c)
    (htops : ws'.tops = ws.tops) : ws' = ws := by
  have hconnections : ws'.connections = ws.connections :=
    Arena.ext_get? h.size fun n => connection?_ext (h.place ⟨n⟩) (htarget ⟨n⟩)
  obtain ⟨hblocks, hinputs, hfields, hlabels, -, -⟩ := h
  cases ws
  cases ws'
  simp_all

end OnlyRelinked

lemma onlyRelinked_setEnds (ws : Workspace) (c d : ConnectionId) (t u : Option ConnectionId)
    (tops : List BlockId) : ws.OnlyRelinked (ws.setEnds c d t u tops) :=
  ⟨rfl, rfl, rfl, rfl, by simp [setEnds, setTarget], (sameObjects_setEnds ws c d t u tops).place⟩

lemma sameObjects_link (ws : Workspace) (p c : ConnectionId) (b : BlockId) :
    ws.SameObjects (ws.link p c b) :=
  sameObjects_setEnds ws p c (some c) (some p) _

lemma onlyRelinked_link (ws : Workspace) (p c : ConnectionId) (b : BlockId) :
    ws.OnlyRelinked (ws.link p c b) :=
  onlyRelinked_setEnds ws p c (some c) (some p) _

lemma target?_link (hp : ws.place? p = some (a, r)) (hc : ws.place? c = some (b, s))
    (e : BlockId) : (ws.link p c e).target? x =
      if x = c then some p else if x = p then some c else ws.target? x :=
  target?_setEnds (some c) (some p) _ hp hc

lemma connection?_link (hp : x ≠ p) (hc : x ≠ c) (e : BlockId) :
    (ws.link p c e).connection? x = ws.connection? x :=
  connection?_setEnds (some c) (some p) _ hp hc

lemma sameObjects_unlink (ws : Workspace) (c d : ConnectionId) (b : BlockId) :
    ws.SameObjects (ws.unlink c d b) :=
  sameObjects_setEnds ws c d none none _

lemma onlyRelinked_unlink (ws : Workspace) (c d : ConnectionId) (b : BlockId) :
    ws.OnlyRelinked (ws.unlink c d b) :=
  onlyRelinked_setEnds ws c d none none _

lemma target?_unlink (hc : ws.place? c = some (a, r)) (hd : ws.place? d = some (b, s))
    (e : BlockId) : (ws.unlink c d e).target? x =
      if x = d then none else if x = c then none else ws.target? x :=
  target?_setEnds none none _ hc hd

lemma connection?_unlink (hc : x ≠ c) (hd : x ≠ d) (e : BlockId) :
    (ws.unlink c d e).connection? x = ws.connection? x :=
  connection?_setEnds none none _ hc hd

/-! ## When an edit succeeds -/

lemma lowerEnd_of_isUpper (hr : r.isUpper = true) : lowerEnd c r d = d := by
  cases r <;> first | rfl | cases hr

lemma lowerEnd_of_not_isUpper (hr : r.isUpper = false) : lowerEnd c r d = c := by
  cases r <;> first | rfl | cases hr

/-- **When two connections are linked**: both are live, their roles fit, the upper one is free, the
lower block hangs from nothing, and it is not the root of the upper block. -/
theorem connect_eq_ok_iff : ws.connect p c = .ok ws' ↔
    ∃ a r b s, ws.place? p = some (a, r) ∧ ws.place? c = some (b, s) ∧ ws.roleFits r s = true ∧
      ws.target? p = none ∧ ws.parent? b = none ∧ ws.root? a ≠ some b ∧ ws' = ws.link p c b := by
  rw [connect]
  cases hp : ws.connection? p with
  | none => simp [place?, hp]
  | some x =>
      cases hc : ws.connection? c with
      | none => simp [place?, hc]
      | some y =>
          simp only [place?, hp, hc, target?, fits_eq, Option.map_some, Option.some.injEq,
            Prod.mk.injEq, Option.bind_some]
          constructor
          · intro hok
            split at hok
            · cases hok
            split at hok
            · cases hok
            split at hok
            · cases hok
            split at hok
            · cases hok
            · cases hok
              simp_all
          · rintro ⟨a, r, b, s, ⟨rfl, rfl⟩, ⟨rfl, rfl⟩, hfit, hfree, htop, hroot, rfl⟩
            simp [hfit, hfree, htop, hroot]

/-- What labelling does when it succeeds. -/
lemma setLabel_eq_ok {label : String} (hok : ws.setLabel b label = .ok ws') :
    ws.hasBlock b = true ∧ ws' = { ws with labels := ws.labels ++ [(label, b)] } := by
  rw [Workspace.setLabel] at hok
  split_ifs at hok with hb
  split at hok
  · cases hok
  · cases hok
    exact ⟨by simpa using hb, rfl⟩

/-- Clearing two ends is the same in either order. -/
lemma unlink_comm (ws : Workspace) (c d : ConnectionId) (b : BlockId) :
    ws.unlink c d b = ws.unlink d c b := by
  have hswap : ∀ (i j : ℕ) (g : Connection → Connection),
      (ws.connections.modify i g).modify j g = (ws.connections.modify j g).modify i g := by
    intro i j g
    refine Arena.ext_get? (by simp) fun k => ?_
    simp only [Arena.get?_modify]
    split_ifs <;> rfl
  simp only [unlink, setTarget, hswap]

/-- **When a link is broken**: the connection is one of its ends, and the block of the lower end is
the new top. -/
theorem disconnect_eq_ok_iff (h : ws.Linked) : ws.disconnect c = .ok ws' ↔
    ∃ p d a r b s, ws.place? p = some (a, r) ∧ ws.place? d = some (b, s) ∧
      ws.roleFits r s = true ∧ ws.target? p = some d ∧ (c = p ∨ c = d) ∧
      ws' = ws.unlink p d b := by
  have hlow : ∀ x d b, ws.connection? c = some x → x.target = some d →
      ws.owner? (lowerEnd c x.role d) = some b → ws.disconnect c = .ok (ws.unlink c d b) := by
    intro x d b hc hd hb
    simp only [disconnect, hc, hd, hb]
    rfl
  constructor
  · intro hok
    rw [disconnect] at hok
    cases hc : ws.connection? c with
    | none =>
        rw [hc] at hok
        cases hok
    | some x =>
        cases hd : x.target with
        | none => simp [hc, hd] at hok
        | some d =>
            have hcd : ws.target? c = some d := by simp [target?, hc, hd]
            have hplace : ws.place? c = some (x.block, x.role) := by simp [place?, hc]
            obtain ⟨e, q, hd'⟩ := exists_place_of_target (h.symm c d hcd)
            simp only [hc, hd] at hok
            rcases h.fit c d _ _ _ _ hcd hplace hd' with hfit | hfit
            · rw [lowerEnd_of_isUpper (isUpper_of_roleFits hfit).1, owner?_of_place hd'] at hok
              cases hok
              exact ⟨c, d, _, _, e, q, hplace, hd', hfit, hcd, Or.inl rfl, rfl⟩
            · rw [lowerEnd_of_not_isUpper (isUpper_of_roleFits hfit).2,
                owner?_of_place hplace] at hok
              cases hok
              exact ⟨d, c, e, q, _, _, hd', hplace, hfit, h.symm c d hcd, Or.inr rfl,
                unlink_comm ws c d _⟩
  · rintro ⟨p, d, a, r, b, s, hp, hd, hfit, hpd, hends, rfl⟩
    rcases hends with rfl | rfl
    · obtain ⟨x, hx, hxt⟩ := Option.bind_eq_some_iff.mp hpd
      have hrole : x.role = r := by simpa [place?, hx] using congrArg (·.map Prod.snd) hp
      refine hlow x d b hx hxt ?_
      rw [lowerEnd_of_isUpper (hrole ▸ (isUpper_of_roleFits hfit).1), owner?_of_place hd]
    · obtain ⟨x, hx, hxt⟩ := Option.bind_eq_some_iff.mp (h.symm p c hpd)
      have hrole : x.role = s := by simpa [place?, hx] using congrArg (·.map Prod.snd) hd
      rw [unlink_comm]
      refine hlow x p b hx hxt ?_
      rw [lowerEnd_of_not_isUpper (hrole ▸ (isUpper_of_roleFits hfit).2), owner?_of_place hd]

/-! ## Links after an edit -/

lemma ne_of_roleFits (hp : ws.place? p = some (a, r)) (hc : ws.place? c = some (b, s))
    (hfit : ws.roleFits r s = true) : p ≠ c := by
  rintro rfl
  rw [hp] at hc
  cases hc
  obtain ⟨htrue, hfalse⟩ := isUpper_of_roleFits hfit
  rw [htrue] at hfalse
  cases hfalse

/-- The lower ends of a block that hangs from nothing are free. -/
lemma Linked.target_of_holder_eq_none (h : ws.Linked) (hc : ws.place? c = some (b, s))
    (hs : s.isUpper = false) (hb : ws.holder? b = none) : ws.target? c = none := by
  by_contra hne
  obtain ⟨q, hq⟩ := Option.ne_none_iff_exists'.mp hne
  rw [h.holder_of_lower hc hs hq] at hb
  cases hb

/-- **Linking two free ends that fit keeps the links in order.** -/
theorem Linked.link (h : ws.Linked) (hp : ws.place? p = some (a, r))
    (hc : ws.place? c = some (b, s)) (hfit : ws.roleFits r s = true)
    (hfree : ws.target? p = none) (hb : ws.holder? b = none) (e : BlockId) :
    (ws.link p c e).Linked := by
  have hsame := sameObjects_link ws p c e
  have hne := ne_of_roleFits hp hc hfit
  have hcfree := h.target_of_holder_eq_none hc (isUpper_of_roleFits hfit).2 hb
  refine ⟨h.toOwned.congr hsame, ?symm, ?fit, ?one_up⟩
  case symm =>
    intro x y hxy
    rw [target?_link hp hc] at hxy ⊢
    split_ifs at hxy with hxc hxp
    · cases hxy
      rw [if_neg hne, if_pos rfl, hxc]
    · cases hxy
      rw [if_pos rfl, hxp]
    · have hyx := h.symm x y hxy
      have hyc : y ≠ c := by
        rintro rfl
        rw [hcfree] at hyx
        cases hyx
      have hyp : y ≠ p := by
        rintro rfl
        rw [hfree] at hyx
        cases hyx
      rw [if_neg hyc, if_neg hyp, hyx]
  case fit =>
    intro x y u v q t hxy hx hy
    rw [hsame.place] at hx hy
    rw [target?_link hp hc] at hxy
    rw [hsame.roleFits]
    split_ifs at hxy with hxc hxp
    · cases hxy
      subst hxc
      rw [hc] at hx
      rw [hp] at hy
      cases hx
      cases hy
      exact Or.inr hfit
    · cases hxy
      subst hxp
      rw [hp] at hx
      rw [hc] at hy
      cases hx
      cases hy
      exact Or.inl hfit
    · exact h.fit x y u v q t hxy hx hy
  case one_up =>
    -- a lower end that is linked now is `c`, or was linked before and then is no end of `b`
    have hold : ∀ x u q, ws.place? x = some (u, q) → q.isUpper = false →
        (ws.link p c e).target? x ≠ none → x = c ∨ u ≠ b ∧ ws.target? x ≠ none := by
      intro x u q hx hq hlinked
      by_cases hxc : x = c
      · exact Or.inl hxc
      · have hxp : x ≠ p := by
          rintro rfl
          rw [hp] at hx
          cases hx
          rw [(isUpper_of_roleFits hfit).1] at hq
          cases hq
        rw [target?_link hp hc, if_neg hxc, if_neg hxp] at hlinked
        refine Or.inr ⟨?_, hlinked⟩
        rintro rfl
        exact hlinked (h.target_of_holder_eq_none hx hq hb)
    intro u x y q t hx hy hq ht hxl hyl
    rw [hsame.place] at hx hy
    rcases hold x u q hx hq hxl with rfl | ⟨hub, hxo⟩
    · rw [hc] at hx
      cases hx
      rcases hold y _ t hy ht hyl with rfl | ⟨hub, -⟩
      · rfl
      · exact absurd rfl hub
    · rcases hold y _ t hy ht hyl with rfl | ⟨-, hyo⟩
      · rw [hc] at hy
        cases hy
        exact absurd rfl hub
      · exact h.one_up _ x y q t hx hy hq ht hxo hyo

/-- **Breaking a link keeps the links in order.** -/
theorem Linked.unlink (h : ws.Linked) (hc : ws.place? c = some (a, r))
    (hd : ws.place? d = some (b, s)) (hcd : ws.target? c = some d) (e : BlockId) :
    (ws.unlink c d e).Linked := by
  have hsame := sameObjects_unlink ws c d e
  have hdc := h.symm c d hcd
  -- what is linked now was linked before
  have hold : ∀ x y, (ws.unlink c d e).target? x = some y →
      x ≠ d ∧ x ≠ c ∧ ws.target? x = some y := by
    intro x y hxy
    rw [target?_unlink hc hd] at hxy
    split_ifs at hxy with hxd hxc
    exact ⟨hxd, hxc, hxy⟩
  refine ⟨h.toOwned.congr hsame, ?symm, ?fit, ?one_up⟩
  case symm =>
    intro x y hxy
    obtain ⟨hxd, hxc, hxy⟩ := hold x y hxy
    have hyx := h.symm x y hxy
    have hyd : y ≠ d := by
      rintro rfl
      exact hxc (Option.some.inj (hyx.symm.trans hdc))
    have hyc : y ≠ c := by
      rintro rfl
      exact hxd (Option.some.inj (hyx.symm.trans hcd))
    rw [target?_unlink hc hd, if_neg hyd, if_neg hyc, hyx]
  case fit =>
    intro x y u v q t hxy hx hy
    rw [hsame.place] at hx hy
    rw [hsame.roleFits]
    exact h.fit x y u v q t (hold x y hxy).2.2 hx hy
  case one_up =>
    have hne : ∀ x, (ws.unlink c d e).target? x ≠ none → ws.target? x ≠ none := by
      intro x hx
      obtain ⟨y, hy⟩ := Option.ne_none_iff_exists'.mp hx
      simp [(hold x y hy).2.2]
    intro u x y q t hx hy hq ht hxl hyl
    rw [hsame.place] at hx hy
    exact h.one_up u x y q t hx hy hq ht (hne x hxl) (hne y hyl)

/-! ## Holders after an edit -/

/-- A block keeps its holder if the targets of its lower ends stay. -/
lemma Linked.holder_congr (h : ws.Linked) (hsame : ws.SameObjects ws')
    (hends : ∀ c s, ws.place? c = some (b, s) → s.isUpper = false → ws'.target? c = ws.target? c) :
    ws'.holder? b = ws.holder? b := by
  have hprev : (ws.previous? b).bind ws'.target? = (ws.previous? b).bind ws.target? := by
    cases hc : ws.previous? b with
    | none => rfl
    | some c => exact hends c .previous (h.place_of_previous hc) rfl
  have hout : (ws.output? b).bind ws'.target? = (ws.output? b).bind ws.target? := by
    cases hc : ws.output? b with
    | none => rfl
    | some c => exact hends c .output (h.place_of_output hc) rfl
  rw [holder?, holder?, hsame.previous, hsame.output, hprev, hout]

section Ends

variable (hp : ws.place? p = some (a, r)) (hc : ws.place? c = some (b, s))
  (hfit : ws.roleFits r s = true)
include hp hc hfit

/-- No lower end of another block is an end of a link that has its lower end at `b`. -/
lemma ne_of_lower {u : BlockId} {q : Role} (hu : u ≠ b) (hx : ws.place? x = some (u, q))
    (hq : q.isUpper = false) : x ≠ p ∧ x ≠ c := by
  constructor
  · rintro rfl
    rw [hp] at hx
    cases hx
    rw [(isUpper_of_roleFits hfit).1] at hq
    cases hq
  · rintro rfl
    rw [hc] at hx
    cases hx
    exact hu rfl

variable (h : ws.Linked)
include h

/-- **A link hangs its lower block from its upper end**, and no other block elsewhere. -/
theorem Linked.holder_link (hfree : ws.target? p = none) (hb : ws.holder? b = none)
    (e u : BlockId) :
    (ws.link p c e).holder? u = if u = b then some p else ws.holder? u := by
  have hsame := sameObjects_link ws p c e
  split
  case isTrue hu =>
    subst hu
    have hlinked := h.link hp hc hfit hfree hb e
    refine hlinked.holder_of_lower (hsame.place c ▸ hc) (isUpper_of_roleFits hfit).2 ?_
    rw [target?_link hp hc, if_pos rfl]
  case isFalse hu =>
    refine h.holder_congr hsame fun x q hx hq => ?_
    obtain ⟨hxp, hxc⟩ := ne_of_lower hp hc hfit hu hx hq
    rw [target?_link hp hc, if_neg hxc, if_neg hxp]

/-- **Breaking a link takes its lower block off**, and no other block. -/
theorem Linked.holder_unlink (hpc : ws.target? p = some c) (e u : BlockId) :
    (ws.unlink p c e).holder? u = if u = b then none else ws.holder? u := by
  have hsame := sameObjects_unlink ws p c e
  split
  case isTrue hu =>
    subst hu
    have hlinked := h.unlink hp hc hpc e
    by_contra hne
    obtain ⟨q, hq⟩ := Option.ne_none_iff_exists'.mp hne
    obtain ⟨v, w, x, t, hqv, hx, hfit', -, hxq⟩ := hlinked.of_holder hq
    rw [hsame.place] at hx
    rw [target?_unlink hp hc] at hxq
    split_ifs at hxq with hxc hxp
    -- a lower end of `u` that is still linked would be a second one beside `c`
    refine hxc (h.one_up u x c t s hx hc (isUpper_of_roleFits hfit').2
      (isUpper_of_roleFits hfit).2 ?_ ?_)
    · simp [hxq]
    · simp [h.symm p c hpc]
  case isFalse hu =>
    refine h.holder_congr hsame fun x q hx hq => ?_
    obtain ⟨hxp, hxc⟩ := ne_of_lower hp hc hfit hu hx hq
    rw [target?_unlink hp hc, if_neg hxc, if_neg hxp]

/-- The parent of the lower block of a new link is the upper block; other parents stay. -/
lemma Linked.parent_link (hfree : ws.target? p = none) (hb : ws.holder? b = none) (e u : BlockId) :
    (ws.link p c e).parent? u = if u = b then some a else ws.parent? u := by
  have hsame := sameObjects_link ws p c e
  rw [(h.link hp hc hfit hfree hb e).parent_eq, h.parent_eq, h.holder_link hp hc hfit hfree hb,
    funext hsame.owner]
  split
  · rw [Option.bind_some, owner?_of_place hp]
  · rfl

/-- The lower block of a broken link has no parent; other parents stay. -/
lemma Linked.parent_unlink (hpc : ws.target? p = some c) (e u : BlockId) :
    (ws.unlink p c e).parent? u = if u = b then none else ws.parent? u := by
  have hsame := sameObjects_unlink ws p c e
  rw [(h.unlink hp hc hpc e).parent_eq, h.parent_eq, h.holder_unlink hp hc hfit hpc,
    funext hsame.owner]
  split <;> rfl

end Ends

/-! ## Forests after an edit -/

/-- **Connecting keeps a forest.** That the lower block is not the root of the upper one is enough:
it hangs from nothing, so it could be above the upper block only as its root. -/
theorem Forest.connect (h : ws.Forest) (hok : ws.connect p c = .ok ws') : ws'.Forest := by
  obtain ⟨a, r, b, s, hp, hc, hfit, hfree, htop, hroot, rfl⟩ := connect_eq_ok_iff.mp hok
  have hb := h.parent_eq_none_iff.mp htop
  have hsame := sameObjects_link ws p c b
  have hparent : ∀ u, (ws.link p c b).parent? u = if u = b then some a else ws.parent? u :=
    h.parent_link hp hc hfit hfree hb b
  have hnot : ¬ Rises ws.parent? a b :=
    fun hab => hroot (h.root_iff.mpr ⟨h.hasBlock_of_place hp, hab, htop⟩)
  refine ⟨h.link hp hc hfit hfree hb b, ?_, h.tops_nodup.filter _, ?_⟩
  · refine h.grounded.attach (b := b) (a := a) ?_ ?_ hnot
    · rw [hparent, if_pos rfl]
    · intro u hu
      rw [hparent, if_neg hu]
  · intro u
    show u ∈ ws.tops.filter (· != b) ↔ _
    rw [List.mem_filter, h.mem_tops_iff, hsame.hasBlock, hparent]
    by_cases hu : u = b <;> simp [hu]

/-- **Disconnecting keeps a forest.** -/
theorem Forest.disconnect (h : ws.Forest) (hok : ws.disconnect c = .ok ws') : ws'.Forest := by
  obtain ⟨p, d, a, r, b, s, hp, hd, hfit, hpd, -, rfl⟩ := (disconnect_eq_ok_iff h.toLinked).mp hok
  have hsame := sameObjects_unlink ws p d b
  have hparent : ∀ u, (ws.unlink p d b).parent? u = if u = b then none else ws.parent? u :=
    h.parent_unlink hp hd hfit hpd b
  have hba : ws.parent? b = some a :=
    h.parent_iff.mpr ⟨p, h.holder_of_lower hd (isUpper_of_roleFits hfit).2 (h.symm p d hpd),
      owner?_of_place hp⟩
  have hb : b ∉ ws.tops := by
    rw [h.mem_tops_iff, hba]
    simp
  refine ⟨h.unlink hp hd hpd b, ?_, ?_, ?_⟩
  · refine h.grounded.mono fun u v huv => ?_
    rw [hparent] at huv
    split_ifs at huv
    exact huv
  · show (ws.tops ++ [b]).Nodup
    refine List.nodup_append.mpr ⟨h.tops_nodup, List.nodup_singleton b, ?_⟩
    intro u hu v hv huv
    rw [huv, List.mem_singleton.mp hv] at hu
    exact hb hu
  · intro u
    show u ∈ ws.tops ++ [b] ↔ _
    rw [List.mem_append, List.mem_singleton, h.mem_tops_iff, hsame.hasBlock, hparent]
    by_cases hu : u = b
    · simp [hu, h.hasBlock_of_place hd]
    · simp [hu]

/-- **Labelling keeps a forest.** -/
theorem Forest.setLabel (h : ws.Forest) {label : String} (hok : ws.setLabel b label = .ok ws') :
    ws'.Forest := by
  obtain ⟨-, rfl⟩ := setLabel_eq_ok hok
  exact h.congr (sameObjects_setLabel ws label b) (fun _ => rfl) rfl

end BlockCursor.Workspace
