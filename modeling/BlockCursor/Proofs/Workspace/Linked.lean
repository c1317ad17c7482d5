import BlockCursor.Proofs.Workspace.Owned

/-!
# Links

Connections are linked in pairs, an upper end to a lower one.  The upper end is a next connection or
a socket, the lower end a previous or an output connection, and a block has at most one lower end
that is linked; so the block that it hangs from is found at the other end of that one link.

* `Workspace.roleFits` — which roles can be linked, the upper one first.
* `Workspace.Linked` — links go both ways, between roles that fit, and at most one leads up.
* `Workspace.holder?` — the connection that a block hangs from, with **`Linked.holder_iff`**: it is
  the upper end whose link leads to the block.
* `Linked.parent_eq` — the parent of a block is the owner of its holder.
* `Workspace.held?`, `Workspace.follower?` — the other way: what hangs in an input, and what hangs
  from a next connection.
-/

namespace BlockCursor

/-- Whether a connection in this role is the upper end of its link. -/
def Role.isUpper : Role → Bool
  | .next | .socket _ => true
  | .previous | .output => false

namespace Workspace

variable {ws ws' : Workspace} {a b : BlockId} {c d p : ConnectionId} {r s : Role}

/-- Whether two roles can be linked, the upper one first. -/
def roleFits (ws : Workspace) : Role → Role → Bool
  | .next, .previous => true
  | .socket i, .previous => ws.inputKind? i == some .statement
  | .socket i, .output => ws.inputKind? i == some .value
  | _, _ => false

lemma fits_eq (ws : Workspace) (x y : Connection) : ws.fits x y = ws.roleFits x.role y.role := by
  obtain ⟨_, r, _⟩ := x
  obtain ⟨_, s, _⟩ := y
  cases r <;> cases s <;> rfl

/-- Which roles fit: a link goes from next to previous, from a statement socket to previous, or from
a value socket to output. -/
lemma roleFits_iff : ws.roleFits r s = true ↔
    (r = .next ∧ s = .previous) ∨
    (∃ i, r = .socket i ∧ s = .previous ∧ ws.inputKind? i = some .statement) ∨
    (∃ i, r = .socket i ∧ s = .output ∧ ws.inputKind? i = some .value) := by
  cases r <;> cases s <;> simp [roleFits]

lemma isUpper_of_roleFits (h : ws.roleFits r s = true) : r.isUpper = true ∧ s.isUpper = false := by
  rcases roleFits_iff.mp h with ⟨rfl, rfl⟩ | ⟨i, rfl, rfl, -⟩ | ⟨i, rfl, rfl, -⟩ <;>
    exact ⟨rfl, rfl⟩

/-- Links go both ways, between roles that fit, and at most one link of a block leads up from it. -/
structure Linked (ws : Workspace) : Prop extends Owned ws where
  symm : ∀ c d, ws.target? c = some d → ws.target? d = some c
  fit : ∀ c d a b r s, ws.target? c = some d → ws.place? c = some (a, r) →
    ws.place? d = some (b, s) → ws.roleFits r s = true ∨ ws.roleFits s r = true
  one_up : ∀ b c d r s, ws.place? c = some (b, r) → ws.place? d = some (b, s) →
    r.isUpper = false → s.isUpper = false → ws.target? c ≠ none → ws.target? d ≠ none → c = d

/-- The connection that a block hangs from. -/
def holder? (ws : Workspace) (b : BlockId) : Option ConnectionId :=
  ((ws.previous? b).bind ws.target?).or ((ws.output? b).bind ws.target?)

/-- The block that an input holds. -/
def held? (ws : Workspace) (i : InputId) : Option BlockId :=
  (ws.socket? i).bind ws.targetBlock?

/-- The block that hangs from a block's next connection. -/
def follower? (ws : Workspace) (b : BlockId) : Option BlockId :=
  (ws.next? b).bind ws.targetBlock?

/-- A connection that is linked is live. -/
lemma exists_place_of_target (h : ws.target? c = some d) : ∃ b r, ws.place? c = some (b, r) := by
  obtain ⟨x, hx, -⟩ := Option.bind_eq_some_iff.mp h
  exact ⟨x.block, x.role, by simp [place?, hx]⟩

namespace Linked

variable (h : ws.Linked)
include h

/-- The lower end of a link, given its upper end. -/
lemma lower_of_upper (hp : ws.place? p = some (a, r)) (hr : r.isUpper = true)
    (hpc : ws.target? p = some c) :
    ∃ b s, ws.place? c = some (b, s) ∧ ws.roleFits r s = true ∧ ws.target? c = some p := by
  have hcp := h.symm p c hpc
  obtain ⟨b, s, hc⟩ := exists_place_of_target hcp
  refine ⟨b, s, hc, ?_, hcp⟩
  rcases h.fit p c a b r s hpc hp hc with hfit | hfit
  · exact hfit
  · rw [(isUpper_of_roleFits hfit).2] at hr
    cases hr

/-- The upper end of a link, given its lower end. -/
lemma upper_of_lower (hc : ws.place? c = some (b, s)) (hs : s.isUpper = false)
    (hcp : ws.target? c = some p) :
    ∃ a r, ws.place? p = some (a, r) ∧ ws.roleFits r s = true ∧ ws.target? p = some c := by
  have hpc := h.symm c p hcp
  obtain ⟨a, r, hp⟩ := exists_place_of_target hpc
  refine ⟨a, r, hp, ?_, hpc⟩
  rcases h.fit c p b a s r hcp hc hp with hfit | hfit
  · rw [(isUpper_of_roleFits hfit).1] at hs
    cases hs
  · exact hfit

/-- Of the previous and the output connection of a block one is free. -/
lemma target_eq_none_or (hc : ws.previous? b = some c) (hd : ws.output? b = some d) :
    ws.target? c = none ∨ ws.target? d = none := by
  by_contra hne
  obtain ⟨hcl, hdl⟩ := not_or.mp hne
  have hplace := h.place_of_previous hc
  have hplace' := h.place_of_output hd
  obtain rfl := h.one_up b c d .previous .output hplace hplace' rfl rfl hcl hdl
  rw [hplace] at hplace'
  cases hplace'

/-- A lower end of a block that is linked leads to the block's holder. -/
lemma holder_of_lower (hc : ws.place? c = some (b, s)) (hs : s.isUpper = false)
    (hcp : ws.target? c = some p) : ws.holder? b = some p := by
  cases s with
  | previous => rw [holder?, h.previous_of_place hc, Option.bind_some, hcp, Option.some_or]
  | output =>
      have hout := h.output_of_place hc
      have hprev : (ws.previous? b).bind ws.target? = none := by
        rw [Option.bind_eq_none_iff]
        intro d hd
        exact (h.target_eq_none_or hd hout).resolve_right (by simp [hcp])
      rw [holder?, hprev, hout, Option.bind_some, hcp, Option.none_or]
  | next => cases hs
  | socket i => cases hs

/-- **The link that a block hangs by**: its upper end is the block's holder, its lower end one of
the block's own connections, and their roles fit. -/
theorem of_holder (hb : ws.holder? b = some p) :
    ∃ a r c s, ws.place? p = some (a, r) ∧ ws.place? c = some (b, s) ∧ ws.roleFits r s = true ∧
      ws.target? p = some c ∧ ws.target? c = some p := by
  have key : ∀ c s, ws.place? c = some (b, s) → s.isUpper = false → ws.target? c = some p →
      ∃ a r c s, ws.place? p = some (a, r) ∧ ws.place? c = some (b, s) ∧ ws.roleFits r s = true ∧
        ws.target? p = some c ∧ ws.target? c = some p := by
    intro c s hc hs hcp
    obtain ⟨a, r, hp, hfit, hpc⟩ := h.upper_of_lower hc hs hcp
    exact ⟨a, r, c, s, hp, hc, hfit, hpc, hcp⟩
  rcases Option.or_eq_some_iff.mp hb with hprev | ⟨-, hout⟩
  · obtain ⟨c, hc, hcp⟩ := Option.bind_eq_some_iff.mp hprev
    exact key c .previous (h.place_of_previous hc) rfl hcp
  · obtain ⟨c, hc, hcp⟩ := Option.bind_eq_some_iff.mp hout
    exact key c .output (h.place_of_output hc) rfl hcp

/-- **A block's holder is the upper end whose link leads to the block.** -/
theorem holder_iff : ws.holder? b = some p ↔
    ws.targetBlock? p = some b ∧ ∃ a r, ws.place? p = some (a, r) ∧ r.isUpper = true := by
  constructor
  · intro hb
    obtain ⟨a, r, c, s, hp, hc, hfit, hpc, -⟩ := h.of_holder hb
    refine ⟨?_, a, r, hp, (isUpper_of_roleFits hfit).1⟩
    rw [targetBlock?, hpc, Option.bind_some, owner?_of_place hc]
  · rintro ⟨hpb, a, r, hp, hr⟩
    obtain ⟨c, hpc, hcb⟩ := Option.bind_eq_some_iff.mp hpb
    obtain ⟨b', s, hc, hfit, hcp⟩ := h.lower_of_upper hp hr hpc
    obtain rfl : b' = b := Option.some.inj ((owner?_of_place hc).symm.trans hcb)
    exact h.holder_of_lower hc (isUpper_of_roleFits hfit).2 hcp

/-- **The parent of a block is the owner of its holder.** -/
theorem parent_eq (b : BlockId) : ws.parent? b = (ws.holder? b).bind ws.owner? := by
  have hbind : ∀ o : Option ConnectionId,
      o.bind ws.targetBlock? = (o.bind ws.target?).bind ws.owner? := by
    intro o
    cases o <;> rfl
  rw [parent?, hbind, hbind, holder?]
  cases hprev : (ws.previous? b).bind ws.target? with
  | none => rfl
  | some p =>
      obtain ⟨a, r, c, s, hp, -⟩ := h.of_holder (b := b) (p := p) (by rw [holder?, hprev]; rfl)
      rw [Option.some_or, Option.bind_some, owner?_of_place hp, Option.some_or]

lemma parent_iff : ws.parent? b = some a ↔ ∃ p, ws.holder? b = some p ∧ ws.owner? p = some a := by
  rw [h.parent_eq, Option.bind_eq_some_iff]

lemma parent_eq_none_iff : ws.parent? b = none ↔ ws.holder? b = none := by
  rw [h.parent_eq]
  cases hb : ws.holder? b with
  | none => simp
  | some p =>
      obtain ⟨a, r, c, s, hp, -⟩ := h.of_holder hb
      simp [owner?_of_place hp]

/-- A block that hangs from another one is live, and so is the other one. -/
lemma hasBlock_of_parent (hb : ws.parent? b = some a) :
    ws.hasBlock b = true ∧ ws.hasBlock a = true := by
  obtain ⟨p, hp, ha⟩ := h.parent_iff.mp hb
  obtain ⟨a', r, c, s, -, hc, -⟩ := h.of_holder hp
  exact ⟨h.hasBlock_of_place hc, h.hasBlock_of_owner ha⟩

end Linked

end Workspace

end BlockCursor
