import BlockCursor.Proofs.Workspace.Relinked
import BlockCursor.Proofs.Workspace.Subtree

/-!
# Disposing

A block is disposed in two steps.  First it is taken off what it hangs from, which is nothing but
disconnecting; then it is removed with everything below it.  The blocks that go are then linked to
each other alone, so that no link is left with one end.

* `Workspace.Releases` — a workspace comes from another one by disconnecting alone.
* `Forest.without` — removing blocks keeps a forest if no link leads from a block that goes to one
  that stays.
* **`dispose_eq_ok`** — disposing a live block succeeds, and what it does.
* **`Forest.dispose`** — it keeps a forest.
-/

namespace BlockCursor.Workspace

variable {ws ws' : Workspace} {a b : BlockId} {c d p : ConnectionId} {i : InputId} {f : FieldId}
  {r s : Role} {gone : List BlockId}

/-! ## What is left -/

lemma block?_without {x : Block} : (ws.without gone).block? b = some x ↔
    ws.block? b = some x ∧ b ∉ gone := by
  simp [block?, without, Option.filter_eq_some_iff]

lemma input?_without {x : Input} : (ws.without gone).input? i = some x ↔
    ws.input? i = some x ∧ x.block ∉ gone := by
  simp [input?, without, Option.filter_eq_some_iff]

lemma connection?_without {x : Connection} : (ws.without gone).connection? c = some x ↔
    ws.connection? c = some x ∧ x.block ∉ gone := by
  simp [connection?, without, Option.filter_eq_some_iff]

lemma field?_without {x : Field} : (ws.without gone).field? f = some x ↔
    ws.field? f = some x ∧ ∀ b, ws.inputBlock? x.input = some b → b ∉ gone := by
  rw [field?, without, Arena.get?_keep, Option.filter_eq_some_iff, field?]
  cases ws.inputBlock? x.input <;> simp

lemma block?_without_eq (hb : b ∉ gone) : (ws.without gone).block? b = ws.block? b := by
  ext x
  rw [block?_without, and_iff_left hb]

lemma hasBlock_without : (ws.without gone).hasBlock b = true ↔
    ws.hasBlock b = true ∧ b ∉ gone := by
  simp only [hasBlock, Option.isSome_iff_exists, block?_without, exists_and_right]

lemma input?_without_eq (hi : ws.inputBlock? i = some b) (hb : b ∉ gone) :
    (ws.without gone).input? i = ws.input? i := by
  obtain ⟨y, hy, rfl⟩ := Option.map_eq_some_iff.mp hi
  rw [hy, input?_without]
  exact ⟨hy, hb⟩

lemma connection?_without_eq (hc : ws.owner? c = some b) (hb : b ∉ gone) :
    (ws.without gone).connection? c = ws.connection? c := by
  obtain ⟨y, hy, rfl⟩ := Option.map_eq_some_iff.mp hc
  rw [hy, connection?_without]
  exact ⟨hy, hb⟩

/-- What decides whether an entry is left can be read off the entry. -/
lemma map_eq_some_iff_of_left {α β : Type} {before after : Option α} (g : α → β)
    (stays : β → Prop) (h : ∀ x, after = some x ↔ before = some x ∧ stays (g x)) (y : β) :
    after.map g = some y ↔ before.map g = some y ∧ stays y := by
  simp only [Option.map_eq_some_iff, h]
  constructor
  · rintro ⟨x, ⟨hx, hstays⟩, rfl⟩
    exact ⟨⟨x, hx, rfl⟩, hstays⟩
  · rintro ⟨⟨x, hx, rfl⟩, hstays⟩
    exact ⟨x, ⟨hx, hstays⟩, rfl⟩

lemma inputBlock?_without : (ws.without gone).inputBlock? i = some b ↔
    ws.inputBlock? i = some b ∧ b ∉ gone :=
  map_eq_some_iff_of_left Input.block (· ∉ gone) (fun _ => input?_without) b

lemma place?_without : (ws.without gone).place? c = some (b, r) ↔
    ws.place? c = some (b, r) ∧ b ∉ gone :=
  map_eq_some_iff_of_left (fun x : Connection => (x.block, x.role)) (·.1 ∉ gone)
    (fun _ => connection?_without) (b, r)

lemma fieldInput?_without : (ws.without gone).fieldInput? f = some i ↔
    ws.fieldInput? f = some i ∧ ∀ b, ws.inputBlock? i = some b → b ∉ gone :=
  map_eq_some_iff_of_left Field.input (fun i => ∀ b, ws.inputBlock? i = some b → b ∉ gone)
    (fun _ => field?_without) i

lemma target?_without : (ws.without gone).target? c = some d ↔
    ws.target? c = some d ∧ ∃ b r, (ws.without gone).place? c = some (b, r) := by
  constructor
  · intro hcd
    obtain ⟨x, hx, hxd⟩ := Option.bind_eq_some_iff.mp hcd
    refine ⟨?_, x.block, x.role, by rw [place?, hx, Option.map_some]⟩
    rw [target?, (connection?_without.mp hx).1]
    exact hxd
  · rintro ⟨hcd, b, r, hplace⟩
    obtain ⟨x, hx, -⟩ := Option.map_eq_some_iff.mp hplace
    rw [target?, (connection?_without.mp hx).1] at hcd
    rw [target?, hx]
    exact hcd

/-! ## Owners of what is left -/

lemma inputsOf_without (ws : Workspace) (gone : List BlockId) (b : BlockId) :
    (ws.without gone).inputsOf b = if b ∈ gone then [] else ws.inputsOf b := by
  split
  case isTrue hb =>
    have hnone : (ws.without gone).block? b = none := by
      rw [Option.eq_none_iff_forall_ne_some]
      exact fun x hx => (block?_without.mp hx).2 hb
    rw [inputsOf, hnone]
    rfl
  case isFalse hb => rw [inputsOf, block?_without_eq hb, inputsOf]

/-- What a block lists stays as long as the block does. -/
lemma Owned.listed_without (h : ws.Owned) : (ws.without gone).listed? b r = some c ↔
    ws.listed? b r = some c ∧ b ∉ gone := by
  by_cases hb : b ∈ gone
  · simp only [hb, not_true_eq_false, and_false, iff_false]
    intro hc
    exact (hasBlock_without.mp (hasBlock_of_listed hc)).2 hb
  · rw [and_iff_left hb]
    cases r with
    | previous => rw [listed?, listed?, previous?, previous?, block?_without_eq hb]
    | next => rw [listed?, listed?, next?, next?, block?_without_eq hb]
    | output => rw [listed?, listed?, output?, output?, block?_without_eq hb]
    | socket i =>
        rw [listed?_socket, listed?_socket, inputsOf_without, if_neg hb]
        refine and_congr_right fun hi => ?_
        rw [socket?, input?_without_eq ((h.input_iff b i).mp hi) hb, socket?]

/-- **Removing blocks keeps ownership**: a block goes with all that it owns. -/
lemma Owned.without (h : ws.Owned) (gone : List BlockId) : (ws.without gone).Owned where
  listed_iff b r c := by rw [h.listed_without, place?_without, h.listed_iff]
  input_iff b i := by
    rw [inputsOf_without, inputBlock?_without, ← h.input_iff]
    split
    case isTrue hb => simp [hb]
    case isFalse hb => simp [hb]
  field_iff i f := by
    rw [fieldInput?_without, ← h.field_iff]
    constructor
    · intro hf
      obtain ⟨x, hx⟩ := Option.isSome_iff_exists.mp (hasInput_of_mem_fields hf)
      obtain ⟨hold, hgone⟩ := input?_without.mp hx
      rw [fieldsOf, hx] at hf
      rw [fieldsOf, hold]
      refine ⟨hf, fun b hb => ?_⟩
      rw [inputBlock?, hold] at hb
      cases hb
      exact hgone
    · rintro ⟨hf, hgone⟩
      obtain ⟨b, hb⟩ := h.exists_inputBlock_of_fieldInput ((h.field_iff i f).mp hf)
      rw [fieldsOf, input?_without_eq hb (hgone b hb)]
      exact hf
  inputs_nodup b := by
    rw [inputsOf_without]
    split
    · exact List.nodup_nil
    · exact h.inputs_nodup b
  fields_nodup i := by
    rw [fieldsOf]
    cases hi : (ws.without gone).input? i with
    | none => exact List.nodup_nil
    | some x =>
        have hnodup := h.fields_nodup i
        rw [fieldsOf, (input?_without.mp hi).1] at hnodup
        exact hnodup
  socket_isSome i := by
    rw [socket?, inputKind?]
    cases hi : (ws.without gone).input? i with
    | none => rfl
    | some x =>
        have hsome := h.socket_isSome i
        rw [socket?, inputKind?, (input?_without.mp hi).1] at hsome
        exact hsome

/-! ## Links of what is left -/

/-- Of two blocks with a link between them one hangs from the other. -/
lemma Linked.parent_of_target (h : ws.Linked) (hcd : ws.target? c = some d)
    (hc : ws.place? c = some (a, r)) (hd : ws.place? d = some (b, s)) :
    ws.parent? b = some a ∨ ws.parent? a = some b := by
  rcases h.fit c d a b r s hcd hc hd with hfit | hfit
  · refine Or.inl (h.parent_iff.mpr ⟨c, ?_, owner?_of_place hc⟩)
    exact h.holder_of_lower hd (isUpper_of_roleFits hfit).2 (h.symm c d hcd)
  · refine Or.inr (h.parent_iff.mpr ⟨d, ?_, owner?_of_place hd⟩)
    exact h.holder_of_lower hc (isUpper_of_roleFits hfit).2 hcd

lemma Owned.roleFits_without (h : ws.Owned) (hp : (ws.without gone).place? p = some (a, r))
    (hfit : ws.roleFits r s = true) : (ws.without gone).roleFits r s = true := by
  obtain ⟨hold, ha⟩ := place?_without.mp hp
  cases r with
  | socket i =>
      have hi := (h.input_iff a i).mp (h.socket_of_place hold).1
      cases s <;> simpa only [roleFits, inputKind?, input?_without_eq hi ha] using hfit
  | next => cases s <;> exact hfit
  | previous => cases s <;> exact hfit
  | output => cases s <;> exact hfit

section Closed

variable (h : ws.Linked) (hgone : ∀ x y, ws.parent? x = some y → (x ∈ gone ↔ y ∈ gone))
include h hgone

/-- The other end of a link that is left is left. -/
lemma Linked.place_without (hcd : ws.target? c = some d)
    (hc : (ws.without gone).place? c = some (a, r)) :
    ∃ b s, (ws.without gone).place? d = some (b, s) := by
  obtain ⟨hc, ha⟩ := place?_without.mp hc
  obtain ⟨b, s, hd⟩ := exists_place_of_target (h.symm c d hcd)
  refine ⟨b, s, place?_without.mpr ⟨hd, ?_⟩⟩
  rcases h.parent_of_target hcd hc hd with hba | hab
  · rwa [hgone b a hba]
  · rwa [← hgone a b hab]

/-- Removing blocks keeps the links in order if every link goes or stays as a whole. -/
lemma Linked.without : (ws.without gone).Linked where
  toOwned := h.toOwned.without gone
  symm c d hcd := by
    obtain ⟨hcd, a, r, hc⟩ := target?_without.mp hcd
    exact target?_without.mpr ⟨h.symm c d hcd, h.place_without hgone hcd hc⟩
  fit c d a b r s hcd hc hd := by
    have hfit := h.fit c d a b r s (target?_without.mp hcd).1 (place?_without.mp hc).1
      (place?_without.mp hd).1
    exact hfit.imp (h.roleFits_without hc) (h.roleFits_without hd)
  one_up b c d r s hc hd hr hs hcl hdl := by
    obtain ⟨c', hcl⟩ := Option.ne_none_iff_exists'.mp hcl
    obtain ⟨d', hdl⟩ := Option.ne_none_iff_exists'.mp hdl
    refine h.one_up b c d r s (place?_without.mp hc).1 (place?_without.mp hd).1 hr hs ?_ ?_
    · simp [(target?_without.mp hcl).1]
    · simp [(target?_without.mp hdl).1]

lemma Linked.holder_without : (ws.without gone).holder? b = some p ↔
    ws.holder? b = some p ∧ b ∉ gone := by
  constructor
  · intro hb
    obtain ⟨a, r, c, s, -, hc, hfit, -, hcp⟩ := (h.without hgone).of_holder hb
    obtain ⟨hold, hstays⟩ := place?_without.mp hc
    refine ⟨?_, hstays⟩
    exact h.holder_of_lower hold (isUpper_of_roleFits hfit).2 (target?_without.mp hcp).1
  · rintro ⟨hb, hstays⟩
    obtain ⟨a, r, c, s, -, hc, hfit, -, hcp⟩ := h.of_holder hb
    have hc' := place?_without.mpr ⟨hc, hstays⟩
    refine (h.without hgone).holder_of_lower hc' (isUpper_of_roleFits hfit).2 ?_
    exact target?_without.mpr ⟨hcp, b, s, hc'⟩

/-- A block that stays keeps its parent. -/
lemma Linked.parent_without : (ws.without gone).parent? b = some a ↔
    ws.parent? b = some a ∧ b ∉ gone := by
  rw [(h.without hgone).parent_iff, h.parent_iff]
  constructor
  · rintro ⟨p, hp, ha⟩
    obtain ⟨hb, hstays⟩ := (h.holder_without hgone).mp hp
    obtain ⟨r, hplace⟩ := exists_place_of_owner ha
    exact ⟨⟨p, hb, owner?_of_place (place?_without.mp hplace).1⟩, hstays⟩
  · rintro ⟨⟨p, hp, ha⟩, hstays⟩
    obtain ⟨r, hplace⟩ := exists_place_of_owner ha
    have hba : ws.parent? b = some a := h.parent_iff.mpr ⟨p, hp, ha⟩
    have ha' : a ∉ gone := by rwa [← hgone b a hba]
    exact ⟨p, (h.holder_without hgone).mpr ⟨hp, hstays⟩,
      owner?_of_place (place?_without.mpr ⟨hplace, ha'⟩)⟩

end Closed

/-- **Removing blocks keeps a forest** if no block that stays hangs from one that goes, nor the
other way round. -/
theorem Forest.without (h : ws.Forest)
    (hgone : ∀ x y, ws.parent? x = some y → (x ∈ gone ↔ y ∈ gone)) : (ws.without gone).Forest where
  toLinked := h.toLinked.without hgone
  grounded := h.grounded.mono fun _ _ hba => ((h.toLinked.parent_without hgone).mp hba).1
  tops_nodup := h.tops_nodup.filter _
  mem_tops_iff b := by
    have htops : b ∈ (ws.without gone).tops ↔ b ∈ ws.tops ∧ b ∉ gone := by
      simp [Workspace.without]
    rw [htops, hasBlock_without, h.mem_tops_iff, and_right_comm]
    refine and_congr_right fun ⟨_, hb⟩ => ?_
    simp only [Option.eq_none_iff_forall_ne_some, ne_eq, h.toLinked.parent_without hgone, hb,
      not_false_eq_true, and_true]

/-! ## Taking a block off -/

/-- What a computation in two steps answers is what the second one does. -/
lemma exists_of_bind_eq_ok {ε α β : Type} {x : Except ε α} {g : α → Except ε β} {y : β}
    (h : (x >>= g) = .ok y) : ∃ a, x = .ok a ∧ g a = .ok y := by
  cases x with
  | error e => cases h
  | ok a => exact ⟨a, rfl, h⟩

lemma bind_eq_ok_iff {ε α β : Type} {x : Except ε α} {f : α → Except ε β} {b : β} :
    (x >>= f) = .ok b ↔ ∃ a, x = .ok a ∧ f a = .ok b := by
  constructor
  · exact exists_of_bind_eq_ok
  · rintro ⟨a, rfl, hf⟩
    exact hf

/-- The second workspace comes from the first one by disconnecting alone. -/
abbrev Releases : Workspace → Workspace → Prop :=
  Relation.ReflTransGen fun ws ws' => ∃ c, ws.disconnect c = .ok ws'

/-- What disconnecting leaves as it was. -/
lemma sameObjects_disconnect (h : ws.Linked) (hok : ws.disconnect c = .ok ws') :
    ws.SameObjects ws' := by
  obtain ⟨p, d, a, r, b, s, -, -, -, -, -, rfl⟩ := (disconnect_eq_ok_iff h).mp hok
  exact sameObjects_unlink ws p d b

lemma target?_disconnect (h : ws.Linked) (hok : ws.disconnect c = .ok ws') :
    ws'.target? c = none ∧ ∀ x, ws.target? x = none → ws'.target? x = none := by
  obtain ⟨p, d, a, r, b, s, hp, hd, -, -, hends, rfl⟩ := (disconnect_eq_ok_iff h).mp hok
  constructor
  · rw [target?_unlink hp hd]
    rcases hends with rfl | rfl <;> simp
  · intro x hx
    rw [target?_unlink hp hd, hx]
    simp

/-- **Every link can be broken**, named from either end. -/
lemma Linked.exists_disconnect (h : ws.Linked) (hcd : ws.target? c = some d) :
    ∃ ws', ws.disconnect c = .ok ws' := by
  obtain ⟨a, r, hc⟩ := exists_place_of_target hcd
  obtain ⟨b, s, hd⟩ := exists_place_of_target (h.symm c d hcd)
  rcases h.fit c d a b r s hcd hc hd with hfit | hfit
  · exact ⟨_, (disconnect_eq_ok_iff h).mpr
      ⟨c, d, a, r, b, s, hc, hd, hfit, hcd, Or.inl rfl, rfl⟩⟩
  · exact ⟨_, (disconnect_eq_ok_iff h).mpr
      ⟨d, c, b, s, a, r, hd, hc, hfit, h.symm c d hcd, Or.inr rfl, rfl⟩⟩

lemma Forest.releases (h : ws.Forest) (hrel : Releases ws ws') : ws'.Forest := by
  induction hrel with
  | refl => exact h
  | tail _ hstep ih =>
      obtain ⟨c, hok⟩ := hstep
      exact ih.disconnect hok

lemma Forest.sameObjects_releases (h : ws.Forest) (hrel : Releases ws ws') :
    ws.SameObjects ws' := by
  induction hrel with
  | refl => exact .refl ws
  | @tail mid ws' hmid hstep ih =>
      obtain ⟨c, hok⟩ := hstep
      exact ih.trans (sameObjects_disconnect (h.releases hmid).toLinked hok)

/-- Where there is no link there is nothing to break. -/
lemma release_of_free (hc : ws.target? c = none) : ws.release c = .ok ws := by
  rw [release, hc]
  rfl

/-- Breaking the links at some connections, where there are any, always succeeds. -/
lemma Forest.exists_release (h : ws.Forest) (cs : List ConnectionId) :
    ∃ ws', cs.foldlM release ws = .ok ws' ∧ Releases ws ws' ∧
      (∀ c ∈ cs, ws'.target? c = none) ∧ ∀ x, ws.target? x = none → ws'.target? x = none := by
  induction cs generalizing ws with
  | nil => exact ⟨ws, rfl, .refl, by simp, fun _ => id⟩
  | cons c cs ih =>
      have hone : ∃ one, ws.release c = .ok one ∧ Releases ws one ∧ one.target? c = none ∧
          ∀ x, ws.target? x = none → one.target? x = none := by
        cases hc : ws.target? c with
        | none => exact ⟨ws, release_of_free hc, .refl, hc, fun _ => id⟩
        | some d =>
            obtain ⟨one, hok⟩ := h.exists_disconnect hc
            obtain ⟨hfree, hrest⟩ := target?_disconnect h.toLinked hok
            refine ⟨one, ?_, .single ⟨c, hok⟩, hfree, hrest⟩
            rw [release, hc]
            exact hok
      obtain ⟨one, hok, hrel, hfree, hrest⟩ := hone
      obtain ⟨ws', hok', hrel', hfree', hrest'⟩ := ih (h.releases hrel)
      refine ⟨ws', ?_, hrel.trans hrel', ?_, fun x hx => hrest' x (hrest x hx)⟩
      · rw [List.foldlM_cons, hok]
        exact hok'
      · intro x hx
        rcases List.mem_cons.mp hx with rfl | hx
        · exact hrest' x hfree
        · exact hfree' x hx

/-! ## Disposing -/

/-- **A block can be taken off what it hangs from**, by its previous or its output connection. -/
theorem Forest.exists_released (h : ws.Forest) (b : BlockId) :
    ∃ mid, ((ws.previous? b).toList ++ (ws.output? b).toList).foldlM release ws = .ok mid ∧
      Releases ws mid ∧ mid.parent? b = none := by
  obtain ⟨mid, hok, hrel, hfree, -⟩ :=
    h.exists_release ((ws.previous? b).toList ++ (ws.output? b).toList)
  have hmid := h.releases hrel
  have hsame := h.sameObjects_releases hrel
  refine ⟨mid, hok, hrel, ?_⟩
  rw [hmid.parent_eq_none_iff, holder?, Option.or_eq_none_iff]
  constructor
  · rw [Option.bind_eq_none_iff]
    intro c hc
    rw [hsame.previous] at hc
    exact hfree c (List.mem_append_left _ (Option.mem_toList.mpr hc))
  · rw [Option.bind_eq_none_iff]
    intro c hc
    rw [hsame.output] at hc
    exact hfree c (List.mem_append_right _ (Option.mem_toList.mpr hc))

lemma dispose_of_released {mid : Workspace} (hb : ws.hasBlock b = true)
    (hok : ((ws.previous? b).toList ++ (ws.output? b).toList).foldlM release ws = .ok mid) :
    ws.dispose b = .ok (mid.without (mid.subtree b)) := by
  rw [dispose, hb, hok]
  rfl

/-- **Disposing a live block succeeds.**  The block is taken off what it hangs from, and then goes
with everything below it. -/
theorem dispose_eq_ok (h : ws.Forest) (hb : ws.hasBlock b = true) :
    ∃ mid, Releases ws mid ∧ mid.parent? b = none ∧
      ws.dispose b = .ok (mid.without (mid.subtree b)) := by
  obtain ⟨mid, hok, hrel, htop⟩ := h.exists_released b
  exact ⟨mid, hrel, htop, dispose_of_released hb hok⟩

lemma dispose_eq_error (hb : ¬ ws.hasBlock b = true) :
    ws.dispose b = .error (.unknownBlock b) := by
  rw [dispose, Bool.eq_false_of_not_eq_true hb]
  rfl

/-- **Disposing keeps a forest.** -/
theorem Forest.dispose (h : ws.Forest) (hok : ws.dispose b = .ok ws') : ws'.Forest := by
  by_cases hb : ws.hasBlock b = true
  · obtain ⟨mid, hrel, htop, heq⟩ := dispose_eq_ok h hb
    rw [heq] at hok
    cases hok
    have hmid := h.releases hrel
    have hb' : mid.hasBlock b = true := by rwa [(h.sameObjects_releases hrel).hasBlock]
    exact hmid.without fun x y => hmid.mem_subtree_congr hb' htop
  · rw [dispose_eq_error hb] at hok
    cases hok

end BlockCursor.Workspace
