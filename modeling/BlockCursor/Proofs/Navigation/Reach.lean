import BlockCursor.Navigation.Cursor
import BlockCursor.Proofs.Navigation.Accessible
import BlockCursor.Proofs.Workspace.Consistency

/-!
# How far a cursor gets

A cursor that starts on the surface gets to the accessible blocks and to no others.  That it gets to
no others is the invariant `Node.Seen`.  The way to an accessible block is made from its root down:
along the ring of stacks to the root, into its first block, down the chains by their next
connections, and into a socket by entering the block that has it and going on from socket to socket.

* `Workspace.Reaches` — from a node to a node in any number of moves.
* `exists_walk_iff` — it is what a cursor's walks do.
* `Forest.reaches_stack`, `Forest.reaches_socket`, `Forest.reaches_block` — the parts of the way.
* **`Reachable.walks_to_iff`** — a cursor from the surface gets to a block just when it is
  accessible.
-/

namespace BlockCursor

namespace Workspace

variable {ws : Workspace} {step : Float} {n n' : Node} {a b t : BlockId} {c s : ConnectionId}
  {i : InputId} {f : FieldId}

/-- Moves lead from one node to another, in any number. -/
abbrev Reaches (ws : Workspace) (step : Float) : Node → Node → Prop :=
  Relation.ReflTransGen fun n n' =>
    ∃ m, (Navigator.ofWorkspace ws step).navigate n m = .ok (some n')

/-- One move from a live node. -/
lemma reaches_of_leads {m : Move} (hlive : n.isLive ws = true) (h : ws.Leads step n m n') :
    ws.Reaches step n n' :=
  .single ⟨m, Navigator.navigate_of_leads hlive h⟩

/-- Every move keeps to what a cursor can get to. -/
lemma Forest.seen_of_reaches (h : ws.Forest) (hn : n.Seen ws) (hreach : ws.Reaches step n n') :
    n'.Seen ws := by
  induction hreach with
  | refl => exact hn
  | tail _ hstep ih =>
      obtain ⟨m, hm⟩ := hstep
      exact (Navigator.navigate_eq_some_iff.mp hm).2.seen h ih

/-! ## Walks -/

/-- What a walk adds to a trail is reached from where the trail ended. -/
lemma reaches_of_foldlM {moves : List Move} {start trail : Trail}
    (h : moves.foldlM (Trail.extend (.ofWorkspace ws step)) start = .ok trail) :
    ws.Reaches step start.cursor.current trail.cursor.current := by
  induction moves generalizing start with
  | nil =>
      cases h
      exact .refl
  | cons m moves ih =>
      rw [List.foldlM_cons] at h
      cases hn : (Navigator.ofWorkspace ws step).navigate start.cursor.current m with
      | error e =>
          rw [Trail.extend, Cursor.go, hn] at h
          cases h
      | ok r =>
          cases r with
          | none =>
              rw [Trail.extend, Cursor.go, hn] at h
              have hrest : moves.foldlM (Trail.extend (.ofWorkspace ws step))
                  ⟨start.strides.push ⟨m, start.cursor.current, none⟩, start.cursor⟩ =
                    .ok trail := h
              have hreach := ih hrest
              exact hreach
          | some n' =>
              rw [Trail.extend, Cursor.go, hn] at h
              have hrest : moves.foldlM (Trail.extend (.ofWorkspace ws step))
                  ⟨start.strides.push ⟨m, start.cursor.current, some n'⟩, ⟨n'⟩⟩ =
                    .ok trail := h
              exact (ih hrest).head ⟨m, hn⟩

/-- Whatever is reached is walked to. -/
lemma exists_foldlM_of_reaches (h : ws.Reaches step n n') : ∃ moves : List Move,
    ∀ start : Trail, start.cursor.current = n → ∃ trail,
      moves.foldlM (Trail.extend (.ofWorkspace ws step)) start = .ok trail ∧
        trail.cursor.current = n' := by
  induction h using Relation.ReflTransGen.head_induction_on with
  | refl => exact ⟨[], fun start hstart => ⟨start, rfl, hstart⟩⟩
  | head hstep _ ih =>
      obtain ⟨m, hm⟩ := hstep
      obtain ⟨moves, hmoves⟩ := ih
      refine ⟨m :: moves, fun start hstart => ?_⟩
      rw [List.foldlM_cons, Trail.extend, Cursor.go, hstart, hm]
      exact hmoves _ rfl

/-- **A cursor walks to what moves lead to.** -/
lemma exists_walk_iff {cursor : Cursor} : (∃ moves trail,
    cursor.walk (.ofWorkspace ws step) moves = .ok trail ∧ trail.cursor.current = n) ↔
      ws.Reaches step cursor.current n := by
  constructor
  · rintro ⟨moves, trail, hwalk, rfl⟩
    exact reaches_of_foldlM hwalk
  · intro h
    obtain ⟨moves, hmoves⟩ := exists_foldlM_of_reaches h
    obtain ⟨trail, hwalk, hn⟩ := hmoves { cursor } rfl
    exact ⟨moves, trail, hwalk, hn⟩

/-- An input with a socket is not passed over. -/
lemma exists_enterForward (hs : ws.socket? i = some s) :
    ∃ n, ws.enterForward? i = some n ∧ n ∈ ws.inputStops i := by
  cases hn : ws.enterForward? i with
  | none =>
      have hmem := input_mem_inputStops hs
      rw [enterForward?_eq_none_iff.mp hn] at hmem
      cases hmem
  | some n => exact ⟨n, rfl, mem_of_enterForward hn⟩

/-! ## The way to a stack -/

namespace Forest

variable (h : ws.Forest)
include h

/-- From one top the ring leads on to the one after it. -/
lemma reaches_following {k : ℕ} (hk : k + 1 < ws.tops.length) :
    ws.Reaches step (.stack ws.tops[k]) (.stack ws.tops[k + 1]) := by
  have hmem : ws.tops[k] ∈ ws.tops := List.getElem_mem _
  refine reaches_of_leads (h.hasBlock_of_mem_tops hmem) (m := .next)
    (.following (h.root_of_mem_tops hmem) ?_ ?_ (i := k))
  · rw [List.idxOf?_eq_some_iff]
    refine ⟨by omega, rfl, fun j hj hsame => ?_⟩
    have := h.tops_nodup.getElem_inj_iff.mp hsame
    omega
  · show ws.tops[(k + 1) % ws.tops.length]? = _
    rw [Nat.mod_eq_of_lt hk]
    exact List.getElem?_eq_getElem hk

/-- **From the surface a cursor gets to every stack.** -/
lemma reaches_stack (p : Point) (ht : t ∈ ws.tops) :
    ws.Reaches step (.workspace p) (.stack t) := by
  obtain ⟨k, hk, rfl⟩ := List.getElem_of_mem ht
  induction k with
  | zero =>
      refine reaches_of_leads rfl (m := .into) (.firstStack ?_)
      rw [List.head?_eq_getElem?]
      exact List.getElem?_eq_getElem hk
  | succ k ih => exact (ih (by omega) (List.getElem_mem _)).trans (h.reaches_following hk)

/-! ## The way into a block -/

/-- From the node at its top a cursor gets into a block. -/
lemma reaches_of_topNode (hn : ws.topNode? b = some n) : ws.Reaches step n (.block b) := by
  have houtput : ∀ {c}, ws.output? b = some c → ws.Reaches step (.output c) (.block b) := by
    intro c hc
    have hplace := h.place_of_output hc
    have hlive : (Node.output c).isLive ws = true := hasConnection_of_place hplace
    exact reaches_of_leads hlive (.outputNext (owner?_of_place hplace))
  rcases topNode?_eq_some_iff.mp hn with ⟨c, hc, rfl⟩ | ⟨c, -, hc, rfl⟩
  · have hplace := h.place_of_previous hc
    have hlive : (Node.previous c).isLive ws = true := hasConnection_of_place hplace
    cases hd : ws.output? b with
    | none => exact reaches_of_leads hlive (.previousBlock (owner?_of_place hplace) hd)
    | some d =>
        have hstep : ws.Reaches step (.previous c) (.output d) :=
          reaches_of_leads hlive (.previousOutput (owner?_of_place hplace) hd)
        exact hstep.trans (houtput hd)
  · exact houtput hc

/-- A block that hangs from something has a node at its top. -/
lemma exists_topNode_of_holder (hb : ws.holder? b = some s) : ∃ n, ws.topNode? b = some n := by
  obtain ⟨a, q, c, r, -, hc, hfit, -⟩ := h.of_holder hb
  have hlow := (isUpper_of_roleFits hfit).2
  cases hprev : ws.previous? b with
  | some d => exact ⟨.previous d, topNode?_eq_some_iff.mpr (Or.inl ⟨d, hprev, rfl⟩)⟩
  | none =>
      cases r with
      | previous =>
          rw [h.previous_of_place hc] at hprev
          cases hprev
      | output =>
          exact ⟨.output c, topNode?_eq_some_iff.mpr
            (Or.inr ⟨c, hprev, h.output_of_place hc, rfl⟩)⟩
      | next => cases hlow
      | socket i => cases hlow

/-! ## The way to a socket -/

/-- From a field of its row a cursor gets to the socket of an input. -/
lemma reaches_socket_of_field (hs : ws.socket? i = some s) (l : ℕ) :
    ∀ (pre post : List FieldId) (f : FieldId), ws.fieldsOf i = pre ++ f :: post →
      post.length = l → ws.Reaches step (.field f) (.input s) := by
  induction l using Nat.strong_induction_on with
  | _ l ih =>
      intro pre post f hrow hlen
      have hf : ws.fieldInput? f = some i := by
        rw [← h.field_iff, hrow]
        exact List.mem_append_right _ List.mem_cons_self
      have hlive : (Node.field f).isLive ws = true := hasField_of_fieldInput hf
      have hafter : ws.afterField? f =
          ((post.find? ws.isEditable).map Node.field).or (some (.input s)) := by
        rw [afterField?, hf, Option.bind_some, h.editableAfter?_eq hrow, hs]
        rfl
      cases hg : post.find? ws.isEditable with
      | none =>
          rw [hg] at hafter
          exact reaches_of_leads hlive (.fieldNext hafter)
      | some g =>
          rw [hg] at hafter
          obtain ⟨mid, rest, rfl⟩ := List.append_of_mem (List.mem_of_find?_eq_some hg)
          have hrow' : ws.fieldsOf i = (pre ++ f :: mid) ++ g :: rest := by rw [hrow]; simp
          have hstep : ws.Reaches step (.field f) (.field g) :=
            reaches_of_leads hlive (.fieldNext hafter)
          refine hstep.trans (ih rest.length ?_ _ rest g hrow' rfl)
          rw [← hlen, List.length_append, List.length_cons]
          omega

/-- From every stop of an input a cursor gets to its socket. -/
lemma reaches_socket_of_stop (hs : ws.socket? i = some s) (hn : n ∈ ws.inputStops i) :
    ws.Reaches step n (.input s) := by
  rcases mem_inputStops_iff.mp hn with ⟨f, hf, -, rfl⟩ | ⟨s', hs', rfl⟩
  · obtain ⟨pre, post, hrow⟩ := List.append_of_mem hf
    exact h.reaches_socket_of_field hs _ pre post f hrow rfl
  · rw [hs] at hs'
    cases hs'
    exact .refl

/-- An input without a socket that can be passed has no stops. -/
lemma inputStops_eq_nil (hi : ws.inputBlock? i = some a) (hs : ws.socket? i = none)
    (hpass : ¬ (ws.inputKind? i = some .dummy ∧ ∃ f ∈ ws.fieldsOf i, ws.isEditable f = true)) :
    ws.inputStops i = [] := by
  have hdummy : ws.inputKind? i = some .dummy := by
    obtain ⟨x, hx, -⟩ := Option.map_eq_some_iff.mp hi
    have hsome := h.socket_isSome i
    rw [hs, inputKind?, hx] at hsome
    rw [inputKind?, hx, Option.map_some]
    cases hkind : x.kind with
    | dummy => rfl
    | value => simp [hkind, InputKind.hasSocket] at hsome
    | statement => simp [hkind, InputKind.hasSocket] at hsome
  rw [List.eq_nil_iff_forall_not_mem]
  intro n hn
  rcases mem_inputStops_iff.mp hn with ⟨f, hf, hedit, -⟩ | ⟨s, hs', -⟩
  · exact hpass ⟨hdummy, f, hf, hedit⟩
  · rw [hs] at hs'
    cases hs'

/-- **From a block a cursor gets to the socket of an input**, if it can pass the inputs before:
from the last socket before it is one move on. -/
lemma reaches_socket (l : ℕ) : ∀ (before after : List InputId) (i : InputId) (s : ConnectionId),
    before.length = l → ws.inputsOf a = before ++ i :: after → ws.socket? i = some s →
      ws.Passes a before → ws.Reaches step (.block a) (.input s) := by
  induction l using Nat.strong_induction_on with
  | _ l ih =>
      intro before after i s hlen hrow hs hpass
      obtain ⟨n, hn, hstop⟩ := exists_enterForward hs
      have hreach : ws.Reaches step n (.input s) := h.reaches_socket_of_stop hs hstop
      have hlive : (Node.block a).isLive ws = true := by
        refine hasBlock_of_mem_inputs (i := i) ?_
        rw [hrow]
        exact List.mem_append_right _ List.mem_cons_self
      cases hlast : before.reverse.find? fun j => (ws.socket? j).isSome with
      | none =>
          -- the first input has a socket, so there is none before
          have hnil : before = [] := by
            cases before with
            | nil => rfl
            | cons j rest =>
                obtain ⟨⟨k, hk, hsocket⟩, -⟩ := hpass
                rw [hrow] at hk
                cases hk
                rw [List.find?_eq_none] at hlast
                exact absurd hsocket (hlast j (by simp))
          subst hnil
          have hhead : (ws.inputsOf a).head? = some i := by
            rw [hrow]
            rfl
          have hstep : ws.Reaches step (.block a) n :=
            reaches_of_leads hlive (.blockInto hhead hn)
          exact hstep.trans hreach
      | some j =>
          obtain ⟨hj, rest, pre, hsplit, hrest⟩ := List.find?_eq_some_iff_append.mp hlast
          obtain ⟨s', hs'⟩ := Option.isSome_iff_exists.mp hj
          have hbefore : before = pre.reverse ++ j :: rest.reverse := by
            rw [← List.reverse_reverse before, hsplit]
            simp
          have hrow' : ws.inputsOf a = pre.reverse ++ j :: (rest.reverse ++ i :: after) := by
            rw [hrow, hbefore]
            simp
          have hsub : pre.reverse ⊆ before := by
            rw [hbefore]
            exact fun k hk => List.mem_append_left _ hk
          have hto : ws.Reaches step (.block a) (.input s') := by
            refine ih pre.reverse.length ?_ pre.reverse _ j s' rfl hrow' hs' (hpass.mono hsub)
            rw [← hlen, hbefore, List.length_append, List.length_cons]
            omega
          -- between the two sockets there is no stop
          have hskip : ∀ k ∈ rest.reverse, ws.enterForward? k = none := by
            intro k hk
            have hkb : k ∈ before := by
              rw [hbefore]
              exact List.mem_append_right _ (List.mem_cons_of_mem _ hk)
            have hki : ws.inputBlock? k = some a := by
              rw [← h.input_iff, hrow]
              exact List.mem_append_left _ hkb
            have hks : ws.socket? k = none := by
              simpa using hrest k (List.mem_reverse.mp hk)
            exact enterForward?_eq_none_iff.mpr (h.inputStops_eq_nil hki hks (hpass.2 k hkb))
          obtain ⟨a', ha', hplace⟩ := h.place_of_socket hs'
          have hafter : ws.afterSocket? s' = some n := by
            rw [afterSocket?, parentInput?_eq_some_iff.mpr ⟨a', hplace⟩, Option.bind_some,
              h.inputsAfter_eq hrow', List.findSome?_eq_some_iff]
            exact ⟨rest.reverse, i, after, rfl, hn, hskip⟩
          have hlive' : (Node.input s').isLive ws = true := hasConnection_of_place hplace
          have hstep : ws.Reaches step (.input s') n := reaches_of_leads hlive' (.inputNext hafter)
          exact hto.trans (hstep.trans hreach)

/-! ## The way to a block -/

/-- **From the surface a cursor gets to every accessible block**, by way of the blocks above it. -/
lemma reaches_block (p : Point) (hb : ws.hasBlock b = true) (hacc : ws.Accessible b) :
    ws.Reaches step (.workspace p) (.block b) := by
  induction b using h.grounded.induction with
  | _ b ih =>
      cases hparent : ws.parent? b with
      | none =>
          have hmem := (h.mem_tops_iff b).mpr ⟨hb, hparent⟩
          obtain ⟨⟨t, ht, hopen⟩, -⟩ := hacc
          obtain rfl : t = b := Option.some.inj (ht.symm.trans (h.root_of_mem_tops hmem))
          have htop : ∃ n, ws.topNode? t = some n := by
            cases hprev : ws.previous? t with
            | some c => exact ⟨.previous c, topNode?_eq_some_iff.mpr (Or.inl ⟨c, hprev, rfl⟩)⟩
            | none =>
                rw [hprev] at hopen
                obtain ⟨c, hc⟩ := Option.isSome_iff_exists.mp (hopen.resolve_left (by simp))
                exact ⟨.output c, topNode?_eq_some_iff.mpr (Or.inr ⟨c, hprev, hc, rfl⟩)⟩
          obtain ⟨n, hn⟩ := htop
          have hstep : ws.Reaches step (.stack t) n := reaches_of_leads hb (.stackInto hn)
          exact ((h.reaches_stack p hmem).trans hstep).trans (h.reaches_of_topNode hn)
      | some a =>
          have ha := (h.hasBlock_of_parent hparent).2
          have hto := ih a hparent ha (h.accessible_up hacc hparent)
          obtain ⟨c, hholder, hca⟩ := h.parent_iff.mp hparent
          obtain ⟨n, hn⟩ := h.exists_topNode_of_holder hholder
          obtain ⟨hbelow, a', r, hplace, hr⟩ := h.holder_iff.mp hholder
          obtain rfl : a' = a := Option.some.inj ((owner?_of_place hplace).symm.trans hca)
          have hlast : ws.Reaches step n (.block b) := h.reaches_of_topNode hn
          cases r with
          | next =>
              have hlive : (Node.next c).isLive ws = true := hasConnection_of_place hplace
              have hdown : ws.Reaches step (.block a') (.next c) :=
                reaches_of_leads ha (.blockNext (h.next_of_place hplace))
              have hin : ws.Reaches step (.next c) n :=
                reaches_of_leads hlive (.nextNext hbelow hn)
              exact ((hto.trans hdown).trans hin).trans hlast
          | socket i =>
              obtain ⟨hmem, hs⟩ := h.socket_of_place hplace
              obtain ⟨before, after, hrow⟩ := List.append_of_mem hmem
              have hpass := hacc.2 b .refl a' before i after c hrow hs hbelow
              have hdown : ws.Reaches step (.block a') (.input c) :=
                h.reaches_socket _ before after i c rfl hrow hs hpass
              have hlive : (Node.input c).isLive ws = true := hasConnection_of_place hplace
              have hin : ws.Reaches step (.input c) n :=
                reaches_of_leads hlive (.inputInto hbelow hn)
              exact ((hto.trans hdown).trans hin).trans hlast
          | previous => cases hr
          | output => cases hr

end Forest

/-- **How far a cursor gets.**  From the surface there is a walk to a live block just when the root
of the block has a connection at its top, and whatever holds the block or one above it in a socket
lets the cursor pass the inputs before. -/
theorem Reachable.walks_to_iff (h : ws.Reachable) (hb : ws.hasBlock b = true) (step : Float)
    (p : Point) : (∃ moves trail,
      (Cursor.mk (.workspace p)).walk (.ofWorkspace ws step) moves = .ok trail ∧
        trail.cursor.current = .block b) ↔ ws.Accessible b := by
  rw [exists_walk_iff]
  exact ⟨h.forest.seen_of_reaches (n := .workspace p) trivial,
    fun hacc => h.forest.reaches_block p hb hacc⟩

/-- A walk into a block and through its only socket to the block that is plugged in there. -/
theorem accessible_by_walk : (applyAll empty
    [.insert ⟨"holder", true, false, false, [⟨"value", .value, []⟩]⟩,
      .insert ⟨"plugged", false, false, true, []⟩, .connect ⟨1⟩ ⟨2⟩]).Accessible ⟨1⟩ :=
  (Reachable.walks_to_iff ⟨_, rfl⟩ rfl 10 Point.origin).mp
    ⟨[.into, .into, .next, .into, .into, .next], _, rfl, rfl⟩

end Workspace

end BlockCursor
