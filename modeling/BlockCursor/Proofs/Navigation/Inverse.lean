import BlockCursor.Proofs.Navigation.Order
import BlockCursor.Proofs.Workspace.Consistency

/-!
# Next and prev undo each other

Each way to go next is paired off with a way to go back: around the ring of stacks, from one
connection of a block to another, across a link, and along the row of stops inside a block.  Three
pairs are missing.

* `Workspace.LeapsToField` — next goes from a socket to a field past an input without a stop; prev
  looks for a socket just before the field's input alone, and stays.
* `Workspace.HeldBySocket` — prev goes from the first block of a chain in a statement socket to the
  next connection of the block around it, and next from there does not lead into the socket.
* `Workspace.LeapsFromField` — prev goes from a socket to a field of an earlier input; next does not
  leave that input, and stays.

**`Reachable.next_prev_undo`** says that there are no others.
-/

namespace BlockCursor

open Workspace

/-- A node that is no point, with a top for a stack, an editable field for a field, and a connection
of the node's own kind. -/
def Node.Natural (ws : Workspace) : Node → Prop
  | .workspace _ => False
  | .stack b => b ∈ ws.tops
  | .block b => ws.hasBlock b = true
  | .field f => ws.isEditable f = true
  | .output c => ws.kind? c = some .output
  | .previous c => ws.kind? c = some .previous
  | .next c => ws.kind? c = some .next
  | .input c => ws.kind? c = some .input

namespace Workspace

variable {ws : Workspace} {step : Float} {x y n : Node} {a b : BlockId} {c d : ConnectionId}
  {i j : InputId} {f : FieldId} {k l : ℕ}

/-! ## The exceptions -/

/-- Two inputs are the ones at two places, counted from zero, in the row of one block. -/
def Standing (ws : Workspace) (i j : InputId) (k l : ℕ) : Prop :=
  ∃ b, (ws.inputsOf b)[k]? = some i ∧ (ws.inputsOf b)[l]? = some j

/-- From a socket to a field of an input behind the following one. -/
def LeapsToField (ws : Workspace) (x y : Node) : Prop :=
  ∃ c f i j k l, x = .input c ∧ y = .field f ∧ ws.parentInput? c = some i ∧
    ws.fieldInput? f = some j ∧ ws.Standing i j k l ∧ k + 1 < l

/-- From a field of an input without a socket to the socket of a later input. -/
def LeapsFromField (ws : Workspace) (x y : Node) : Prop :=
  ∃ f c i j k l, x = .field f ∧ y = .input c ∧ ws.fieldInput? f = some i ∧
    ws.parentInput? c = some j ∧ ws.Standing i j k l ∧ k < l ∧ ws.socket? i = none

/-- At the previous connection of a block that hangs from a statement socket of the block `a`. -/
def HeldBySocket (ws : Workspace) (y : Node) (a : BlockId) : Prop :=
  ∃ c s i, y = .previous c ∧ ws.target? c = some s ∧ ws.parentInput? s = some i ∧
    ws.inputKind? i = some .statement ∧ ws.owner? s = some a

/-! ## Places in a row -/

lemma place_unique {α : Type} {row : List α} {u : α} (hnodup : row.Nodup)
    (hk : row[k]? = some u) (hl : row[l]? = some u) : k = l :=
  (List.getElem?_inj (List.getElem?_eq_some_iff.mp hk).1 hnodup).mp (hk.trans hl.symm)

lemma standing_of_row {pre mid post : List InputId}
    (hrow : ws.inputsOf b = pre ++ i :: mid ++ j :: post) :
    ws.Standing i j pre.length (pre.length + 1 + mid.length) := by
  refine ⟨b, ?_, ?_⟩
  · rw [hrow]
    simp
  · rw [hrow, List.getElem?_append_right (by simp; omega)]
    simp [show pre.length + 1 + mid.length - (pre.length + (mid.length + 1)) = 0 by omega]

namespace Owned

variable (h : ws.Owned)
include h

lemma ne_of_standing (hij : ws.Standing i j k l) (hkl : k < l) : i ≠ j := by
  rintro rfl
  obtain ⟨b, hi, hj⟩ := hij
  have := place_unique (h.inputs_nodup b) hi hj
  omega

/-- Inputs with another between them are not neighbours. -/
lemma not_pair_of_standing (hij : ws.Standing i j k l) (hkl : k + 1 < l) :
    ¬ [i, j] <:+: ws.inputsOf b := by
  rintro ⟨s, t, hst⟩
  obtain ⟨b', hi, hj⟩ := hij
  have hmem : i ∈ ws.inputsOf b := by
    rw [← hst]
    simp
  have hmem' := List.mem_of_getElem? hi
  rw [h.input_iff] at hmem hmem'
  obtain rfl : b = b' := Option.some.inj (hmem.symm.trans hmem')
  have hs : (ws.inputsOf b)[s.length]? = some i := by
    rw [← hst]
    simp
  have ht : (ws.inputsOf b)[s.length + 1]? = some j := by
    rw [← hst]
    simp
  have hk := place_unique (h.inputs_nodup b) hi hs
  have hl := place_unique (h.inputs_nodup b) hj ht
  omega

/-! ## Within a block -/

/-- From the field that comes after a socket, prev goes back unless it is too far. -/
lemma beforeField_of_afterSocket (hc : ws.place? c = some (b, .socket i))
    (hedit : ws.isEditable f = true) (hn : ws.afterSocket? c = some (.field f))
    (hleap : ¬ ws.LeapsToField (.input c) (.field f)) :
    ws.beforeField? f = some (.input c) := by
  obtain ⟨pre, mid, j, post, hrow, -, hmem⟩ := h.stop_of_afterSocket hc hn
  have hj : ws.inputBlock? j = some b := h.inputBlock_of_row hrow
  have hf : ws.fieldInput? f = some j := h.stopInput_of_mem hmem
  rw [h.beforeField_iff hedit hf hj]
  refine ⟨(h.afterSocket_iff hc).mp hn, Or.inr ⟨i, c, ?_, (h.socket_of_place hc).2, rfl⟩⟩
  cases mid with
  | nil => exact ⟨pre, post, by simp [hrow]⟩
  | cons u mid =>
      refine absurd ?_ hleap
      exact ⟨c, f, i, j, _, _, rfl, rfl, parentInput?_eq_some_iff.mpr ⟨b, hc⟩, hf,
        standing_of_row hrow, by simp⟩

/-- Past an input without a stop prev does not find the way back. -/
lemma beforeField_of_leap (hc : ws.place? c = some (b, .socket i))
    (hedit : ws.isEditable f = true) (hn : ws.afterSocket? c = some (.field f))
    (hleap : ws.LeapsToField (.input c) (.field f)) : ws.beforeField? f = none := by
  obtain ⟨_, _, i', j, k, l, rfl', rfl'', hi', hf, hij, hkl⟩ := hleap
  cases rfl'
  cases rfl''
  obtain rfl : i' = i :=
    Option.some.inj (hi'.symm.trans (parentInput?_eq_some_iff.mpr ⟨b, hc⟩))
  have hpair := (h.afterSocket_iff hc).mp hn
  obtain ⟨pre, mid, j', post, hrow, -, hmem⟩ := h.stop_of_afterSocket hc hn
  obtain rfl : j' = j := Option.some.inj ((h.stopInput_of_mem hmem).symm.trans hf)
  rw [Option.eq_none_iff_forall_ne_some]
  intro n hback
  obtain ⟨hpair', hplace⟩ :=
    (h.beforeField_iff hedit hf (h.inputBlock_of_row hrow)).mp hback
  obtain rfl := left_unique (h.stops_nodup b) hpair' hpair
  rcases hplace with hmem' | ⟨u, s, hu, hs, hcs⟩
  · exact h.ne_of_standing hij (by omega) (Option.some.inj (hi'.symm.trans
      (h.stopInput_of_mem hmem')))
  · cases hcs
    obtain ⟨_, -, hplace⟩ := h.place_of_socket hs
    rw [hc] at hplace
    cases hplace
    exact h.not_pair_of_standing hij hkl hu

/-- From the field that comes before a socket, next goes on unless it would leave its input. -/
lemma afterField_of_beforeSocket (hc : ws.place? c = some (b, .socket j))
    (hedit : ws.isEditable f = true) (hn : ws.beforeSocket? c = some (.field f))
    (hleap : ¬ ws.LeapsFromField (.field f) (.input c)) :
    ws.afterField? f = some (.input c) := by
  have hpair := (h.beforeSocket_iff hc).mp hn
  obtain ⟨hj, hsocket⟩ := h.socket_of_place hc
  rcases h.stop_of_beforeSocket hc hn with hmem | ⟨pre, i, mid, post, hrow, hmem⟩
  · rw [h.afterField_iff hedit (h.stopInput_of_mem hmem) ((h.input_iff b j).mp hj)]
    exact ⟨hpair, input_mem_inputStops hsocket⟩
  · have hi : ws.inputBlock? i = some b := by
      rw [← h.input_iff, hrow]
      simp
    have hf : ws.fieldInput? f = some i := h.stopInput_of_mem hmem
    have hstanding := standing_of_row hrow
    cases hs : ws.socket? i with
    | none =>
        refine absurd ?_ hleap
        exact ⟨f, c, i, j, _, _, rfl, rfl, hf, parentInput?_eq_some_iff.mpr ⟨b, hc⟩, hstanding,
          by omega, hs⟩
    | some s =>
        -- with a socket of its own the input of the field would have a stop between the two
        have hsome : ws.afterField? f ≠ none := by
          rw [afterField?, hf, Option.bind_some, hs]
          simp
        obtain ⟨n, hn'⟩ := Option.ne_none_iff_exists'.mp hsome
        obtain ⟨hpair', hmem'⟩ := (h.afterField_iff hedit hf hi).mp hn'
        obtain rfl := right_unique (h.stops_nodup b) hpair' hpair
        exact hn'

/-- Next does not leave the input of a field. -/
lemma afterField_of_leap (hc : ws.place? c = some (b, .socket j))
    (hedit : ws.isEditable f = true) (hn : ws.beforeSocket? c = some (.field f))
    (hleap : ws.LeapsFromField (.field f) (.input c)) : ws.afterField? f = none := by
  obtain ⟨_, _, i, j', k, l, hfield, hinput, hf, hj', hij, hkl, -⟩ := hleap
  cases hfield
  cases hinput
  obtain rfl : j' = j :=
    Option.some.inj (hj'.symm.trans (parentInput?_eq_some_iff.mpr ⟨b, hc⟩))
  have hi : ws.inputBlock? i = some b := by
    obtain ⟨u, hiu, hju⟩ := hij
    have hi := (h.input_iff u i).mp (List.mem_of_getElem? hiu)
    have hj := (h.input_iff u j').mp (List.mem_of_getElem? hju)
    have hjb := (h.input_iff b j').mp (h.socket_of_place hc).1
    rw [hi, ← hj, hjb]
  rw [Option.eq_none_iff_forall_ne_some]
  intro n hnext
  obtain ⟨hpair, hmem⟩ := (h.afterField_iff hedit hf hi).mp hnext
  obtain rfl := right_unique (h.stops_nodup b) hpair ((h.beforeSocket_iff hc).mp hn)
  exact h.ne_of_standing hij hkl (Option.some.inj ((h.stopInput_of_mem hmem).symm.trans hj'))

end Owned

/-! ## Around the ring -/

lemma ring_prev_next {n : ℕ} (hk : k < n) : ((k + 1) % n + n - 1) % n = k := by
  rcases Nat.lt_or_ge (k + 1) n with hlt | hge
  · rw [Nat.mod_eq_of_lt hlt, show k + 1 + n - 1 = k + n by omega, Nat.add_mod_right,
      Nat.mod_eq_of_lt hk]
  · obtain rfl : n = k + 1 := by omega
    simp

lemma ring_next_prev {n : ℕ} (hk : k < n) : ((k + n - 1) % n + 1) % n = k := by
  cases k with
  | zero =>
      rw [Nat.zero_add, Nat.mod_eq_of_lt (show n - 1 < n by omega),
        show n - 1 + 1 = n by omega, Nat.mod_self]
  | succ k =>
      rw [show k + 1 + n - 1 = k + n by omega, Nat.add_mod_right,
        Nat.mod_eq_of_lt (show k < n by omega), Nat.mod_eq_of_lt hk]

/-- On a ring without repeats one step and one step the other way lead back. -/
lemma ringBeside_back {ring : List BlockId} (hnodup : ring.Nodup) (forward : Bool)
    (ha : ring.idxOf? a = some k) (hb : ringBeside ring k forward = some b) :
    ∃ m, ring.idxOf? b = some m ∧ ringBeside ring m (!forward) = some a := by
  obtain ⟨hk, hka, -⟩ := List.idxOf?_eq_some_iff.mp ha
  obtain ⟨hm, hmb⟩ := List.getElem?_eq_some_iff.mp hb
  refine ⟨_, List.idxOf?_eq_some_iff.mpr ⟨hm, hmb, fun j hj hjb => ?_⟩, ?_⟩
  · have hsame := hnodup.getElem_inj_iff.mp (hjb.trans hmb.symm)
    omega
  · refine List.getElem?_eq_some_iff.mpr ⟨?_, ?_⟩
    · exact Nat.mod_lt _ (by omega)
    · cases forward with
      | true => simp only [Bool.not_true, Bool.false_eq_true, if_false, if_true,
          ring_prev_next hk, hka]
      | false => simp only [Bool.not_false, Bool.false_eq_true, if_false, if_true,
          ring_next_prev hk, hka]

/-! ## One move and the opposite one -/

lemma topNode?_of_previous (hc : ws.previous? b = some c) :
    ws.topNode? b = some (.previous c) :=
  topNode?_eq_some_iff.mpr (Or.inl ⟨c, hc, rfl⟩)

/-- What hangs from a next connection hangs by a previous connection. -/
lemma Linked.place_of_next_target (h : ws.Linked) (hc : ws.place? c = some (a, .next))
    (hcd : ws.target? c = some d) :
    ∃ b, ws.place? d = some (b, .previous) ∧ ws.target? d = some c := by
  obtain ⟨b, s, hd, hfit, hdc⟩ := h.lower_of_upper hc rfl hcd
  rcases roleFits_iff.mp hfit with ⟨-, rfl⟩ | ⟨i, hr, -⟩ | ⟨i, hr, -⟩
  · exact ⟨b, hd, hdc⟩
  · cases hr
  · cases hr

/-- **Prev undoes next**, unless next leaps to a field. -/
lemma Leads.prev_of_next (h : ws.Forest) (hx : x.Natural ws) (hy : y.Natural ws)
    (hmove : ws.Leads step x .next y) (hleap : ¬ ws.LeapsToField x y) :
    ws.Leads step y .prev x := by
  cases hmove with
  | shiftRight p => cases hx
  | following ht hi hb =>
      obtain rfl := Option.some.inj ((h.root_of_mem_tops hx).symm.trans ht)
      obtain ⟨m, hm, hback⟩ := ringBeside_back h.tops_nodup true hi hb
      exact .preceding (h.root_of_mem_tops hy) hm hback
  | outputNext hb =>
      obtain ⟨u, hc⟩ := exists_place_of_own (r := .output) rfl hx
      obtain rfl := Option.some.inj ((owner?_of_place hc).symm.trans hb)
      exact .blockOutput (h.output_of_place hc)
  | previousOutput hb hd =>
      obtain ⟨u, hc⟩ := exists_place_of_own (r := .previous) rfl hx
      obtain rfl := Option.some.inj ((owner?_of_place hc).symm.trans hb)
      exact .outputPrev (owner?_of_place (h.place_of_output hd)) (h.previous_of_place hc)
  | previousBlock hb hnone =>
      obtain ⟨u, hc⟩ := exists_place_of_own (r := .previous) rfl hx
      obtain rfl := Option.some.inj ((owner?_of_place hc).symm.trans hb)
      exact .blockPrevious hnone (h.previous_of_place hc)
  | nextNext hb hn =>
      obtain ⟨a, hc⟩ := exists_place_of_own (r := .next) rfl hx
      obtain ⟨d, hcd, hd⟩ := Option.bind_eq_some_iff.mp hb
      obtain ⟨u, hplace, hdc⟩ := h.place_of_next_target hc hcd
      obtain rfl := Option.some.inj ((owner?_of_place hplace).symm.trans hd)
      obtain rfl := Option.some.inj
        ((topNode?_of_previous (h.previous_of_place hplace)).symm.trans hn)
      refine .previousPrev (a := a) ?_ (h.next_of_place hc)
      rw [targetBlock?, hdc, Option.bind_some, owner?_of_place hc]
  | blockNext hc => exact .nextPrev (owner?_of_place (h.place_of_next hc))
  | @fieldNext f n hn =>
      obtain ⟨i, hf, -⟩ := Option.bind_eq_some_iff.mp hn
      obtain ⟨b, hi⟩ := h.exists_inputBlock_of_fieldInput hf
      obtain ⟨hpair, hmem⟩ := (h.afterField_iff hx hf hi).mp hn
      have hstop : Node.field f ∈ ws.inputStops i :=
        field_mem_inputStops ((h.field_iff i f).mpr hf) hx
      rcases h.mem_stops_cases (mem_of_neighbours hpair).2 with
        ⟨g, j, rfl, hedit, hg, -⟩ | ⟨c, j, rfl, hplace⟩
      · obtain rfl : i = j := Option.some.inj ((h.stopInput_of_mem hmem).symm.trans hg)
        exact .fieldPrev ((h.beforeField_iff hedit hg hi).mpr ⟨hpair, Or.inl hstop⟩)
      · exact .inputPrev ((h.beforeSocket_iff hplace).mpr hpair)
  | @inputNext c n hn =>
      obtain ⟨b, i, hc⟩ := exists_place_of_input hx
      have hpair := (h.afterSocket_iff hc).mp hn
      rcases h.mem_stops_cases (mem_of_neighbours hpair).2 with
        ⟨f, j, rfl, hedit, -, -⟩ | ⟨d, j, rfl, hplace⟩
      · exact .fieldPrev (h.beforeField_of_afterSocket hc hedit hn hleap)
      · exact .inputPrev ((h.beforeSocket_iff hplace).mpr hpair)

/-- **Next undoes prev**, unless prev leaps from a field or leaves a statement socket. -/
lemma Leads.next_of_prev (h : ws.Forest) (hx : x.Natural ws) (hy : y.Natural ws)
    (hmove : ws.Leads step y .prev x) (hheld : ∀ a, ¬ ws.HeldBySocket y a)
    (hleap : ¬ ws.LeapsFromField x y) : ws.Leads step x .next y := by
  cases hmove with
  | shiftLeft p => cases hy
  | preceding ht hi hb =>
      obtain rfl := Option.some.inj ((h.root_of_mem_tops hy).symm.trans ht)
      obtain ⟨m, hm, hback⟩ := ringBeside_back h.tops_nodup false hi hb
      exact .following (h.root_of_mem_tops hx) hm hback
  | outputPrev hb hd =>
      obtain ⟨u, hc⟩ := exists_place_of_own (r := .output) rfl hy
      obtain rfl := Option.some.inj ((owner?_of_place hc).symm.trans hb)
      exact .previousOutput (owner?_of_place (h.place_of_previous hd)) (h.output_of_place hc)
  | @previousPrev c a d ha hd =>
      obtain ⟨b, hc⟩ := exists_place_of_own (r := .previous) rfl hy
      obtain ⟨p, hcp, hpa⟩ := Option.bind_eq_some_iff.mp ha
      have hhangs : ws.hangsFrom? b = some p := by
        rw [hangsFrom?, h.previous_of_place hc, Option.bind_some, hcp]
      obtain ⟨u, -, hplace | ⟨i, hplace, hi⟩⟩ := h.place_of_hangsFrom hhangs
      · obtain rfl := Option.some.inj ((owner?_of_place hplace).symm.trans hpa)
        obtain rfl := Option.some.inj ((h.next_of_place hplace).symm.trans hd)
        refine .nextNext (b := b) ?_ (topNode?_of_previous (h.previous_of_place hc))
        rw [targetBlock?, h.symm c p hcp, Option.bind_some, owner?_of_place hc]
      · exact absurd ⟨c, p, i, rfl, hcp, parentInput?_eq_some_iff.mpr ⟨u, hplace⟩, hi, hpa⟩
          (hheld a)
  | nextPrev hb =>
      obtain ⟨u, hc⟩ := exists_place_of_own (r := .next) rfl hy
      obtain rfl := Option.some.inj ((owner?_of_place hc).symm.trans hb)
      exact .blockNext (h.next_of_place hc)
  | blockOutput hc => exact .outputNext (owner?_of_place (h.place_of_output hc))
  | blockPrevious hnone hc =>
      exact .previousBlock (owner?_of_place (h.place_of_previous hc)) hnone
  | @fieldPrev f n hn =>
      obtain ⟨i, hf, -⟩ := Option.bind_eq_some_iff.mp hn
      obtain ⟨b, hi⟩ := h.exists_inputBlock_of_fieldInput hf
      obtain ⟨hpair, hnear⟩ := (h.beforeField_iff hy hf hi).mp hn
      rcases h.mem_stops_cases (mem_of_neighbours hpair).1 with
        ⟨g, j, rfl, hedit, hg, hj⟩ | ⟨c, j, rfl, hplace⟩
      · refine .fieldNext ((h.afterField_iff hedit hg hj).mpr ⟨hpair, ?_⟩)
        rcases hnear with hmem | ⟨_, _, _, _, hinput⟩
        · obtain rfl : i = j := Option.some.inj ((h.stopInput_of_mem hmem).symm.trans hg)
          exact field_mem_inputStops ((h.field_iff i f).mpr hf) hy
        · cases hinput
      · exact .inputNext ((h.afterSocket_iff hplace).mpr hpair)
  | @inputPrev c n hn =>
      obtain ⟨b, j, hc⟩ := exists_place_of_input hy
      have hpair := (h.beforeSocket_iff hc).mp hn
      rcases h.mem_stops_cases (mem_of_neighbours hpair).1 with
        ⟨f, i, rfl, hedit, -, -⟩ | ⟨d, i, rfl, hplace⟩
      · exact .fieldNext (h.afterField_of_beforeSocket hc hedit hn hleap)
      · exact .inputNext ((h.afterSocket_iff hplace).mpr hpair)

/-! ## The exceptions -/

/-- Out of a statement socket prev leads to the next connection of the block around it. -/
lemma Leads.eq_next_of_held (hmove : ws.Leads step y .prev x) (hheld : ws.HeldBySocket y a) :
    ∃ d, ws.next? a = some d ∧ x = .next d := by
  obtain ⟨c, s, i, rfl, hcs, -, -, ha⟩ := hheld
  cases hmove with
  | previousPrev hu hd =>
      rw [targetBlock?, hcs, Option.bind_some, ha] at hu
      cases hu
      exact ⟨_, hd, rfl⟩

/-- Next never leads into a statement socket. -/
lemma Forest.not_leads_of_held (h : ws.Forest) (hx : x.Natural ws) (hheld : ws.HeldBySocket y a) :
    ¬ ws.Leads step x .next y := by
  obtain ⟨c, s, i, rfl, hcs, hs, -, -⟩ := hheld
  obtain ⟨u, hs⟩ := parentInput?_eq_some_iff.mp hs
  intro hmove
  have hstop : ∀ {b}, Node.previous c ∉ ws.stops b := by
    intro b hmem
    rcases h.mem_stops_cases hmem with ⟨f, j, hf, -⟩ | ⟨d, j, hd, -⟩
    · cases hf
    · cases hd
  cases hmove with
  | nextNext hb hn =>
      obtain ⟨v, hd⟩ := exists_place_of_own (r := .next) rfl hx
      obtain ⟨e, hde, he⟩ := Option.bind_eq_some_iff.mp hb
      obtain ⟨b, hplace, hed⟩ := h.place_of_next_target hd hde
      obtain rfl := Option.some.inj ((owner?_of_place hplace).symm.trans he)
      rw [topNode?_of_previous (h.previous_of_place hplace)] at hn
      cases hn
      -- the link of the one previous connection cannot end in two places
      rw [hcs] at hed
      cases hed
      rw [hd] at hs
      cases hs
  | @fieldNext f n hn =>
      obtain ⟨j, hf, -⟩ := Option.bind_eq_some_iff.mp hn
      obtain ⟨b, hj⟩ := h.exists_inputBlock_of_fieldInput hf
      exact hstop (mem_of_neighbours ((h.afterField_iff hx hf hj).mp hn).1).2
  | @inputNext d n hn =>
      obtain ⟨b, j, hd⟩ := exists_place_of_input hx
      exact hstop (mem_of_neighbours ((h.afterSocket_iff hd).mp hn)).2

end Workspace

lemma Node.Natural.agrees {ws : Workspace} {n : Node} (h : ws.Forest) (hn : n.Natural ws) :
    n.Agrees ws := by
  cases n with
  | workspace p => trivial
  | stack b => exact h.hasBlock_of_mem_tops hn
  | field f => exact hasField_of_isEditable hn
  | next c => exact Or.inl hn
  | _ => exact hn

lemma Node.Natural.isLive {ws : Workspace} {n : Node} (h : ws.Forest) (hn : n.Natural ws) :
    n.isLive ws = true :=
  (hn.agrees h).isLive

namespace Workspace

variable {ws : Workspace} {x y : Node}

/-- **Next and prev undo each other**, with three exceptions: past an input without a stop to a
field, out of a statement socket, and from a field whose input has no socket.  Where an exception
says so the cursor stays; out of a statement socket it comes from the next connection of the block
around. -/
theorem Reachable.next_prev_undo (h : ws.Reachable) (step : Float) (hx : x.Natural ws)
    (hy : y.Natural ws) :
    ((Navigator.ofWorkspace ws step).navigate x .next = .ok (some y) →
      (¬ ws.LeapsToField x y →
        (Navigator.ofWorkspace ws step).navigate y .prev = .ok (some x)) ∧
      (ws.LeapsToField x y → (Navigator.ofWorkspace ws step).navigate y .prev = .ok none)) ∧
    ((Navigator.ofWorkspace ws step).navigate y .prev = .ok (some x) →
      ((∀ a, ¬ ws.HeldBySocket y a) → ¬ ws.LeapsFromField x y →
        (Navigator.ofWorkspace ws step).navigate x .next = .ok (some y)) ∧
      (∀ a, ws.HeldBySocket y a → (∃ d, ws.next? a = some d ∧ x = .next d) ∧
        (Navigator.ofWorkspace ws step).navigate x .next ≠ .ok (some y)) ∧
      (ws.LeapsFromField x y →
        (Navigator.ofWorkspace ws step).navigate x .next = .ok none)) := by
  have hforest := h.forest
  have hlive := hx.isLive hforest
  have hlive' := hy.isLive hforest
  constructor
  · intro hnext
    obtain ⟨-, hmove⟩ := Navigator.navigate_eq_some_iff.mp hnext
    constructor
    · intro hleap
      exact Navigator.navigate_of_leads hlive' (hmove.prev_of_next hforest hx hy hleap)
    · rintro hleap
      obtain ⟨c, f, -, -, -, -, rfl, rfl, -⟩ := id hleap
      obtain ⟨b, i, hc⟩ := exists_place_of_input hx
      cases hmove with
      | inputNext hn =>
          rw [Navigator.navigate_of_live hlive']
          exact congrArg Except.ok (hforest.beforeField_of_leap hc hy hn hleap)
  · intro hprev
    obtain ⟨-, hmove⟩ := Navigator.navigate_eq_some_iff.mp hprev
    refine ⟨fun hheld hleap => ?_, fun a hheld => ⟨hmove.eq_next_of_held hheld, fun hnext => ?_⟩,
      fun hleap => ?_⟩
    · exact Navigator.navigate_of_leads hlive (hmove.next_of_prev hforest hx hy hheld hleap)
    · exact hforest.not_leads_of_held hx hheld (Navigator.navigate_eq_some_iff.mp hnext).2
    · obtain ⟨f, c, -, -, -, -, rfl, rfl, -⟩ := id hleap
      obtain ⟨b, j, hc⟩ := exists_place_of_input hy
      cases hmove with
      | inputPrev hn =>
          rw [Navigator.navigate_of_live hlive]
          exact congrArg Except.ok (hforest.afterField_of_leap hc hx hn hleap)

/-- A block with a value input, a label, a choice and a statement input that holds a block. -/
def leapEdits : List Edit :=
  [.insert ⟨"holder", true, true, false, [⟨"value", .value, []⟩, ⟨"label", .dummy, []⟩,
      ⟨"choice", .dummy, [⟨"option", true⟩]⟩, ⟨"body", .statement, []⟩]⟩,
    .insert ⟨"held", true, false, false, []⟩, .connect ⟨3⟩ ⟨4⟩]

/-- The three exceptions in one block, and a pair of moves that undo each other. -/
theorem undo_around_choice :
    (Navigator.ofWorkspace (applyAll empty leapEdits)).navigate (.field ⟨0⟩) .prev = .ok none ∧
    (Navigator.ofWorkspace (applyAll empty leapEdits)).navigate (.field ⟨0⟩) .next = .ok none ∧
    (Navigator.ofWorkspace (applyAll empty leapEdits)).navigate (.next ⟨1⟩) .next ≠
      .ok (some (.previous ⟨4⟩)) ∧
    (Navigator.ofWorkspace (applyAll empty leapEdits)).navigate (.next ⟨1⟩) .prev =
      .ok (some (.block ⟨0⟩)) := by
  have hreach : (applyAll empty leapEdits).Reachable := ⟨leapEdits, rfl⟩
  refine ⟨?_, ?_, ?_, ?_⟩
  · have hundo := Reachable.next_prev_undo (x := .input ⟨2⟩) (y := .field ⟨0⟩) hreach 10 rfl rfl
    exact (hundo.1 rfl).2
      ⟨⟨2⟩, ⟨0⟩, ⟨0⟩, ⟨2⟩, 0, 2, rfl, rfl, rfl, rfl, ⟨⟨0⟩, rfl, rfl⟩, by decide⟩
  · have hundo := Reachable.next_prev_undo (x := .field ⟨0⟩) (y := .input ⟨3⟩) hreach 10 rfl rfl
    exact (hundo.2 rfl).2.2
      ⟨⟨0⟩, ⟨3⟩, ⟨2⟩, ⟨3⟩, 2, 3, rfl, rfl, rfl, rfl, ⟨⟨0⟩, rfl, rfl⟩, by decide, rfl⟩
  · have hundo := Reachable.next_prev_undo (x := .next ⟨1⟩) (y := .previous ⟨4⟩) hreach 10 rfl rfl
    exact ((hundo.2 rfl).2.1 ⟨0⟩ ⟨⟨4⟩, ⟨3⟩, ⟨3⟩, rfl, rfl, rfl, rfl, rfl⟩).2
  · have hundo := Reachable.next_prev_undo (x := .block ⟨0⟩) (y := .next ⟨1⟩) hreach 10 rfl rfl
    refine (hundo.1 rfl).1 ?_
    rintro ⟨c, _, _, _, _, _, hc, -⟩
    cases hc

end Workspace

end BlockCursor
