import BlockCursor.Navigation.Row
import BlockCursor.Proofs.Workspace.Owned

/-!
# Steps within a block

The steps inside a block are written with searches that start at a field or an input of a row.  In
a workspace whose owners are in order, an entry of a row cuts the row in two, and each search is a
search of one of the two parts.

* `Owned.inputsAfter_eq`, `Owned.inputsBefore_eq`, `Owned.editableAfter?_eq`,
  `Owned.editableBefore?_eq` — the parts of a row on either side.
* `enterForward?_eq_head?`, `enterBackward?_eq_getLast?` — an input is entered at the first or at
  the last of its stops.
* **`Owned.stop_of_afterSocket`**, **`Owned.stop_of_beforeSocket`**, **`stop_of_afterField`**,
  **`Owned.stop_of_beforeField`** — where a step arrives: at a stop of which input of the same
  block.
-/

namespace BlockCursor.Workspace

variable {ws : Workspace} {b : BlockId} {i j : InputId} {c s : ConnectionId} {f : FieldId}
  {n : Node}

/-! ## Around one entry -/

section Around

variable {α : Type} {x : α} {pre post : List α}

lemma not_mem_of_nodup_append (h : (pre ++ x :: post).Nodup) : x ∉ pre :=
  fun hx => (List.nodup_append.mp h).2.2 x hx x List.mem_cons_self rfl

variable [DecidableEq α]

lemma dropWhile_ne_append (hx : x ∉ pre) :
    ((pre ++ x :: post).dropWhile (· != x)).drop 1 = post := by
  have hpre : ∀ y ∈ pre, (y != x) = true := fun y hy => bne_iff_ne.mpr fun e => hx (e ▸ hy)
  rw [List.dropWhile_append_of_pos hpre, List.dropWhile_cons_of_neg (by simp)]
  rfl

lemma takeWhile_ne_append (hx : x ∉ pre) : (pre ++ x :: post).takeWhile (· != x) = pre := by
  have hpre : ∀ y ∈ pre, (y != x) = true := fun y hy => bne_iff_ne.mpr fun e => hx (e ▸ hy)
  rw [List.takeWhile_append_of_pos hpre, List.takeWhile_cons_of_neg (by simp), List.append_nil]

/-- An entry stands in one place of a row. -/
lemma before_unique {row pre' post' : List α} (hnodup : row.Nodup) (h : row = pre ++ x :: post)
    (h' : row = pre' ++ x :: post') : pre = pre' := by
  have hpre : (pre ++ x :: post).takeWhile (· != x) = pre :=
    takeWhile_ne_append (not_mem_of_nodup_append (h ▸ hnodup))
  have hpre' : (pre' ++ x :: post').takeWhile (· != x) = pre' :=
    takeWhile_ne_append (not_mem_of_nodup_append (h' ▸ hnodup))
  rw [← hpre, ← hpre', ← h, ← h']

end Around

namespace Owned

variable (h : ws.Owned)
include h

lemma exists_inputs_around (hi : ws.inputBlock? i = some b) :
    ∃ pre post, ws.inputsOf b = pre ++ i :: post :=
  List.append_of_mem ((h.input_iff b i).mpr hi)

lemma exists_fields_around (hf : ws.fieldInput? f = some i) :
    ∃ pre post, ws.fieldsOf i = pre ++ f :: post :=
  List.append_of_mem ((h.field_iff i f).mpr hf)

lemma inputBlock_of_row {pre post : List InputId} (hrow : ws.inputsOf b = pre ++ i :: post) :
    ws.inputBlock? i = some b := by
  rw [← h.input_iff, hrow]
  exact List.mem_append_right _ List.mem_cons_self

lemma inputsAfter_eq {pre post : List InputId} (hrow : ws.inputsOf b = pre ++ i :: post) :
    ws.inputsAfter i = post := by
  have hpre : i ∉ pre := not_mem_of_nodup_append (hrow ▸ h.inputs_nodup b)
  rw [inputsAfter, h.inputBlock_of_row hrow]
  simp only [hrow]
  exact dropWhile_ne_append hpre

lemma inputsBefore_eq {pre post : List InputId} (hrow : ws.inputsOf b = pre ++ i :: post) :
    ws.inputsBefore i = pre.reverse := by
  have hpre : i ∉ pre := not_mem_of_nodup_append (hrow ▸ h.inputs_nodup b)
  rw [inputsBefore, h.inputBlock_of_row hrow]
  simp only [hrow]
  rw [takeWhile_ne_append hpre, if_pos (by simp)]

lemma editableAfter?_eq {pre post : List FieldId} (hrow : ws.fieldsOf i = pre ++ f :: post) :
    ws.editableAfter? i f = post.find? ws.isEditable := by
  have hpre : f ∉ pre := not_mem_of_nodup_append (hrow ▸ h.fields_nodup i)
  rw [editableAfter?, hrow, dropWhile_ne_append hpre]

lemma editableBefore?_eq {pre post : List FieldId} (hrow : ws.fieldsOf i = pre ++ f :: post) :
    ws.editableBefore? i f = pre.reverse.find? ws.isEditable := by
  have hpre : f ∉ pre := not_mem_of_nodup_append (hrow ▸ h.fields_nodup i)
  rw [editableBefore?, hrow, takeWhile_ne_append hpre, if_pos (by simp)]

end Owned

/-! ## Entering an input -/

/-- The stops of an input are its editable fields and its socket. -/
lemma mem_inputStops_iff : n ∈ ws.inputStops i ↔
    (∃ f ∈ ws.fieldsOf i, ws.isEditable f = true ∧ n = .field f) ∨
      ∃ s, ws.socket? i = some s ∧ n = .input s := by
  simp [inputStops, List.mem_filter, and_assoc, eq_comm (a := n)]

lemma field_mem_inputStops (hf : f ∈ ws.fieldsOf i) (hedit : ws.isEditable f = true) :
    Node.field f ∈ ws.inputStops i :=
  mem_inputStops_iff.mpr (Or.inl ⟨f, hf, hedit, rfl⟩)

lemma input_mem_inputStops (hs : ws.socket? i = some s) : Node.input s ∈ ws.inputStops i :=
  mem_inputStops_iff.mpr (Or.inr ⟨s, hs, rfl⟩)

/-- Going forward an input is entered at its first stop. -/
lemma enterForward?_eq_head? (ws : Workspace) (i : InputId) :
    ws.enterForward? i = (ws.inputStops i).head? := by
  rw [enterForward?, firstEditable?, inputStops, List.head?_append, List.head?_map,
    List.head?_filter, List.head?_map, Option.head?_toList]

/-- Going back an input is entered at its last stop. -/
lemma enterBackward?_eq_getLast? (ws : Workspace) (i : InputId) :
    ws.enterBackward? i = (ws.inputStops i).getLast? := by
  have hlast : ((ws.socket? i).toList.map Node.input).getLast? = (ws.socket? i).map Node.input := by
    cases ws.socket? i <;> rfl
  rw [enterBackward?, lastEditable?, inputStops, List.getLast?_append, hlast, List.getLast?_map,
    ← List.head?_reverse, ← List.filter_reverse, List.head?_filter]

lemma mem_of_enterForward (hn : ws.enterForward? i = some n) : n ∈ ws.inputStops i := by
  rw [enterForward?_eq_head?] at hn
  exact List.mem_of_head? hn

lemma mem_of_enterBackward (hn : ws.enterBackward? i = some n) : n ∈ ws.inputStops i := by
  rw [enterBackward?_eq_getLast?] at hn
  exact List.mem_of_getLast? hn

/-- An input is passed over just when it has no stop. -/
lemma enterForward?_eq_none_iff : ws.enterForward? i = none ↔ ws.inputStops i = [] := by
  rw [enterForward?_eq_head?, List.head?_eq_none_iff]

/-! ## Where a step arrives -/

lemma lastEditable?_mem (hf : ws.lastEditable? i = some f) : .field f ∈ ws.inputStops i :=
  field_mem_inputStops (List.mem_reverse.mp (List.mem_of_find?_eq_some hf))
    (List.find?_some hf)

namespace Owned

variable (h : ws.Owned)
include h

/-- **After a socket** comes the first stop of the next input that has any. -/
theorem stop_of_afterSocket (hc : ws.place? c = some (b, .socket i))
    (hn : ws.afterSocket? c = some n) : ∃ pre mid j post,
      ws.inputsOf b = pre ++ i :: mid ++ j :: post ∧ (∀ k ∈ mid, ws.inputStops k = []) ∧
        n ∈ ws.inputStops j := by
  obtain ⟨pre, after, hrow⟩ := List.append_of_mem (h.socket_of_place hc).1
  rw [afterSocket?, parentInput?_eq_some_iff.mpr ⟨b, hc⟩, Option.bind_some,
    h.inputsAfter_eq hrow, List.findSome?_eq_some_iff] at hn
  obtain ⟨mid, j, post, rfl, hj, hmid⟩ := hn
  refine ⟨pre, mid, j, post, by rw [hrow]; simp, fun k hk => ?_, mem_of_enterForward hj⟩
  exact enterForward?_eq_none_iff.mp (hmid k hk)

/-- **Before a socket** comes a field of its own row, or the last stop of an input before. -/
theorem stop_of_beforeSocket (hc : ws.place? c = some (b, .socket i))
    (hn : ws.beforeSocket? c = some n) : n ∈ ws.inputStops i ∨
      ∃ pre j mid post, ws.inputsOf b = pre ++ j :: mid ++ i :: post ∧ n ∈ ws.inputStops j := by
  obtain ⟨pre, post, hrow⟩ := List.append_of_mem (h.socket_of_place hc).1
  rw [beforeSocket?, parentInput?_eq_some_iff.mpr ⟨b, hc⟩, Option.bind_some,
    h.inputsBefore_eq hrow] at hn
  rcases Option.or_eq_some_iff.mp hn with hn | ⟨-, hn⟩
  · obtain ⟨f, hf, rfl⟩ := Option.map_eq_some_iff.mp hn
    exact Or.inl (lastEditable?_mem hf)
  · obtain ⟨j, hj, hjn⟩ := List.exists_of_findSome?_eq_some hn
    obtain ⟨before, mid, rfl⟩ := List.append_of_mem (List.mem_reverse.mp hj)
    exact Or.inr ⟨before, j, mid, post, hrow, mem_of_enterBackward hjn⟩

/-- **Before a field** comes a field of its own row, or the socket of the input just before. -/
theorem stop_of_beforeField (hf : ws.fieldInput? f = some i) (hi : ws.inputBlock? i = some b)
    (hn : ws.beforeField? f = some n) : n ∈ ws.inputStops i ∨
      ∃ pre j post, ws.inputsOf b = pre ++ j :: i :: post ∧ n ∈ ws.inputStops j := by
  obtain ⟨fpre, fpost, hfrow⟩ := h.exists_fields_around hf
  obtain ⟨pre, post, hrow⟩ := h.exists_inputs_around hi
  rw [beforeField?, hf, Option.bind_some, h.editableBefore?_eq hfrow,
    h.inputsBefore_eq hrow] at hn
  rcases Option.or_eq_some_iff.mp hn with hn | ⟨-, hn⟩
  · obtain ⟨g, hg, rfl⟩ := Option.map_eq_some_iff.mp hn
    refine Or.inl (field_mem_inputStops ?_ (List.find?_some hg))
    rw [hfrow]
    exact List.mem_append_left _ (List.mem_reverse.mp (List.mem_of_find?_eq_some hg))
  · obtain ⟨j, hj, hn⟩ := Option.bind_eq_some_iff.mp hn
    obtain ⟨s, hs, rfl⟩ := Option.map_eq_some_iff.mp hn
    rw [List.head?_reverse] at hj
    obtain ⟨before, rfl⟩ := List.getLast?_eq_some_iff.mp hj
    exact Or.inr ⟨before, j, post, by rw [hrow]; simp, input_mem_inputStops hs⟩

/-- **After a field** comes a stop of the same input. -/
theorem stop_of_afterField (hf : ws.fieldInput? f = some i)
    (hn : ws.afterField? f = some n) : n ∈ ws.inputStops i := by
  obtain ⟨pre, post, hrow⟩ := h.exists_fields_around hf
  rw [afterField?, hf, Option.bind_some, h.editableAfter?_eq hrow] at hn
  rcases Option.or_eq_some_iff.mp hn with hn | ⟨-, hn⟩
  · obtain ⟨g, hg, rfl⟩ := Option.map_eq_some_iff.mp hn
    refine field_mem_inputStops ?_ (List.find?_some hg)
    rw [hrow]
    exact List.mem_append_right _ (List.mem_cons_of_mem _ (List.mem_of_find?_eq_some hg))
  · obtain ⟨s, hs, rfl⟩ := Option.map_eq_some_iff.mp hn
    exact input_mem_inputStops hs

end Owned

end BlockCursor.Workspace
