import BlockCursor.Proofs.Navigation.Agreement

/-!
# Stops in display order

A block shows the fields and the socket of each of its inputs, in this order; `stops b` is the row
of those where a cursor stops, and the steps inside the block move along it.  A step from a socket
always goes to the neighbour in the row.  A step from a field only does so while it stays in the
input of the field, or, going back, when the neighbour is the socket of the input just before.

That `y` comes right after `x` in a row is written `[x, y] <:+: row`.  Nothing is shown twice
(`Owned.displayed_nodup`), so a stop has one neighbour on either side.

* `Workspace.displayed` — all that a block shows; `filter_displayed` — its stops are what a cursor
  does not pass over.
* **`Owned.afterSocket_eq`**, **`Owned.beforeSocket_eq`** — from a socket; `afterSocket_iff` and
  `beforeSocket_iff` say it of its neighbours.
* **`Owned.afterField_iff_of_displayed`**, **`Owned.beforeField_iff_of_displayed`** — from any
  field; `afterField_iff` and `beforeField_iff` say it of the neighbours of an editable one.
-/

namespace BlockCursor.Workspace

variable {ws : Workspace} {b : BlockId} {i j : InputId} {c : ConnectionId} {f : FieldId}
  {n : Node}

/-! ## Neighbours in a row -/

section Neighbours

variable {α : Type} {row pre post : List α} {x y z : α}

lemma neighbours_iff_head? (h : (pre ++ x :: post).Nodup) :
    [x, y] <:+: pre ++ x :: post ↔ post.head? = some y := by
  classical
  constructor
  · rintro ⟨s, t, hst⟩
    have hrow : pre ++ x :: post = s ++ x :: y :: t := by simpa using hst.symm
    obtain rfl := before_unique h rfl hrow
    obtain rfl : post = y :: t := by simpa using hrow
    rfl
  · intro hy
    obtain ⟨t, rfl⟩ := List.head?_eq_some_iff.mp hy
    exact ⟨pre, t, by simp⟩

lemma neighbours_iff_getLast? (h : (pre ++ x :: post).Nodup) :
    [y, x] <:+: pre ++ x :: post ↔ pre.getLast? = some y := by
  classical
  constructor
  · rintro ⟨s, t, hst⟩
    have hrow : pre ++ x :: post = (s ++ [y]) ++ x :: t := by simpa using hst.symm
    rw [before_unique h rfl hrow, List.getLast?_concat]
  · intro hy
    obtain ⟨s, rfl⟩ := List.getLast?_eq_some_iff.mp hy
    exact ⟨s, post, by simp⟩

/-- What comes after an entry of a row is told by the row. -/
lemma after_unique {pre' post' : List α} (hnodup : row.Nodup) (h : row = pre ++ x :: post)
    (h' : row = pre' ++ x :: post') : post = post' := by
  classical
  obtain rfl := before_unique hnodup h h'
  simpa using h.symm.trans h'

lemma mem_of_neighbours (h : [x, y] <:+: row) : x ∈ row ∧ y ∈ row :=
  ⟨h.subset (by simp), h.subset (by simp)⟩

/-- A row without repeats has one entry after each. -/
lemma right_unique (h : row.Nodup) (hy : [x, y] <:+: row) (hz : [x, z] <:+: row) : y = z := by
  obtain ⟨s, t, rfl⟩ := hy
  have hrow : s ++ [x, y] ++ t = s ++ x :: (y :: t) := by simp
  rw [hrow] at h hz
  exact Option.some.inj ((neighbours_iff_head? h).mp hz)

/-- A row without repeats has one entry before each. -/
lemma left_unique (h : row.Nodup) (hx : [x, z] <:+: row) (hy : [y, z] <:+: row) : x = y := by
  obtain ⟨s, t, rfl⟩ := hx
  have hrow : s ++ [x, z] ++ t = (s ++ [x]) ++ z :: t := by simp
  rw [hrow] at h hy
  have hlast := (neighbours_iff_getLast? h).mp hy
  rw [List.getLast?_concat] at hlast
  exact Option.some.inj hlast

end Neighbours

/-! ## What a block shows -/

/-- The input that a field or a socket is in. -/
def stopInput? (ws : Workspace) : Node → Option InputId
  | .field f => ws.fieldInput? f
  | .input c => ws.parentInput? c
  | _ => none

/-- The fields and the socket of an input, in display order. -/
def inputShown (ws : Workspace) (i : InputId) : List Node :=
  (ws.fieldsOf i).map Node.field ++ (ws.socket? i).toList.map Node.input

/-- The fields and sockets of a block, in display order. -/
def displayed (ws : Workspace) (b : BlockId) : List Node :=
  (ws.inputsOf b).flatMap ws.inputShown

/-- Whether a cursor stops there: it passes over fields that are not editable. -/
def isStop (ws : Workspace) : Node → Bool
  | .field f => ws.isEditable f
  | _ => true

lemma filter_fields (ws : Workspace) (fs : List FieldId) :
    (fs.map Node.field).filter ws.isStop = (fs.filter ws.isEditable).map Node.field :=
  List.filter_map

lemma filter_socket (ws : Workspace) (i : InputId) :
    ((ws.socket? i).toList.map Node.input).filter ws.isStop =
      (ws.socket? i).toList.map Node.input := by
  cases ws.socket? i <;> rfl

lemma filter_inputShown (ws : Workspace) (i : InputId) :
    (ws.inputShown i).filter ws.isStop = ws.inputStops i := by
  rw [inputShown, List.filter_append, filter_fields, filter_socket, inputStops]

lemma filter_shown (ws : Workspace) (is : List InputId) :
    (is.flatMap ws.inputShown).filter ws.isStop = is.flatMap ws.inputStops := by
  rw [List.filter_flatMap]
  exact List.flatMap_congr fun i _ => ws.filter_inputShown i

/-- **The stops of a block** are what it shows and a cursor does not pass over. -/
lemma filter_displayed (ws : Workspace) (b : BlockId) :
    (ws.displayed b).filter ws.isStop = ws.stops b :=
  ws.filter_shown (ws.inputsOf b)

/-- What is shown on either side of a field. -/
lemma displayed_around_field {pre post : List InputId} {fpre fpost : List FieldId}
    (hfrow : ws.fieldsOf i = fpre ++ f :: fpost) (hrow : ws.inputsOf b = pre ++ i :: post) :
    ws.displayed b = (pre.flatMap ws.inputShown ++ fpre.map Node.field) ++ .field f ::
      (fpost.map Node.field ++ (ws.socket? i).toList.map Node.input ++
        post.flatMap ws.inputShown) := by
  simp [displayed, hrow, inputShown, hfrow]

namespace Owned

variable (h : ws.Owned)
include h

lemma stopInput_of_shown (hn : n ∈ ws.inputShown i) : ws.stopInput? n = some i := by
  rcases List.mem_append.mp hn with hn | hn
  · obtain ⟨f, hf, rfl⟩ := List.mem_map.mp hn
    exact (h.field_iff i f).mp hf
  · obtain ⟨s, hs, rfl⟩ := List.mem_map.mp hn
    obtain ⟨b, -, hplace⟩ := h.place_of_socket (Option.mem_toList.mp hs)
    exact parentInput?_eq_some_iff.mpr ⟨b, hplace⟩

lemma stopInput_of_mem (hn : n ∈ ws.inputStops i) : ws.stopInput? n = some i := by
  rw [← filter_inputShown] at hn
  exact h.stopInput_of_shown (List.mem_of_mem_filter hn)

/-- A stop of a block is a stop of its own input. -/
lemma mem_inputStops_of_stops (hn : n ∈ ws.stops b) (hi : ws.stopInput? n = some i) :
    n ∈ ws.inputStops i := by
  obtain ⟨j, -, hmem⟩ := List.mem_flatMap.mp hn
  obtain rfl : j = i := Option.some.inj ((h.stopInput_of_mem hmem).symm.trans hi)
  exact hmem

lemma inputShown_nodup (i : InputId) : (ws.inputShown i).Nodup := by
  rw [inputShown, List.nodup_append]
  refine ⟨?_, ?_, ?_⟩
  · refine (h.fields_nodup i).map fun f g hfg => ?_
    cases hfg
    rfl
  · cases ws.socket? i <;> simp
  · intro x hx y hy
    obtain ⟨f, -, rfl⟩ := List.mem_map.mp hx
    obtain ⟨s, -, rfl⟩ := List.mem_map.mp hy
    simp

/-- Nothing is shown twice. -/
theorem displayed_nodup (b : BlockId) : (ws.displayed b).Nodup := by
  rw [displayed, List.nodup_flatMap]
  refine ⟨fun i _ => h.inputShown_nodup i, (h.inputs_nodup b).imp fun {i j} hij => ?_⟩
  -- what is shown tells its input
  intro n hi hj
  exact hij (Option.some.inj ((h.stopInput_of_shown hi).symm.trans (h.stopInput_of_shown hj)))

/-- No stop stands twice among the stops of a block. -/
theorem stops_nodup (b : BlockId) : (ws.stops b).Nodup :=
  ws.filter_displayed b ▸ (h.displayed_nodup b).filter _

/-- The stops of a block are editable fields and sockets of its own. -/
lemma mem_stops_cases (hn : n ∈ ws.stops b) :
    (∃ f i, n = .field f ∧ ws.isEditable f = true ∧ ws.fieldInput? f = some i ∧
      ws.inputBlock? i = some b) ∨ ∃ c i, n = .input c ∧ ws.place? c = some (b, .socket i) := by
  obtain ⟨i, hi, hmem⟩ := List.mem_flatMap.mp hn
  rw [h.input_iff] at hi
  rcases mem_inputStops_iff.mp hmem with ⟨f, hf, hedit, rfl⟩ | ⟨s, hs, rfl⟩
  · exact Or.inl ⟨f, i, rfl, hedit, (h.field_iff i f).mp hf, hi⟩
  · obtain ⟨u, hu, hplace⟩ := h.place_of_socket hs
    obtain rfl := Option.some.inj (hu.symm.trans hi)
    exact Or.inr ⟨s, i, rfl, hplace⟩

lemma input_mem_stops (hc : ws.place? c = some (b, .socket i)) : .input c ∈ ws.stops b :=
  List.mem_flatMap.mpr ⟨i, (h.socket_of_place hc).1, input_mem_inputStops (h.socket_of_place hc).2⟩

lemma field_mem_displayed (hf : ws.fieldInput? f = some i) (hi : ws.inputBlock? i = some b) :
    .field f ∈ ws.displayed b :=
  List.mem_flatMap.mpr ⟨i, (h.input_iff b i).mpr hi,
    List.mem_append_left _ (List.mem_map_of_mem ((h.field_iff i f).mpr hf))⟩

/-! ## From a socket -/

section Socket

variable {pre post : List Node} (hrow : ws.stops b = pre ++ .input c :: post)
include hrow

/-- The inputs around a socket, and the stops on either side of it by input. -/
lemma exists_inputs_around_socket : ∃ i ipre ipost, ws.place? c = some (b, .socket i) ∧
    ws.inputsOf b = ipre ++ i :: ipost ∧ post = ipost.flatMap ws.inputStops ∧
      pre = ipre.flatMap ws.inputStops ++
        ((ws.fieldsOf i).filter ws.isEditable).map Node.field := by
  have hmem : .input c ∈ ws.stops b := hrow ▸ List.mem_append_right _ List.mem_cons_self
  rcases h.mem_stops_cases hmem with ⟨f, j, hf, -⟩ | ⟨_, i, hinput, hc⟩
  · cases hf
  · cases hinput
    obtain ⟨ipre, ipost, hinputs⟩ := List.append_of_mem (h.socket_of_place hc).1
    have haround : ws.stops b = (ipre.flatMap ws.inputStops ++
        ((ws.fieldsOf i).filter ws.isEditable).map Node.field) ++
          .input c :: ipost.flatMap ws.inputStops := by
      simp [stops, hinputs, inputStops, (h.socket_of_place hc).2]
    refine ⟨i, ipre, ipost, hc, hinputs, after_unique (h.stops_nodup b) hrow haround, ?_⟩
    classical
    exact before_unique (h.stops_nodup b) hrow haround

/-- **After a socket** comes the following stop. -/
theorem afterSocket_eq : ws.afterSocket? c = post.head? := by
  obtain ⟨i, ipre, ipost, hc, hinputs, rfl, -⟩ := h.exists_inputs_around_socket hrow
  rw [afterSocket?, parentInput?_eq_some_iff.mpr ⟨b, hc⟩, Option.bind_some,
    h.inputsAfter_eq hinputs, List.head?_flatMap, funext (enterForward?_eq_head? ws)]

/-- **Before a socket** comes the preceding stop. -/
theorem beforeSocket_eq : ws.beforeSocket? c = pre.getLast? := by
  obtain ⟨i, ipre, ipost, hc, hinputs, -, rfl⟩ := h.exists_inputs_around_socket hrow
  rw [beforeSocket?, parentInput?_eq_some_iff.mpr ⟨b, hc⟩, Option.bind_some,
    h.inputsBefore_eq hinputs, List.getLast?_append, List.getLast?_flatMap, List.getLast?_map,
    List.getLast?_filter, funext (enterBackward?_eq_getLast? ws), lastEditable?]

end Socket

lemma afterSocket_iff (hc : ws.place? c = some (b, .socket i)) :
    ws.afterSocket? c = some n ↔ [.input c, n] <:+: ws.stops b := by
  obtain ⟨pre, post, hrow⟩ := List.append_of_mem (h.input_mem_stops hc)
  rw [h.afterSocket_eq hrow, hrow, neighbours_iff_head? (hrow ▸ h.stops_nodup b)]

lemma beforeSocket_iff (hc : ws.place? c = some (b, .socket i)) :
    ws.beforeSocket? c = some n ↔ [n, .input c] <:+: ws.stops b := by
  obtain ⟨pre, post, hrow⟩ := List.append_of_mem (h.input_mem_stops hc)
  rw [h.beforeSocket_eq hrow, hrow, neighbours_iff_getLast? (hrow ▸ h.stops_nodup b)]

/-! ## From a field -/

section Field

variable {pre post : List Node} (hrow : ws.displayed b = pre ++ .field f :: post)
include hrow

/-- The inputs and the fields around a field, and the stops on either side of it by input. -/
lemma exists_rows_around_field : ∃ i ipre ipost fpre fpost, ws.fieldInput? f = some i ∧
    ws.inputsOf b = ipre ++ i :: ipost ∧ ws.fieldsOf i = fpre ++ f :: fpost ∧
      pre.filter ws.isStop =
        ipre.flatMap ws.inputStops ++ (fpre.filter ws.isEditable).map Node.field ∧
      post.filter ws.isStop = ((fpost.filter ws.isEditable).map Node.field ++
        (ws.socket? i).toList.map Node.input) ++ ipost.flatMap ws.inputStops := by
  have hmem : .field f ∈ ws.displayed b := hrow ▸ List.mem_append_right _ List.mem_cons_self
  obtain ⟨i, hi, hshown⟩ := List.mem_flatMap.mp hmem
  have hf : ws.fieldInput? f = some i := h.stopInput_of_shown hshown
  obtain ⟨ipre, ipost, hinputs⟩ := List.append_of_mem hi
  obtain ⟨fpre, fpost, hfields⟩ := h.exists_fields_around hf
  have haround := displayed_around_field hfields hinputs
  refine ⟨i, ipre, ipost, fpre, fpost, hf, hinputs, hfields, ?_, ?_⟩
  · classical
    rw [before_unique (h.displayed_nodup b) hrow haround, List.filter_append, filter_shown,
      filter_fields]
  · rw [after_unique (h.displayed_nodup b) hrow haround, List.filter_append, List.filter_append,
      filter_fields, filter_socket, filter_shown]

/-- **After a field** comes the first stop after it, if that is in the same input. -/
theorem afterField_iff_of_displayed : ws.afterField? f = some n ↔
    (post.filter ws.isStop).head? = some n ∧ ws.stopInput? n = ws.fieldInput? f := by
  obtain ⟨i, ipre, ipost, fpre, fpost, hf, hinputs, hfields, -, hpost⟩ :=
    h.exists_rows_around_field hrow
  rw [hpost, hf]
  set own := (fpost.filter ws.isEditable).map Node.field ++ (ws.socket? i).toList.map Node.input
    with hown
  have hafter : ws.afterField? f = own.head? := by
    rw [afterField?, hf, Option.bind_some, h.editableAfter?_eq hfields, hown, List.head?_append,
      List.head?_map, List.head?_filter, List.head?_map, Option.head?_toList]
  have hsame : ∀ n ∈ own, ws.stopInput? n = some i := by
    intro n hn
    refine h.stopInput_of_mem ?_
    rw [inputStops, hfields, List.filter_append, List.map_append, List.append_assoc]
    refine List.mem_append_right _ ?_
    rw [List.filter_cons]
    split
    · exact List.mem_cons_of_mem _ hn
    · exact hn
  clear_value own
  rw [hafter, List.head?_append, Option.or_eq_some_iff]
  constructor
  · exact fun hn => ⟨Or.inl hn, hsame n (List.mem_of_head? hn)⟩
  · rintro ⟨hn | ⟨-, hn⟩, hi⟩
    · exact hn
    · -- the stops of later inputs are not in this one
      obtain ⟨j, hj, hmem⟩ := List.mem_flatMap.mp (List.mem_of_head? hn)
      obtain rfl : j = i := Option.some.inj ((h.stopInput_of_mem hmem).symm.trans hi)
      have hnodup := h.inputs_nodup b
      rw [hinputs, List.nodup_append, List.nodup_cons] at hnodup
      exact absurd hj hnodup.2.1.1

/-- **Before a field** comes the last stop before it, if that is in the same input or is the socket
of the input just before. -/
theorem beforeField_iff_of_displayed : ws.beforeField? f = some n ↔
    (pre.filter ws.isStop).getLast? = some n ∧ (ws.stopInput? n = ws.fieldInput? f ∨
      ∃ j i s, [j, i] <:+: ws.inputsOf b ∧ ws.fieldInput? f = some i ∧ ws.socket? j = some s ∧
        n = .input s) := by
  obtain ⟨i, ipre, ipost, fpre, fpost, hf, hinputs, hfields, hpre, -⟩ :=
    h.exists_rows_around_field hrow
  have hnodup := h.inputs_nodup b
  rw [hinputs] at hnodup
  have hbefore : ws.beforeField? f = (((fpre.filter ws.isEditable).map Node.field).getLast?).or
      (ipre.getLast?.bind fun j => (ws.socket? j).map Node.input) := by
    rw [beforeField?, hf, Option.bind_some, h.editableBefore?_eq hfields, h.inputsBefore_eq hinputs,
      List.getLast?_map, List.getLast?_filter, List.head?_reverse]
  have hsame : ∀ n ∈ (fpre.filter ws.isEditable).map Node.field, ws.stopInput? n = some i := by
    intro n hn
    refine h.stopInput_of_mem ?_
    rw [inputStops, hfields, List.filter_append, List.map_append, List.append_assoc]
    exact List.mem_append_left _ hn
  rw [hpre, hf, hinputs, hbefore, List.getLast?_append, Option.or_eq_some_iff,
    Option.or_eq_some_iff]
  constructor
  · rintro (hn | ⟨hnone, hn⟩)
    · exact ⟨Or.inl hn, Or.inl (hsame n (List.mem_of_getLast? hn))⟩
    · obtain ⟨j, hj, hn⟩ := Option.bind_eq_some_iff.mp hn
      obtain ⟨s, hs, rfl⟩ := Option.map_eq_some_iff.mp hn
      refine ⟨Or.inr ⟨hnone, ?_⟩,
        Or.inr ⟨j, i, s, (neighbours_iff_getLast? hnodup).mpr hj, rfl, hs, rfl⟩⟩
      obtain ⟨before, rfl⟩ := List.getLast?_eq_some_iff.mp hj
      rw [List.flatMap_append, List.getLast?_append]
      simp [inputStops, hs]
  · rintro ⟨hn | ⟨hnone, hn⟩, hnear⟩
    · exact Or.inl hn
    · refine Or.inr ⟨hnone, ?_⟩
      rcases hnear with hi | ⟨j, u, s, hju, hu, hs, rfl⟩
      · -- the stops of earlier inputs are not in this one
        obtain ⟨j, hj, hmem⟩ := List.mem_flatMap.mp (List.mem_of_getLast? hn)
        obtain rfl : j = i := Option.some.inj ((h.stopInput_of_mem hmem).symm.trans hi)
        exact absurd hj (not_mem_of_nodup_append hnodup)
      · cases hu
        rw [(neighbours_iff_getLast? hnodup).mp hju, Option.bind_some, hs]
        rfl

end Field

/-- The stops on either side of an editable field. -/
lemma exists_stops_around_field (hedit : ws.isEditable f = true) (hf : ws.fieldInput? f = some i)
    (hi : ws.inputBlock? i = some b) : ∃ pre post, ws.displayed b = pre ++ .field f :: post ∧
      ws.stops b = pre.filter ws.isStop ++ .field f :: post.filter ws.isStop := by
  obtain ⟨pre, post, hrow⟩ := List.append_of_mem (h.field_mem_displayed hf hi)
  refine ⟨pre, post, hrow, ?_⟩
  have hstop : ws.isStop (.field f) = true := hedit
  rw [← filter_displayed, hrow, List.filter_append, List.filter_cons_of_pos hstop]

lemma afterField_iff (hedit : ws.isEditable f = true) (hf : ws.fieldInput? f = some i)
    (hi : ws.inputBlock? i = some b) : ws.afterField? f = some n ↔
      [.field f, n] <:+: ws.stops b ∧ n ∈ ws.inputStops i := by
  obtain ⟨pre, post, hrow, hstops⟩ := h.exists_stops_around_field hedit hf hi
  rw [h.afterField_iff_of_displayed hrow, hf]
  have hpair : [.field f, n] <:+: ws.stops b ↔ (post.filter ws.isStop).head? = some n := by
    rw [hstops, neighbours_iff_head? (hstops ▸ h.stops_nodup b)]
  rw [hpair]
  refine and_congr_right fun hn => ⟨fun hsame => ?_, h.stopInput_of_mem⟩
  exact h.mem_inputStops_of_stops (mem_of_neighbours (hpair.mpr hn)).2 hsame

lemma beforeField_iff (hedit : ws.isEditable f = true) (hf : ws.fieldInput? f = some i)
    (hi : ws.inputBlock? i = some b) : ws.beforeField? f = some n ↔
      [n, .field f] <:+: ws.stops b ∧ (n ∈ ws.inputStops i ∨
        ∃ j s, [j, i] <:+: ws.inputsOf b ∧ ws.socket? j = some s ∧ n = .input s) := by
  obtain ⟨pre, post, hrow, hstops⟩ := h.exists_stops_around_field hedit hf hi
  rw [h.beforeField_iff_of_displayed hrow, hf]
  have hpair : [n, .field f] <:+: ws.stops b ↔ (pre.filter ws.isStop).getLast? = some n := by
    rw [hstops, neighbours_iff_getLast? (hstops ▸ h.stops_nodup b)]
  rw [hpair]
  refine and_congr_right fun hn => or_congr ⟨fun hsame => ?_, h.stopInput_of_mem⟩ ?_
  · exact h.mem_inputStops_of_stops (mem_of_neighbours (hpair.mpr hn)).1 hsame
  · simp

end Owned

end BlockCursor.Workspace
