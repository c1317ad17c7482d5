import BlockCursor.Proofs.Workspace.ObjectIds
import BlockCursor.Workspace.Sweep

/-!
# Sweeping a subtree

A sweep follows links out of a workspace that it is taking apart, so neither the workspace nor its
links are in order while it runs.  What is always in order is who owns what among the objects that
are left: removing a block in full leaves just what `Workspace.without` leaves, and a block is
removed before anything below it, so that the links down from the next block are still there.

* `Workspace.Cleared` — the slots of some objects have been emptied.
* **`Owned.sweepBlock_eq`** — one block: it finds the children and removes what is the block's.
* `Workspace.Sweeping` — what holds between two rounds, of the blocks gone and the blocks waiting.
* **`Forest.sweep_eq`** — the whole sweep ends, and removes the subtree.
* **`Forest.disposeBySlots_eq`** — disposing slot by slot is disposing.
-/

namespace BlockCursor.Workspace

variable {ws ws' mid after : Workspace} {b x y : BlockId} {i : InputId} {c : ConnectionId}
  {r : Role} {o : ObjectId} {os os' : List ObjectId} {done rest : List InputId}
  {gone gone' pending : List BlockId}

/-! ## Emptied slots -/

/-- Workspaces with the same objects under the same numbers, the same tops and the same labels are
equal. -/
lemma ext_objects (hblock : ∀ b, ws.block? b = ws'.block? b)
    (hinput : ∀ i, ws.input? i = ws'.input? i)
    (hconnection : ∀ c, ws.connection? c = ws'.connection? c)
    (hfield : ∀ f, ws.field? f = ws'.field? f) (hblocks : ws.blocks.size = ws'.blocks.size)
    (hinputs : ws.inputs.size = ws'.inputs.size)
    (hconnections : ws.connections.size = ws'.connections.size)
    (hfields : ws.fields.size = ws'.fields.size) (htops : ws.tops = ws'.tops)
    (hlabels : ws.labels = ws'.labels) : ws = ws' := by
  cases ws
  cases ws'
  simp only [Workspace.mk.injEq]
  exact ⟨Arena.ext_get? hblocks fun n => hblock ⟨n⟩, Arena.ext_get? hinputs fun n => hinput ⟨n⟩,
    Arena.ext_get? hconnections fun n => hconnection ⟨n⟩,
    Arena.ext_get? hfields fun n => hfield ⟨n⟩, htops, hlabels⟩

/-- The slots of some objects have been emptied, and all else is as it was. -/
structure Cleared (ws : Workspace) (os : List ObjectId) (after : Workspace) : Prop where
  block : ∀ b, after.block? b = if .block b ∈ os then none else ws.block? b
  input : ∀ i, after.input? i = if .input i ∈ os then none else ws.input? i
  connection : ∀ c, after.connection? c = if .connection c ∈ os then none else ws.connection? c
  field : ∀ f, after.field? f = if .field f ∈ os then none else ws.field? f
  blocks_size : after.blocks.size = ws.blocks.size
  inputs_size : after.inputs.size = ws.inputs.size
  connections_size : after.connections.size = ws.connections.size
  fields_size : after.fields.size = ws.fields.size
  tops : after.tops = ws.tops
  labels : after.labels = ws.labels

namespace Cleared

lemma refl (ws : Workspace) : ws.Cleared [] ws := by
  constructor <;> simp

lemma trans (h : ws.Cleared os mid) (h' : mid.Cleared os' after) :
    ws.Cleared (os ++ os') after where
  block b := by
    rw [h'.block, h.block]
    split_ifs <;> simp_all
  input i := by
    rw [h'.input, h.input]
    split_ifs <;> simp_all
  connection c := by
    rw [h'.connection, h.connection]
    split_ifs <;> simp_all
  field f := by
    rw [h'.field, h.field]
    split_ifs <;> simp_all
  blocks_size := h'.blocks_size.trans h.blocks_size
  inputs_size := h'.inputs_size.trans h.inputs_size
  connections_size := h'.connections_size.trans h.connections_size
  fields_size := h'.fields_size.trans h.fields_size
  tops := h'.tops.trans h.tops
  labels := h'.labels.trans h.labels

/-- Numbers stay given out. -/
lemma issued_iff (h : ws.Cleared os after) : after.Issued o ↔ ws.Issued o := by
  cases o with
  | block b => rw [Issued, Issued, h.blocks_size]
  | input i => rw [Issued, Issued, h.inputs_size]
  | connection c => rw [Issued, Issued, h.connections_size]
  | field f => rw [Issued, Issued, h.fields_size]

/-- A link whose two ends are left is found as before. -/
lemma targetBlock_eq (h : ws.Cleared os after) (hc : .connection c ∉ os)
    (hd : ∀ d, ws.target? c = some d → .connection d ∉ os) :
    after.targetBlock? c = ws.targetBlock? c := by
  have htarget : after.target? c = ws.target? c := by
    rw [target?, target?, h.connection, if_neg hc]
  rw [targetBlock?, targetBlock?, htarget]
  cases hct : ws.target? c with
  | none => rfl
  | some d =>
      rw [Option.bind_some, Option.bind_some, owner?, owner?, h.connection, if_neg (hd d hct)]

end Cleared

/-! ## Emptying one slot and several -/

lemma cleared_block (ws : Workspace) (b : BlockId) :
    ws.Cleared [.block b] { ws with blocks := ws.blocks.clear b.index } := by
  constructor <;> try simp [input?, connection?, field?]
  rintro ⟨n⟩
  obtain ⟨m⟩ := b
  simp [block?, eq_comm]

lemma cleared_input (ws : Workspace) (i : InputId) :
    ws.Cleared [.input i] { ws with inputs := ws.inputs.clear i.index } := by
  constructor <;> try simp [block?, connection?, field?]
  rintro ⟨n⟩
  obtain ⟨m⟩ := i
  simp [input?, eq_comm]

lemma exists_clearConnection (ws : Workspace) (c : ConnectionId)
    (hc : ws.Issued (.connection c)) :
    ∃ after, ws.clearConnection c = some after ∧ ws.Cleared [.connection c] after := by
  refine ⟨{ ws with connections := ws.connections.clear c.index }, ?_, ?_⟩
  · rw [clearConnection, Arena.take?_of_lt hc]
    rfl
  · constructor <;> try simp [block?, input?, field?]
    rintro ⟨n⟩
    obtain ⟨m⟩ := c
    simp [connection?, eq_comm]

lemma exists_clearField (ws : Workspace) (f : FieldId) (hf : ws.Issued (.field f)) :
    ∃ after, ws.clearField f = some after ∧ ws.Cleared [.field f] after := by
  refine ⟨{ ws with fields := ws.fields.clear f.index }, ?_, ?_⟩
  · rw [clearField, Arena.take?_of_lt hf]
    rfl
  · constructor <;> try simp [block?, input?, connection?]
    rintro ⟨n⟩
    obtain ⟨m⟩ := f
    simp [field?, eq_comm]

/-- Slots that can be emptied one at a time can be emptied one after the other. -/
lemma exists_clearAll {α : Type} {clear : Workspace → α → Option Workspace} {name : α → ObjectId}
    (hone : ∀ (ws : Workspace) x, ws.Issued (name x) →
      ∃ after, clear ws x = some after ∧ ws.Cleared [name x] after)
    {xs : List α} (hxs : ∀ x ∈ xs, ws.Issued (name x)) :
    ∃ after, xs.foldlM clear ws = some after ∧ ws.Cleared (xs.map name) after := by
  induction xs generalizing ws with
  | nil => exact ⟨ws, rfl, .refl ws⟩
  | cons x xs ih =>
      obtain ⟨one, hok, hcleared⟩ := hone ws x (hxs x List.mem_cons_self)
      obtain ⟨after, hok', hcleared'⟩ :=
        ih fun y hy => hcleared.issued_iff.mpr (hxs y (List.mem_cons_of_mem _ hy))
      refine ⟨after, ?_, hcleared.trans hcleared'⟩
      rw [List.foldlM_cons, hok]
      exact hok'

/-! ## One input -/

/-- The ids of an input and of all that belongs to it. -/
def inputIds (ws : Workspace) (i : InputId) : List ObjectId :=
  .input i :: ((ws.fieldsOf i).map .field ++ (ws.socket? i).toList.map .connection)

/-- An input goes with its fields and its socket, and what is linked to the socket is found. -/
lemma exists_sweepInput (hlive : ws.hasInput i = true) (hids : ∀ o ∈ ws.inputIds i, ws.Issued o) :
    ∃ after, ws.sweepInput i = some (((ws.socket? i).bind ws.targetBlock?).toList, after) ∧
      ws.Cleared (ws.inputIds i) after := by
  obtain ⟨x, hx⟩ := Option.isSome_iff_exists.mp hlive
  have hfields : ws.fieldsOf i = x.fields := by rw [fieldsOf, hx]; rfl
  have hsocket : ws.socket? i = x.socket := by rw [socket?, hx]; rfl
  rw [inputIds, hfields, hsocket] at hids ⊢
  have hslot := cleared_input ws i
  obtain ⟨mid, hok, hmid⟩ := exists_clearAll exists_clearField
    fun f (hf : f ∈ x.fields) => hslot.issued_iff.mpr (hids _ (by simp [hf]))
  have htarget : mid.targetBlock? = ws.targetBlock? :=
    funext fun c => (hslot.trans hmid).targetBlock_eq (by simp) (by simp)
  obtain ⟨after, hok', hafter⟩ := exists_clearAll exists_clearConnection
    fun s (hs : s ∈ x.socket.toList) =>
      (hslot.trans hmid).issued_iff.mpr (hids _ (by simp [Option.mem_toList.mp hs]))
  refine ⟨after, ?_, (hslot.trans hmid).trans hafter⟩
  rw [sweepInput, Arena.take?_of_lt (issued_of_has (o := .input i) hlive)]
  simp only [show ws.inputs.get? i.index = some x from hx, Option.bind_eq_bind, Option.bind_some,
    hok, hok', htarget]
  rfl

/-! ## One block -/

/-- A block whose objects are all gone, and its place among the tops and its label too, is
removed. -/
lemma eq_without_of_cleared (hmid : ws.Cleared os mid)
    (hos : ∀ o, o ∈ os ↔ o.block? ws = some b) :
    { mid with
      tops := mid.tops.filter (· != b)
      labels := mid.labels.filter fun entry => entry.2 != b } = ws.without [b] := by
  refine ext_objects (fun a => ?_) (fun i => ?_) (fun c => ?_) (fun f => ?_) ?_ ?_ ?_ ?_ ?_ ?_
  · refine Option.ext fun x => ?_
    show mid.block? a = some x ↔ _
    rw [hmid.block, block?_without, Option.ite_none_left_eq_some, and_comm, hos]
    refine and_congr_right fun hx => not_congr ?_
    simp [ObjectId.block?, hasBlock, hx]
  · refine Option.ext fun x => ?_
    show mid.input? i = some x ↔ _
    rw [hmid.input, input?_without, Option.ite_none_left_eq_some, and_comm, hos]
    refine and_congr_right fun hx => not_congr ?_
    simp [ObjectId.block?, inputBlock?, hx]
  · refine Option.ext fun x => ?_
    show mid.connection? c = some x ↔ _
    rw [hmid.connection, connection?_without, Option.ite_none_left_eq_some, and_comm, hos]
    refine and_congr_right fun hx => not_congr ?_
    simp [ObjectId.block?, owner?, hx]
  · refine Option.ext fun x => ?_
    show mid.field? f = some x ↔ _
    rw [hmid.field, field?_without, Option.ite_none_left_eq_some, and_comm, hos]
    refine and_congr_right fun hx => ?_
    rw [show (ObjectId.field f).block? ws = ws.inputBlock? x.input by
      simp [ObjectId.block?, fieldInput?, hx]]
    constructor
    · rintro hne a ha hab
      exact hne (List.mem_singleton.mp hab ▸ ha)
    · exact fun hall hb => hall b hb (List.mem_singleton_self b)
  · exact hmid.blocks_size.trans (Arena.size_keep _ _).symm
  · exact hmid.inputs_size.trans (Arena.size_keep _ _).symm
  · exact hmid.connections_size.trans (Arena.size_keep _ _).symm
  · exact hmid.fields_size.trans (Arena.size_keep _ _).symm
  · show mid.tops.filter _ = ws.tops.filter _
    rw [hmid.tops]
    exact List.filter_congr fun a _ => by rw [Bool.eq_iff_iff]; simp
  · show mid.labels.filter _ = ws.labels.filter _
    rw [hmid.labels]
    exact List.filter_congr fun entry _ => by rw [Bool.eq_iff_iff]; simp

/-- The connections of a block that are no sockets. -/
def ownConnections (ws : Workspace) (b : BlockId) : List ConnectionId :=
  (ws.next? b).toList ++ (ws.previous? b).toList ++ (ws.output? b).toList

namespace Owned

variable (h : ws.Owned)
include h

/-- What belongs to an input belongs to its block. -/
lemma block?_of_mem_inputIds (hi : ws.inputBlock? i = some b) (ho : o ∈ ws.inputIds i) :
    o.block? ws = some b := by
  rw [inputIds, List.mem_cons, List.mem_append, List.mem_map, List.mem_map] at ho
  rcases ho with rfl | ⟨f, hf, rfl⟩ | ⟨s, hs, rfl⟩
  · exact hi
  · exact Option.bind_eq_some_iff.mpr ⟨i, (h.field_iff i f).mp hf, hi⟩
  · obtain ⟨a, ha, hplace⟩ := h.place_of_socket (Option.mem_toList.mp hs)
    obtain rfl : a = b := Option.some.inj (ha.symm.trans hi)
    exact owner?_of_place hplace

lemma mem_ownConnections :
    c ∈ ws.ownConnections b ↔ ∃ r, ws.place? c = some (b, r) ∧ r.input? = none := by
  simp only [ownConnections, List.mem_append, Option.mem_toList]
  constructor
  · rintro ((hc | hc) | hc)
    · exact ⟨.next, h.place_of_next hc, rfl⟩
    · exact ⟨.previous, h.place_of_previous hc, rfl⟩
    · exact ⟨.output, h.place_of_output hc, rfl⟩
  · rintro ⟨r, hc, hr⟩
    cases r with
    | next => exact Or.inl (Or.inl (h.next_of_place hc))
    | previous => exact Or.inl (Or.inr (h.previous_of_place hc))
    | output => exact Or.inr (h.output_of_place hc)
    | socket i => cases hr

/-- What belongs to a block is the block, what belongs to its inputs, and its other connections. -/
lemma mem_parts_iff (hlive : ws.hasBlock b = true) :
    o ∈ (.block b :: (ws.inputsOf b).flatMap ws.inputIds) ++
        (ws.ownConnections b).map .connection ↔ o.block? ws = some b := by
  constructor
  · intro ho
    rw [List.mem_append, List.mem_cons, List.mem_flatMap, List.mem_map] at ho
    rcases ho with (rfl | ⟨i, hi, ho⟩) | ⟨c, hc, rfl⟩
    · exact if_pos hlive
    · exact h.block?_of_mem_inputIds ((h.input_iff b i).mp hi) ho
    · obtain ⟨r, hplace, -⟩ := h.mem_ownConnections.mp hc
      exact owner?_of_place hplace
  · intro ho
    cases o with
    | block a =>
        obtain ⟨-, ⟨⟩⟩ := Option.ite_none_right_eq_some.mp ho
        simp
    | input i =>
        have hi : i ∈ ws.inputsOf b := (h.input_iff b i).mpr ho
        simp [inputIds, hi]
    | field f =>
        obtain ⟨i, hf, hi⟩ := Option.bind_eq_some_iff.mp ho
        rw [← h.field_iff] at hf
        rw [← h.input_iff] at hi
        simp only [inputIds, List.mem_append, List.mem_cons, List.mem_flatMap, List.mem_map]
        exact Or.inl (Or.inr ⟨i, hi, Or.inr (Or.inl ⟨f, hf, rfl⟩)⟩)
    | connection c =>
        obtain ⟨r, hplace⟩ := exists_place_of_owner ho
        simp only [inputIds, List.mem_append, List.mem_cons, List.mem_flatMap, List.mem_map]
        cases hr : r.input? with
        | none => exact Or.inr ⟨c, h.mem_ownConnections.mpr ⟨r, hplace, hr⟩, rfl⟩
        | some i =>
            have hplace' : ws.place? c = some (b, .socket i) := by
              cases r <;> cases hr
              exact hplace
            obtain ⟨hi, hs⟩ := h.socket_of_place hplace'
            exact Or.inl (Or.inr ⟨i, hi, Or.inr (Or.inr ⟨c, Option.mem_toList.mpr hs, rfl⟩)⟩)

variable (hb : b ∉ ws.children b)
include hb

/-- While the inputs of a block are removed, what hangs from the connections that are still there
can be found: it belongs to other blocks. -/
lemma targetBlock_of_cleared (hdone : ∀ i ∈ done, ws.inputBlock? i = some b)
    (hmid : ws.Cleared (.block b :: done.flatMap ws.inputIds) mid)
    (hc : ws.place? c = some (b, r)) (hr : r.isUpper = true) (hnot : ∀ i ∈ done, r ≠ .socket i) :
    mid.targetBlock? c = ws.targetBlock? c := by
  have hsocket : ∀ d, .connection d ∈ ObjectId.block b :: done.flatMap ws.inputIds →
      ∃ i ∈ done, ws.place? d = some (b, .socket i) := by
    intro d hd
    obtain ⟨i, hi, hid⟩ : ∃ i ∈ done, ws.socket? i = some d := by simpa [inputIds] using hd
    obtain ⟨a, ha, hplace⟩ := h.place_of_socket hid
    obtain rfl : a = b := Option.some.inj (ha.symm.trans (hdone i hi))
    exact ⟨i, hi, hplace⟩
  refine hmid.targetBlock_eq (fun hmem => ?_) fun d hcd hmem => ?_
  · obtain ⟨i, hi, hplace⟩ := hsocket c hmem
    rw [hc] at hplace
    cases hplace
    exact hnot i hi rfl
  · obtain ⟨i, hi, hplace⟩ := hsocket d hmem
    refine hb (List.mem_filterMap.mpr ⟨c, h.mem_downward_iff.mpr ⟨r, hc, hr⟩, ?_⟩)
    rw [targetBlock?, hcd, Option.bind_some, owner?_of_place hplace]

/-- The inputs of a block go in their order, and what is linked to their sockets is found. -/
lemma exists_sweepInputs (hrow : ws.inputsOf b = done ++ rest)
    (hmid : ws.Cleared (.block b :: done.flatMap ws.inputIds) mid) :
    ∃ after, mid.sweepInputs rest =
        some ((rest.filterMap ws.socket?).filterMap ws.targetBlock?, after) ∧
      ws.Cleared (.block b :: (ws.inputsOf b).flatMap ws.inputIds) after := by
  induction rest generalizing done mid with
  | nil =>
      rw [List.append_nil] at hrow
      exact ⟨mid, rfl, hrow ▸ hmid⟩
  | cons i rest ih =>
      have hblock : ∀ j ∈ done ++ i :: rest, ws.inputBlock? j = some b :=
        fun j hj => (h.input_iff b j).mp (hrow ▸ hj)
      have hi : ws.inputBlock? i = some b := hblock i (by simp)
      have hnot : i ∉ done := by
        have hnodup := h.inputs_nodup b
        rw [hrow, List.nodup_append] at hnodup
        exact fun hmem => hnodup.2.2 i hmem i List.mem_cons_self rfl
      -- the input is still as it was
      have hsame : mid.input? i = ws.input? i := by
        rw [hmid.input, if_neg]
        simpa [inputIds] using hnot
      have hids : mid.inputIds i = ws.inputIds i := by
        rw [inputIds, inputIds, fieldsOf, socket?, hsame, fieldsOf, socket?]
      have hsocket : mid.socket? i = ws.socket? i := by rw [socket?, socket?, hsame]
      have hlive : mid.hasInput i = true := by
        rw [hasInput, hsame]
        exact hasInput_of_inputBlock hi
      have htarget :
          (ws.socket? i).bind mid.targetBlock? = (ws.socket? i).bind ws.targetBlock? := by
        cases hs : ws.socket? i with
        | none => rfl
        | some s =>
            obtain ⟨a, ha, hplace⟩ := h.place_of_socket hs
            obtain rfl : a = b := Option.some.inj (ha.symm.trans hi)
            refine h.targetBlock_of_cleared hb (fun j hj => hblock j (by simp [hj])) hmid hplace
              rfl ?_
            rintro j hj ⟨⟩
            exact hnot hj
      obtain ⟨one, hok, hone⟩ := exists_sweepInput hlive fun o ho =>
        hmid.issued_iff.mpr (issued_of_has (has_of_block
          (h.block?_of_mem_inputIds hi (hids ▸ ho))))
      rw [hids] at hone
      have hrow' : ws.inputsOf b = (done ++ [i]) ++ rest := by simpa using hrow
      obtain ⟨after, hok', hafter⟩ := ih hrow' (by simpa using hmid.trans hone)
      refine ⟨after, ?_, hafter⟩
      rw [sweepInputs, hok, hsocket, htarget]
      simp only [Option.bind_eq_bind, Option.bind_some, hok', List.filterMap_cons]
      cases ws.socket? i with
      | none => rfl
      | some s => cases hs : ws.targetBlock? s <;> simp [hs]

/-- **One block** goes with all that belongs to it, and its children are found. -/
theorem sweepBlock_eq {x : Block} (hx : ws.block? b = some x) :
    sweepBlock { ws with blocks := ws.blocks.clear b.index } b x =
      some (ws.children b, ws.without [b]) := by
  have hlive : ws.hasBlock b = true := Option.isSome_of_eq_some hx
  have hinputs : x.inputs = ws.inputsOf b := by rw [inputsOf, hx]; rfl
  have hnext : x.next = ws.next? b := by rw [next?, hx]; rfl
  have hown : x.next.toList ++ x.previous.toList ++ x.output.toList = ws.ownConnections b := by
    rw [ownConnections, next?, previous?, output?, hx]
    rfl
  obtain ⟨mid, hok, hmid⟩ := h.exists_sweepInputs hb (List.nil_append _).symm (cleared_block ws b)
  have hfollowing : (ws.next? b).bind mid.targetBlock? = (ws.next? b).bind ws.targetBlock? := by
    cases hc : ws.next? b with
    | none => rfl
    | some c =>
        exact h.targetBlock_of_cleared hb (fun i => (h.input_iff b i).mp) hmid
          (h.place_of_next hc) rfl (by simp)
  obtain ⟨last, hok', hlast⟩ := exists_clearAll exists_clearConnection
    fun c (hc : c ∈ ws.ownConnections b) => by
      obtain ⟨r, hplace, -⟩ := h.mem_ownConnections.mp hc
      exact hmid.issued_iff.mpr (issued_of_has (hasConnection_of_place hplace))
  have hchildren : ws.children b = ((ws.inputsOf b).filterMap ws.socket?).filterMap
      ws.targetBlock? ++ ((ws.next? b).bind ws.targetBlock?).toList := by
    rw [children, downward, List.filterMap_append]
    cases ws.next? b with
    | none => rfl
    | some c => cases hc : ws.targetBlock? c <;> simp [hc]
  rw [← eq_without_of_cleared (hmid.trans hlast) fun o => h.mem_parts_iff hlive, hchildren,
    sweepBlock, hown, hinputs, hnext, hok]
  simp only [Option.bind_eq_bind, Option.bind_some, hfollowing, hok']
  rfl

end Owned

/-! ## One round after the other -/

lemma without_nil (ws : Workspace) : ws.without [] = ws := by
  refine ext_objects (fun b => ?_) (fun i => ?_) (fun c => ?_) (fun f => ?_) (Arena.size_keep _ _)
    (Arena.size_keep _ _) (Arena.size_keep _ _) (Arena.size_keep _ _) ?_ ?_
  · exact Option.ext fun x => by simp [block?_without]
  · exact Option.ext fun x => by simp [input?_without]
  · exact Option.ext fun x => by simp [connection?_without]
  · exact Option.ext fun x => by simp [field?_without]
  · exact List.filter_eq_self.mpr fun b _ => rfl
  · exact List.filter_eq_self.mpr fun entry _ => rfl

/-- Removing blocks and then others is removing all of them. -/
lemma without_without (ws : Workspace) (gone gone' : List BlockId) :
    (ws.without gone).without gone' = ws.without (gone' ++ gone) := by
  refine ext_objects (fun b => ?_) (fun i => ?_) (fun c => ?_) (fun f => ?_) (by simp [without])
    (by simp [without]) (by simp [without]) (by simp [without]) ?_ ?_
  · refine Option.ext fun x => ?_
    simp only [block?_without, List.mem_append, not_or]
    tauto
  · refine Option.ext fun x => ?_
    simp only [input?_without, List.mem_append, not_or]
    tauto
  · refine Option.ext fun x => ?_
    simp only [connection?_without, List.mem_append, not_or]
    tauto
  · refine Option.ext fun x => ?_
    simp only [field?_without, inputBlock?_without, List.mem_append, not_or]
    constructor
    · rintro ⟨⟨hf, hgone⟩, hgone'⟩
      exact ⟨hf, fun b hb => ⟨hgone' b ⟨hb, hgone b hb⟩, hgone b hb⟩⟩
    · rintro ⟨hf, hall⟩
      exact ⟨⟨hf, fun b hb => (hall b hb).2⟩, fun b hb => (hall b hb.1).1⟩
  · show (ws.tops.filter _).filter _ = ws.tops.filter _
    rw [List.filter_filter]
    exact List.filter_congr fun b _ => by simp
  · show (ws.labels.filter _).filter _ = ws.labels.filter _
    rw [List.filter_filter]
    exact List.filter_congr fun entry _ => by simp

/-- Which blocks are removed is a matter of which are listed. -/
lemma without_congr (hmem : ∀ x, x ∈ gone ↔ x ∈ gone') : ws.without gone = ws.without gone' := by
  have hcontains : ∀ x, gone.contains x = gone'.contains x := by
    intro x
    rw [Bool.eq_iff_iff, List.contains_iff_mem, List.contains_iff_mem, hmem]
  simp only [without, hcontains]

/-- **Between two rounds** of a sweep that began with the block `b`, some blocks are gone and some
are waiting: `b` is one of them, the children of a block that is gone are among them, and of each
other one the parent is gone. -/
structure Sweeping (ws : Workspace) (b : BlockId) (gone pending : List BlockId) : Prop where
  start : b ∈ gone ∨ b ∈ pending
  down : ∀ x ∈ gone, ∀ y, ws.parent? y = some x → y ∈ gone ∨ y ∈ pending
  up : ∀ y, y ∈ gone ∨ y ∈ pending → y = b ∨ ∃ x ∈ gone, ws.parent? y = some x

namespace Sweeping

lemma single (ws : Workspace) (b : BlockId) : ws.Sweeping b [] [b] where
  start := Or.inr List.mem_cons_self
  down x hx := by cases hx
  up y hy := Or.inl (by simpa using hy)

/-- A block that is gone already is passed over. -/
lemma pass (h : ws.Sweeping b gone (x :: pending)) (hx : x ∈ gone) :
    ws.Sweeping b gone pending := by
  have hsame : ∀ y, y ∈ gone ∨ y ∈ x :: pending ↔ y ∈ gone ∨ y ∈ pending := by
    intro y
    rw [List.mem_cons]
    constructor
    · rintro (hy | rfl | hy)
      · exact Or.inl hy
      · exact Or.inl hx
      · exact Or.inr hy
    · exact Or.imp_right Or.inr
  exact ⟨(hsame b).mp h.start, fun z hz y hyz => (hsame y).mp (h.down z hz y hyz),
    fun y hy => h.up y ((hsame y).mpr hy)⟩

/-- Another block goes, and its children wait. -/
lemma remove (h : ws.Sweeping b gone (x :: pending)) (hws : ws.Linked) :
    ws.Sweeping b (x :: gone) ((ws.children x).reverse ++ pending) := by
  have hkept : ∀ y, y ∈ gone ∨ y ∈ x :: pending →
      y ∈ x :: gone ∨ y ∈ (ws.children x).reverse ++ pending := by
    intro y hy
    simp only [List.mem_cons, List.mem_append] at hy ⊢
    tauto
  refine ⟨hkept b h.start, ?down, ?up⟩
  case down =>
    intro z hz y hyz
    rcases List.mem_cons.mp hz with rfl | hz
    · refine Or.inr (List.mem_append_left _ (List.mem_reverse.mpr ?_))
      exact hws.mem_children_iff.mpr hyz
    · exact hkept y (h.down z hz y hyz)
  case up =>
    intro y hy
    simp only [List.mem_cons, List.mem_append, List.mem_reverse] at hy
    have hold : y ∈ gone ∨ y ∈ x :: pending ∨ y ∈ ws.children x := by
      rw [List.mem_cons]
      tauto
    rw [← or_assoc] at hold
    rcases hold with hold | hchild
    · exact (h.up y hold).imp_right fun ⟨z, hz, hyz⟩ => ⟨z, List.mem_cons_of_mem _ hz, hyz⟩
    · exact Or.inr ⟨x, List.mem_cons_self, hws.mem_children_iff.mp hchild⟩

variable (hws : ws.Forest)
include hws

/-- No child of a block that is still there is gone. -/
lemma children_eq (h : ws.Sweeping b gone pending) (htop : ws.parent? b = none) (hx : x ∉ gone) :
    (ws.without gone).children x = ws.children x := by
  have hblock : (ws.without gone).block? x = ws.block? x := block?_without_eq hx
  have hsockets : (ws.inputsOf x).filterMap (ws.without gone).socket? =
      (ws.inputsOf x).filterMap ws.socket? := by
    refine List.filterMap_congr fun i hi => ?_
    rw [socket?, input?_without_eq ((hws.input_iff x i).mp hi) hx, socket?]
  have hdown : (ws.without gone).downward x = ws.downward x := by
    rw [downward, inputsOf_without, if_neg hx, hsockets, next?, hblock, downward, next?]
  rw [children, hdown, children]
  refine List.filterMap_congr fun c hc => ?_
  obtain ⟨r, hplace, hr⟩ := hws.mem_downward_iff.mp hc
  have htarget : (ws.without gone).target? c = ws.target? c := by
    rw [target?, connection?_without_eq (owner?_of_place hplace) hx, target?]
  rw [targetBlock?, targetBlock?, htarget]
  cases hcd : ws.target? c with
  | none => rfl
  | some d =>
      obtain ⟨y, s, hplace', -, -⟩ := hws.lower_of_upper hplace hr hcd
      have hyx : ws.parent? y = some x := by
        refine hws.mem_children_iff.mp (List.mem_filterMap.mpr ⟨c, hc, ?_⟩)
        rw [targetBlock?, hcd, Option.bind_some, owner?_of_place hplace']
      have hy : y ∉ gone := by
        intro hmem
        rcases h.up y (Or.inl hmem) with rfl | ⟨z, hz, hyz⟩
        · rw [htop] at hyx
          cases hyx
        · obtain rfl : z = x := Option.some.inj (hyz.symm.trans hyx)
          exact hx hz
      rw [Option.bind_some, Option.bind_some, owner?,
        connection?_without_eq (owner?_of_place hplace') hy, owner?]

/-- **When nothing waits any more**, what is gone is `b` and all below it. -/
lemma mem_gone_iff (h : ws.Sweeping b gone []) : y ∈ gone ↔ Rises ws.parent? y b := by
  have hdone : ∀ y, y ∈ gone ∨ y ∈ [] ↔ y ∈ gone := fun y => by simp
  constructor
  · intro hy
    -- the way up from `y` leads from block gone to block gone, and it ends
    induction y using hws.grounded.induction with
    | _ y ih =>
        rcases h.up y (Or.inl hy) with rfl | ⟨x, hx, hyx⟩
        · exact .refl
        · exact (ih x hyx hx).head hyx
  · intro hy
    induction hy using Relation.ReflTransGen.head_induction_on with
    | refl => exact (hdone b).mp h.start
    | @head y x hyx _ ih => exact (hdone y).mp (h.down x ih y hyx)

end Sweeping

/-- Blocks that wait are live to begin with. -/
lemma Sweeping.hasBlock (h : ws.Sweeping b gone pending) (hws : ws.Linked)
    (hb : ws.hasBlock b = true) (hx : x ∈ pending) : ws.hasBlock x = true := by
  rcases h.up x (Or.inr hx) with rfl | ⟨z, -, hxz⟩
  · exact hb
  · exact (hws.hasBlock_of_parent hxz).1

/-- **One round**: the next block goes, and what hung from it is found, though blocks above it are
gone already. -/
lemma Forest.sweepBlock_without {z : Block} (h : ws.Forest) (htop : ws.parent? b = none)
    (hstate : ws.Sweeping b gone pending) (hz : (ws.without gone).block? x = some z) :
    sweepBlock { ws.without gone with blocks := (ws.without gone).blocks.clear x.index } x z =
      some (ws.children x, ws.without (x :: gone)) := by
  have hx : x ∉ gone := (block?_without.mp hz).2
  have hchildren := hstate.children_eq h htop hx
  have hself : x ∉ (ws.without gone).children x := by
    rw [hchildren, h.mem_children_iff]
    exact fun hxx => h.grounded.irrefl x (.single hxx)
  rw [(h.toOwned.without gone).sweepBlock_eq hself hz, hchildren, without_without]
  rfl

/-- **From any round on** a sweep ends, with the subtree removed. -/
theorem Forest.sweep_without (h : ws.Forest) (hb : ws.hasBlock b = true)
    (htop : ws.parent? b = none) (hstate : ws.Sweeping b gone pending) :
    (ws.without gone).sweep pending = some (ws.without (ws.subtree b)) := by
  have hlt : ∀ {gone : List BlockId} {x rest}, ws.Sweeping b gone (x :: rest) →
      x.index < (ws.without gone).blocks.size := by
    intro gone x rest hstate
    have hx := hstate.hasBlock h.toLinked hb List.mem_cons_self
    exact (index_lt_of_hasBlock hx).trans_eq (Arena.size_keep _ _).symm
  generalize hcur : ws.without gone = cur
  induction cur, pending using sweep.induct generalizing gone with
  | case1 cur =>
      rw [sweep, ← hcur]
      refine congrArg some (without_congr fun y => ?_)
      rw [hstate.mem_gone_iff h, h.mem_subtree_iff hb]
  | case2 cur x pending htake =>
      rw [← hcur, Arena.take?_of_lt (hlt hstate)] at htake
      cases htake
  | case3 cur x pending blocks htake ih =>
      obtain ⟨hx, hnone, -⟩ := Arena.take?_eq_some_iff.mp htake
      have hgone : x ∈ gone := by
        by_contra hnot
        have hlive := hstate.hasBlock h.toLinked hb List.mem_cons_self
        rw [← hcur] at hnone
        rw [hasBlock, ← block?_without_eq hnot, block?, ← hnone] at hlive
        cases hlive
      rw [sweep_of_gone hx hnone.symm]
      exact ih (hstate.pass hgone) hcur
  | case4 cur x pending z blocks htake hsweep =>
      obtain ⟨-, hz, rfl⟩ := Arena.take?_eq_some_iff.mp htake
      subst hcur
      rw [h.sweepBlock_without htop hstate hz.symm] at hsweep
      cases hsweep
  | case5 cur x pending z blocks htake found after hsweep ih =>
      obtain ⟨-, hz, rfl⟩ := Arena.take?_eq_some_iff.mp htake
      subst hcur
      have hround := h.sweepBlock_without htop hstate hz.symm
      rw [sweep_of_live hz.symm hround]
      rw [hround] at hsweep
      cases hsweep
      exact ih (hstate.remove h.toLinked) rfl

/-- **A sweep ends**, and removes a block that hangs from nothing with everything below it. -/
theorem Forest.sweep_eq (h : ws.Forest) (hb : ws.hasBlock b = true) (htop : ws.parent? b = none) :
    ws.sweep [b] = some (ws.without (ws.subtree b)) := by
  have hsweep := h.sweep_without hb htop (.single ws b)
  rwa [without_nil] at hsweep

/-- **Disposing slot by slot** is refused when disposing is, and else ends with the workspace that
disposing answers. -/
theorem Forest.disposeBySlots_eq (h : ws.Forest) (b : BlockId) :
    ws.disposeBySlots b = (ws.dispose b).map some := by
  by_cases hb : ws.hasBlock b = true
  · obtain ⟨mid, hok, hrel, htop⟩ := h.exists_released b
    have hmid := h.releases hrel
    have hlive : mid.hasBlock b = true := by rwa [(h.sameObjects_releases hrel).hasBlock]
    rw [dispose_of_released hb hok, disposeBySlots, hb, hok]
    show Except.ok (mid.sweep [b]) = _
    rw [hmid.sweep_eq hlive htop]
    rfl
  · rw [dispose_eq_error hb, disposeBySlots, Bool.eq_false_of_not_eq_true hb]
    rfl

end BlockCursor.Workspace
