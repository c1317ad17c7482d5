import BlockCursor.Proofs.Workspace.Lifetime

/-!
# Ids of all sorts

Blocks, inputs, connections and fields live and die together: an object is made with its block, and
it is removed with its block.  Each new block gets ids that no object had before, and an id that
has been given out never gets a second object.

* `ObjectId` — an id of any sort; `Attributes` — what is fixed about its object.
* `Workspace.idsOf` — the ids of a block and all that belongs to it.
* `Workspace.handedOut` — the ids that a row of edits gives out, in order.
* **`Reachable.nodup_handedOut`** — no id is given out twice.
* **`Evolves.has_iff_hasBlock`** — an object lives just as long as its block.
* **`Reachable.has_or_handedOut`**, **`Reachable.disposed_of_gone`** — where live objects come from
  and where they go.
-/

namespace BlockCursor

/-- The id of an object of any sort. -/
inductive ObjectId
  | block (block : BlockId)
  | input (input : InputId)
  | connection (connection : ConnectionId)
  | field (field : FieldId)
deriving DecidableEq, Repr

/-- What is fixed about an object, which is everything but what a connection is linked to. -/
inductive Attributes
  | block (block : Block)
  | input (input : Input)
  | connection (block : BlockId) (kind : ConnectionKind) (input : Option InputId)
  | field (field : Field)
deriving DecidableEq, Repr

/-- The block that an object belongs to. -/
def ObjectId.block? (ws : Workspace) : ObjectId → Option BlockId
  | .block b => if ws.hasBlock b then some b else none
  | .input i => ws.inputBlock? i
  | .connection c => ws.owner? c
  | .field f => (ws.fieldInput? f).bind ws.inputBlock?

namespace Workspace

variable {ws ws' : Workspace} {a b : BlockId} {c : ConnectionId} {i : InputId} {f : FieldId}
  {o : ObjectId} {e : Edit}

/-! ## Objects -/

/-- Whether an object is live. -/
def has (ws : Workspace) : ObjectId → Bool
  | .block b => ws.hasBlock b
  | .input i => ws.hasInput i
  | .connection c => ws.hasConnection c
  | .field f => ws.hasField f

/-- The fixed attributes of a live object. -/
def attributes? (ws : Workspace) : ObjectId → Option Attributes
  | .block b => (ws.block? b).map .block
  | .input i => (ws.input? i).map .input
  | .connection c => (ws.connection? c).map fun x => .connection x.block x.role.kind x.role.input?
  | .field f => (ws.field? f).map .field

/-- Whether the id has been given out. -/
def Issued (ws : Workspace) : ObjectId → Prop
  | .block b => b.index < ws.blocks.size
  | .input i => i.index < ws.inputs.size
  | .connection c => c.index < ws.connections.size
  | .field f => f.index < ws.fields.size

lemma has_eq (ws : Workspace) (o : ObjectId) : ws.has o = (ws.attributes? o).isSome := by
  cases o <;> simp [has, attributes?, hasBlock, hasInput, hasConnection, hasField]

lemma issued_of_has (h : ws.has o = true) : ws.Issued o := by
  cases o with
  | block b | input b | connection b | field b =>
      obtain ⟨x, hx⟩ := Option.isSome_iff_exists.mp h
      exact Arena.lt_size_of_get? hx

lemma Evolves.issued_id (h : ws.Evolves ws') (ho : ws.Issued o) : ws'.Issued o := by
  cases o with
  | block b => exact ho.trans_le h.blocks_le
  | input i => exact ho.trans_le h.inputs_le
  | connection c => exact ho.trans_le h.connections_le
  | field f => exact ho.trans_le h.fields_le

/-- **What is fixed stays fixed**: a live object under an id that was given out before has the
attributes that it had before. -/
theorem Evolves.attributes_eq (h : ws.Evolves ws') (ho : ws.Issued o) (hlive : ws'.has o = true) :
    ws'.attributes? o = ws.attributes? o := by
  cases o with
  | block b =>
      obtain ⟨x, hx⟩ := Option.isSome_iff_exists.mp hlive
      rw [attributes?, attributes?, hx, h.block b x ho hx]
  | input i =>
      obtain ⟨x, hx⟩ := Option.isSome_iff_exists.mp hlive
      rw [attributes?, attributes?, hx, h.input i x ho hx]
  | connection c =>
      have hplace : ∀ ws : Workspace, ws.attributes? (.connection c) =
          (ws.place? c).map fun q => .connection q.1 q.2.kind q.2.input? := by
        intro ws
        simp [attributes?, place?, Function.comp_def]
      rw [hplace, hplace, h.place?_eq ho hlive]
  | field f => rw [attributes?, attributes?, h.field?_eq ho hlive]

lemma Evolves.has_of (h : ws.Evolves ws') (ho : ws.Issued o) (hlive : ws'.has o = true) :
    ws.has o = true := by
  rw [has_eq, ← h.attributes_eq ho hlive, ← has_eq]
  exact hlive

/-! ## The ids of a block -/

/-- The roles that a block has connections in: its own three, and a socket for each input. -/
def rolesOf (ws : Workspace) (b : BlockId) : List Role :=
  .previous :: .next :: .output :: (ws.inputsOf b).map .socket

/-- The connections of a block, sockets included. -/
def connectionsOf (ws : Workspace) (b : BlockId) : List ConnectionId :=
  (ws.rolesOf b).filterMap (ws.listed? b)

/-- The ids of a block and of all that belongs to it. -/
def idsOf (ws : Workspace) (b : BlockId) : List ObjectId :=
  .block b :: ((ws.inputsOf b).map .input ++ ((ws.connectionsOf b).map .connection ++
    ((ws.inputsOf b).flatMap ws.fieldsOf).map .field))

lemma mem_connectionsOf_iff : c ∈ ws.connectionsOf b ↔ ∃ r, ws.listed? b r = some c := by
  rw [connectionsOf, List.mem_filterMap]
  constructor
  · rintro ⟨r, -, hr⟩
    exact ⟨r, hr⟩
  · rintro ⟨r, hr⟩
    refine ⟨r, ?_, hr⟩
    cases r with
    | previous | next | output => simp [rolesOf]
    | socket i => simpa [rolesOf] using (listed?_socket.mp hr).1

namespace Owned

variable (h : ws.Owned)
include h

lemma mem_connectionsOf : c ∈ ws.connectionsOf b ↔ ws.owner? c = some b := by
  rw [mem_connectionsOf_iff]
  constructor
  · rintro ⟨r, hr⟩
    exact owner?_of_place ((h.listed_iff b r c).mp hr)
  · intro hc
    obtain ⟨r, hplace⟩ := exists_place_of_owner hc
    exact ⟨r, (h.listed_iff b r c).mpr hplace⟩

/-- A connection is listed in one role. -/
lemma nodup_connectionsOf (b : BlockId) : (ws.connectionsOf b).Nodup := by
  have hsockets : ((ws.inputsOf b).map Role.socket).Nodup :=
    (h.inputs_nodup b).map fun i j hij => by simpa using hij
  have hroles : (ws.rolesOf b).Nodup := by simpa [rolesOf] using hsockets
  refine hroles.filterMap fun r s c hr hs => ?_
  have hr := (h.listed_iff b r c).mp hr
  have hs := (h.listed_iff b s c).mp hs
  simpa using hr.symm.trans hs

/-- A field is in one row. -/
lemma nodup_fields (b : BlockId) : ((ws.inputsOf b).flatMap ws.fieldsOf).Nodup := by
  refine List.nodup_flatMap.mpr ⟨fun i _ => h.fields_nodup i, ?_⟩
  refine (h.inputs_nodup b).imp fun {i j} hij f hf hf' => hij ?_
  have hf := (h.field_iff i f).mp hf
  have hf' := (h.field_iff j f).mp hf'
  exact Option.some.inj (hf.symm.trans hf')

lemma nodup_idsOf (b : BlockId) : (ws.idsOf b).Nodup := by
  have hinputs := (h.inputs_nodup b).map (f := ObjectId.input) fun i j hij => by simpa using hij
  have hconnections := (h.nodup_connectionsOf b).map (f := ObjectId.connection)
    fun c d hcd => by simpa using hcd
  have hfields := (h.nodup_fields b).map (f := ObjectId.field) fun f g hfg => by simpa using hfg
  have hrest := hinputs.append (hconnections.append hfields (by simp [List.Disjoint]))
    (by simp [List.Disjoint])
  exact List.nodup_cons.mpr ⟨by simp, hrest⟩

/-- The ids of a live block are those of the objects that belong to it. -/
lemma mem_idsOf (hb : ws.hasBlock b = true) : o ∈ ws.idsOf b ↔ o.block? ws = some b := by
  cases o with
  | block a =>
      have hab : (ObjectId.block a).block? ws = some b ↔ a = b := by
        simp only [ObjectId.block?, Option.ite_none_right_eq_some, Option.some.injEq,
          and_iff_right_iff_imp]
        exact fun hab => hab ▸ hb
      simp [idsOf, hab]
  | input i =>
      rw [show (ObjectId.input i).block? ws = ws.inputBlock? i from rfl, ← h.input_iff]
      simp [idsOf]
  | connection c =>
      rw [show (ObjectId.connection c).block? ws = ws.owner? c from rfl, ← h.mem_connectionsOf]
      simp [idsOf]
  | field f =>
      have hf : (ObjectId.field f).block? ws = some b ↔
          ∃ i, ws.fieldInput? f = some i ∧ ws.inputBlock? i = some b := Option.bind_eq_some_iff
      rw [hf]
      simp [idsOf, h.input_iff, h.field_iff, and_comm]

/-- What is live belongs to a live block. -/
lemma exists_block_of_has (hlive : ws.has o = true) :
    ∃ b, o.block? ws = some b ∧ ws.hasBlock b = true := by
  cases o with
  | block b => exact ⟨b, if_pos hlive, hlive⟩
  | input i =>
      obtain ⟨x, hx⟩ := Option.isSome_iff_exists.mp hlive
      have hi : ws.inputBlock? i = some x.block := by rw [inputBlock?, hx, Option.map_some]
      exact ⟨x.block, hi, h.hasBlock_of_inputBlock hi⟩
  | connection c =>
      obtain ⟨x, hx⟩ := Option.isSome_iff_exists.mp hlive
      have hc : ws.owner? c = some x.block := by rw [owner?, hx, Option.map_some]
      exact ⟨x.block, hc, h.hasBlock_of_owner hc⟩
  | field f =>
      obtain ⟨x, hx⟩ := Option.isSome_iff_exists.mp hlive
      have hf : ws.fieldInput? f = some x.input := by rw [fieldInput?, hx, Option.map_some]
      obtain ⟨b, hi⟩ := h.exists_inputBlock_of_fieldInput hf
      exact ⟨b, Option.bind_eq_some_iff.mpr ⟨_, hf, hi⟩, h.hasBlock_of_inputBlock hi⟩

end Owned

lemma has_of_block (hb : o.block? ws = some b) : ws.has o = true := by
  cases o with
  | block a => exact (Option.ite_none_right_eq_some.mp hb).1
  | input i => exact hasInput_of_inputBlock hb
  | connection c =>
      obtain ⟨r, hplace⟩ := exists_place_of_owner hb
      exact hasConnection_of_place hplace
  | field f =>
      obtain ⟨i, hf, -⟩ := Option.bind_eq_some_iff.mp hb
      exact hasField_of_fieldInput hf

/-! ## The ids of a block over time -/

namespace Evolves

variable (h : ws.Evolves ws') (hws : ws.Owned) (hws' : ws'.Owned)
include h hws'

/-- What belongs to a block belongs to that block for life. -/
lemma block?_eq (ho : o.block? ws = some b) (hlive : ws'.has o = true) : o.block? ws' = some b := by
  have hissued := issued_of_has (has_of_block ho)
  cases o with
  | block a =>
      obtain ⟨-, ⟨⟩⟩ := Option.ite_none_right_eq_some.mp ho
      exact if_pos hlive
  | input i =>
      obtain ⟨x, hx⟩ := Option.isSome_iff_exists.mp hlive
      rw [ObjectId.block?, inputBlock?, h.input i x hissued hx, ← hx] at ho
      exact ho
  | connection c =>
      rw [ObjectId.block?, owner?_eq, h.place?_eq hissued hlive, ← owner?_eq]
      exact ho
  | field f =>
      obtain ⟨i, hf, hi⟩ := Option.bind_eq_some_iff.mp ho
      have hf' : ws'.fieldInput? f = some i := by
        rw [fieldInput?, h.field?_eq hissued hlive]
        exact hf
      -- the input of a live field is live, and so it is the input that it was
      obtain ⟨a, ha⟩ := hws'.exists_inputBlock_of_fieldInput hf'
      obtain ⟨x, hx, hxa⟩ := Option.map_eq_some_iff.mp ha
      have hiss := issued_of_has (o := .input i) (hasInput_of_inputBlock hi)
      rw [inputBlock?, h.input i x hiss hx, ← hx] at hi
      exact Option.bind_eq_some_iff.mpr ⟨i, hf', hi⟩

include hws

/-- A block that lives on keeps all that belongs to it. -/
lemma idsOf_eq (hb : ws.hasBlock b = true) (hb' : ws'.hasBlock b = true) :
    ws'.idsOf b = ws.idsOf b := by
  have hblock : ws'.block? b = ws.block? b := by
    obtain ⟨x, hx⟩ := Option.isSome_iff_exists.mp hb'
    rw [hx, h.block b x (index_lt_of_hasBlock hb) hx]
  have hrow : ws'.inputsOf b = ws.inputsOf b := by rw [inputsOf, inputsOf, hblock]
  have hinput : ∀ i ∈ ws.inputsOf b, ws'.input? i = ws.input? i := by
    intro i hi
    have hlive := hasInput_of_inputBlock ((hws.input_iff b i).mp hi)
    have hlive' := hasInput_of_inputBlock ((hws'.input_iff b i).mp (hrow ▸ hi))
    obtain ⟨x, hx⟩ := Option.isSome_iff_exists.mp hlive'
    rw [hx, h.input i x (issued_of_has (o := .input i) hlive) hx]
  have hfields : (ws'.inputsOf b).flatMap ws'.fieldsOf = (ws.inputsOf b).flatMap ws.fieldsOf := by
    rw [hrow]
    exact List.flatMap_congr fun i hi => by rw [fieldsOf, fieldsOf, hinput i hi]
  have hconnections : ws'.connectionsOf b = ws.connectionsOf b := by
    rw [connectionsOf, connectionsOf, rolesOf, rolesOf, hrow]
    refine List.filterMap_congr fun r hr => ?_
    cases r with
    | previous => rw [listed?, listed?, previous?, previous?, hblock]
    | next => rw [listed?, listed?, next?, next?, hblock]
    | output => rw [listed?, listed?, output?, output?, hblock]
    | socket i =>
        have hi : i ∈ ws.inputsOf b := by simpa using hr
        rw [listed?, listed?, hrow, if_pos hi, if_pos hi, socket?, socket?, hinput i hi]
  rw [idsOf, idsOf, hfields, hconnections, hrow]

/-- **An object lives just as long as its block.** -/
theorem has_iff_hasBlock (hb : ws.hasBlock b = true) (ho : o.block? ws = some b) :
    ws'.has o = true ↔ ws'.hasBlock b = true := by
  constructor
  · intro hlive
    obtain ⟨a, ha, hlive'⟩ := hws'.exists_block_of_has hlive
    obtain rfl : a = b := Option.some.inj (ha.symm.trans (h.block?_eq hws' ho hlive))
    exact hlive'
  · intro hb'
    refine has_of_block ((hws'.mem_idsOf hb').mp ?_)
    rw [h.idsOf_eq hws hws' hb hb']
    exact (hws.mem_idsOf hb).mpr ho

end Evolves

/-! ## Ids given out -/

/-- The ids that an edit gives out: all those of the block that it makes, if it makes one. -/
def handsOut (ws : Workspace) : Edit → List ObjectId
  | .insert spec => (ws.insert spec).2.idsOf (ws.insert spec).1
  | .setLabel _ _ | .connect _ _ | .disconnect _ | .dispose _ => []

/-- The ids that a row of edits gives out, in order. -/
def handedOut : Workspace → List Edit → List ObjectId
  | _, [] => []
  | ws, e :: edits => ws.handsOut e ++ handedOut (ws.applyD e) edits

/-- A new block has new ids: an object that had one of them before would belong to an old block,
which has kept all that belongs to it. -/
lemma Inserted.not_issued (h : ws.Inserted ws') (hws : ws.Owned)
    (ho : o ∈ ws'.idsOf ⟨ws.blocks.size⟩) : ¬ ws.Issued o := by
  intro hissued
  have hnew := (h.owned.mem_idsOf h.new).mp ho
  have hevolves := h.grows.evolves
  have hlive := hevolves.has_of hissued (has_of_block hnew)
  obtain ⟨a, ha, halive⟩ := hws.exists_block_of_has hlive
  have ha' := hevolves.block?_eq h.owned ha (has_of_block hnew)
  obtain rfl : a = ⟨ws.blocks.size⟩ := Option.some.inj (ha'.symm.trans hnew)
  exact lt_irrefl _ (index_lt_of_hasBlock halive)

/-- What is live after a new block is made was live before or belongs to the new block. -/
lemma Inserted.has_or_mem (h : ws.Inserted ws') (hws : ws.Owned) (hlive : ws'.has o = true) :
    ws.has o = true ∨ o ∈ ws'.idsOf ⟨ws.blocks.size⟩ := by
  obtain ⟨a, ha, halive'⟩ := h.owned.exists_block_of_has hlive
  by_cases hnew : a = ⟨ws.blocks.size⟩
  · exact Or.inr ((h.owned.mem_idsOf h.new).mpr (hnew ▸ ha))
  · left
    have halive : ws.hasBlock a = true := by rwa [hasBlock, ← h.old a hnew]
    have hmem := (h.owned.mem_idsOf halive').mpr ha
    rw [h.grows.evolves.idsOf_eq hws h.owned halive halive'] at hmem
    exact has_of_block ((hws.mem_idsOf halive).mp hmem)

lemma SameObjects.has_eq (h : ws.SameObjects ws') (o : ObjectId) : ws'.has o = ws.has o := by
  cases o with
  | block b => exact h.hasBlock b
  | input i => simp only [has, hasInput, h.input]
  | connection c => simp only [has, hasConnection_eq, h.place]
  | field f => simp only [has, hasField, h.field]

lemma has_of_without {gone : List BlockId} (hlive : (ws.without gone).has o = true) :
    ws.has o = true := by
  have hissued : ws.Issued o := by
    have hlater := issued_of_has hlive
    cases o <;> simpa [Issued, without] using hlater
  exact (evolves_without ws gone).has_of hissued hlive

/-- What an edit does to the objects: it leaves them all as they are, or it makes a block, or it
removes the blocks below one. -/
lemma Forest.objects_applyD (h : ws.Forest) (e : Edit) : ws.SameObjects (ws.applyD e) ∨
    (∃ spec, e = .insert spec ∧ ws.Inserted (ws.applyD e)) ∨
      ∃ b mid, e = .dispose b ∧ ws.SameObjects mid ∧
        ws.applyD e = mid.without (mid.subtree b) := by
  rcases applyD_eq ws e with hsame | hok
  · rw [hsame]
    exact Or.inl (.refl ws)
  · cases e with
    | insert spec => exact Or.inr (Or.inl ⟨spec, rfl, insert_draft h.toOwned spec⟩)
    | setLabel b label =>
        obtain ⟨-, heq⟩ := setLabel_eq_ok hok
        exact Or.inl (heq ▸ sameObjects_setLabel ws label b)
    | connect p c =>
        obtain ⟨a, r, b, s, -, -, -, -, -, -, heq⟩ := connect_eq_ok_iff.mp hok
        exact Or.inl (heq ▸ sameObjects_link ws p c b)
    | disconnect c => exact Or.inl (sameObjects_disconnect h.toLinked hok)
    | dispose b =>
        by_cases hb : ws.hasBlock b = true
        · obtain ⟨mid, hrel, -, heq⟩ := dispose_eq_ok h hb
          rw [Workspace.apply, heq, Except.ok.injEq] at hok
          exact Or.inr (Or.inr ⟨b, mid, rfl, h.sameObjects_releases hrel, hok.symm⟩)
        · rw [Workspace.apply, dispose_eq_error hb] at hok
          cases hok

/-- **Where live objects come from**: what is live after an edit was live before, or the edit has
given out its id. -/
theorem Forest.has_or_handsOut (h : ws.Forest) (hlive : (ws.applyD e).has o = true) :
    ws.has o = true ∨ o ∈ ws.handsOut e := by
  obtain hsame | ⟨spec, rfl, hins⟩ | ⟨b, mid, rfl, hsame, heq⟩ := h.objects_applyD e
  · exact Or.inl ((hsame.has_eq o).symm.trans hlive)
  · exact hins.has_or_mem h.toOwned hlive
  · rw [heq] at hlive
    exact Or.inl ((hsame.has_eq o).symm.trans (has_of_without hlive))

/-- **Where they go**: no edit but a disposal takes an object away. -/
theorem Forest.has_applyD (h : ws.Forest) (hlive : ws.has o = true) (he : ∀ b, e ≠ .dispose b) :
    (ws.applyD e).has o = true := by
  obtain hsame | ⟨spec, rfl, hins⟩ | ⟨b, mid, rfl, -⟩ := h.objects_applyD e
  · exact (hsame.has_eq o).trans hlive
  · obtain ⟨a, ha, halive⟩ := h.exists_block_of_has hlive
    have halive' : (ws.applyD (.insert spec)).hasBlock a = true := by
      rwa [hasBlock, hins.grows.block a (index_lt_of_hasBlock halive)]
    exact (hins.grows.evolves.has_iff_hasBlock h.toOwned hins.owned halive ha).mpr halive'
  · exact absurd rfl (he b)

/-- What an edit gives out was not given out before, and is live after the edit. -/
lemma Forest.of_mem_handsOut (h : ws.Forest) (ho : o ∈ ws.handsOut e) :
    ¬ ws.Issued o ∧ (ws.applyD e).has o = true := by
  cases e with
  | insert spec =>
      have hins := insert_draft h.toOwned spec
      exact ⟨hins.not_issued h.toOwned ho, has_of_block ((hins.owned.mem_idsOf hins.new).mp ho)⟩
  | setLabel | connect | disconnect | dispose => cases ho

/-! ## Rows of edits -/

lemma applyAll_append (ws : Workspace) (edits later : List Edit) :
    ws.applyAll (edits ++ later) = (ws.applyAll edits).applyAll later :=
  List.foldl_append

lemma Reachable.applyAll (h : ws.Reachable) (edits : List Edit) :
    (ws.applyAll edits).Reachable := by
  obtain ⟨earlier, rfl⟩ := h
  exact ⟨earlier ++ edits, applyAll_append _ _ _⟩

lemma Reachable.evolves_applyAll (h : ws.Reachable) (edits : List Edit) :
    ws.Evolves (ws.applyAll edits) := by
  induction edits generalizing ws with
  | nil => exact .refl ws
  | cons e edits ih => exact (evolves_applyD h.forest e).trans (ih (h.applyD e))

/-- What a row of edits gives out was not given out before, and has been by its end. -/
lemma Reachable.of_mem_handedOut (h : ws.Reachable) {edits : List Edit}
    (ho : o ∈ handedOut ws edits) : ¬ ws.Issued o ∧ (ws.applyAll edits).Issued o := by
  induction edits generalizing ws with
  | nil => cases ho
  | cons e edits ih =>
      have hevolves := evolves_applyD h.forest e
      rcases List.mem_append.mp ho with ho | ho
      · obtain ⟨hnew, hlive⟩ := h.forest.of_mem_handsOut ho
        exact ⟨hnew, ((h.applyD e).evolves_applyAll edits).issued_id (issued_of_has hlive)⟩
      · obtain ⟨hnew, hissued⟩ := ih (h.applyD e) ho
        exact ⟨fun hold => hnew (hevolves.issued_id hold), hissued⟩

/-- **No id is given out twice.** -/
theorem Reachable.nodup_handedOut (h : ws.Reachable) (edits : List Edit) :
    (handedOut ws edits).Nodup := by
  induction edits generalizing ws with
  | nil => exact List.nodup_nil
  | cons e edits ih =>
      have hfirst : (ws.handsOut e).Nodup := by
        cases e with
        | insert spec => exact (insert_draft h.forest.toOwned spec).owned.nodup_idsOf _
        | setLabel | connect | disconnect | dispose => exact List.nodup_nil
      refine hfirst.append (ih (h.applyD e)) fun o ho ho' => ?_
      exact ((h.applyD e).of_mem_handedOut ho').1
        (issued_of_has (h.forest.of_mem_handsOut ho).2)

/-- **What is live at the end** of a row of edits was live before it, or the row has given out its
id. -/
theorem Reachable.has_or_handedOut (h : ws.Reachable) {edits : List Edit}
    (hlive : (ws.applyAll edits).has o = true) : ws.has o = true ∨ o ∈ handedOut ws edits := by
  induction edits generalizing ws with
  | nil => exact Or.inl hlive
  | cons e edits ih =>
      rw [handedOut, List.mem_append]
      rcases ih (h.applyD e) hlive with hlive | ho
      · exact (h.forest.has_or_handsOut hlive).imp_right Or.inl
      · exact Or.inr (Or.inr ho)

/-- **What is gone has been disposed**: among the edits that an object does not outlive there is a
disposal. -/
theorem Reachable.disposed_of_gone (h : ws.Reachable) {edits : List Edit} (hlive : ws.has o = true)
    (hgone : (ws.applyAll edits).has o = false) : ∃ b, Edit.dispose b ∈ edits := by
  induction edits generalizing ws with
  | nil =>
      rw [show ws.applyAll [] = ws from rfl, hlive] at hgone
      cases hgone
  | cons e edits ih =>
      by_cases he : ∃ b, e = .dispose b
      · obtain ⟨b, rfl⟩ := he
        exact ⟨b, List.mem_cons_self⟩
      · have hlive' := h.forest.has_applyD hlive fun b hb => he ⟨b, hb⟩
        obtain ⟨b, hb⟩ := ih (h.applyD e) hlive' hgone
        exact ⟨b, List.mem_cons_of_mem _ hb⟩

end Workspace

end BlockCursor
