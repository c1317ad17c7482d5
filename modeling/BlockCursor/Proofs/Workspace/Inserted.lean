import BlockCursor.Proofs.Workspace.Forest

/-!
# Inserting

A new block is made in parts: its own connections first, then each input with its socket and its
row, and the block itself last.  In between there are connections and inputs whose block is not
there yet, so the steps are followed on the workspace that already has the block in the state it
has reached (`withBlock`): `Draft` is what holds after each of them.

* `Workspace.Grows` — no number that was given out changes its meaning.
* `Draft.addConnectionIf`, `Draft.addInput`, `Draft.addInputs` — the steps.
* **`insert_draft`** — what an insertion does.
* **`Forest.insert`** — it keeps a forest.
-/

namespace BlockCursor

namespace Block

/-- One of a block's own connections; sockets are not among them. -/
def own (B : Block) : Role → Option ConnectionId
  | .previous => B.previous
  | .next => B.next
  | .output => B.output
  | .socket _ => none

/-- The block with one of its own connections set. -/
def put (B : Block) : Role → Option ConnectionId → Block
  | .previous, c => { B with previous := c }
  | .next, c => { B with next := c }
  | .output, c => { B with output := c }
  | .socket _, _ => B

lemma own_put (B : Block) {r : Role} (hr : r.input? = none) (c : Option ConnectionId) (q : Role) :
    (B.put r c).own q = if q = r then c else B.own q := by
  cases r <;> cases q <;> first | rfl | cases hr

lemma inputs_put (B : Block) (r : Role) (c : Option ConnectionId) :
    (B.put r c).inputs = B.inputs := by
  cases r <;> rfl

end Block

namespace Workspace

variable {ws ws' ws₀ : Workspace} {b : BlockId} {c : ConnectionId} {i : InputId} {B : Block}
  {r : Role}

/-! ## Growing -/

/-- Every number that was given out still stands for what it stood for. -/
structure Grows (ws ws' : Workspace) : Prop where
  block : ∀ b, b.index < ws.blocks.size → ws'.block? b = ws.block? b
  input : ∀ i, i.index < ws.inputs.size → ws'.input? i = ws.input? i
  connection : ∀ c, c.index < ws.connections.size → ws'.connection? c = ws.connection? c
  field : ∀ f, f.index < ws.fields.size → ws'.field? f = ws.field? f
  blocks_le : ws.blocks.size ≤ ws'.blocks.size
  inputs_le : ws.inputs.size ≤ ws'.inputs.size
  connections_le : ws.connections.size ≤ ws'.connections.size
  fields_le : ws.fields.size ≤ ws'.fields.size

lemma Grows.refl (ws : Workspace) : ws.Grows ws where
  block _ _ := rfl
  input _ _ := rfl
  connection _ _ := rfl
  field _ _ := rfl
  blocks_le := le_rfl
  inputs_le := le_rfl
  connections_le := le_rfl
  fields_le := le_rfl

lemma Grows.trans {ws'' : Workspace} (h : ws.Grows ws') (h' : ws'.Grows ws'') : ws.Grows ws'' where
  block b hb := (h'.block b (hb.trans_le h.blocks_le)).trans (h.block b hb)
  input i hi := (h'.input i (hi.trans_le h.inputs_le)).trans (h.input i hi)
  connection c hc := (h'.connection c (hc.trans_le h.connections_le)).trans (h.connection c hc)
  field f hf := (h'.field f (hf.trans_le h.fields_le)).trans (h.field f hf)
  blocks_le := h.blocks_le.trans h'.blocks_le
  inputs_le := h.inputs_le.trans h'.inputs_le
  connections_le := h.connections_le.trans h'.connections_le
  fields_le := h.fields_le.trans h'.fields_le

/-! ## One object more -/

lemma block?_push (ws : Workspace) (x : Block) (b : BlockId) :
    ({ ws with blocks := ws.blocks.push x }).block? b =
      if b = ⟨ws.blocks.size⟩ then some x else ws.block? b := by
  have hiff : b.index = ws.blocks.size ↔ b = ⟨ws.blocks.size⟩ := by cases b; simp
  simp only [block?, Arena.get?_push, hiff]

lemma input?_push (ws : Workspace) (x : Input) (i : InputId) :
    ({ ws with inputs := ws.inputs.push x }).input? i =
      if i = ⟨ws.inputs.size⟩ then some x else ws.input? i := by
  have hiff : i.index = ws.inputs.size ↔ i = ⟨ws.inputs.size⟩ := by cases i; simp
  simp only [input?, Arena.get?_push, hiff]

lemma field?_push (ws : Workspace) (x : Field) (f : FieldId) :
    ({ ws with fields := ws.fields.push x }).field? f =
      if f = ⟨ws.fields.size⟩ then some x else ws.field? f := by
  have hiff : f.index = ws.fields.size ↔ f = ⟨ws.fields.size⟩ := by cases f; simp
  simp only [field?, Arena.get?_push, hiff]

lemma connection?_addConnection (ws : Workspace) (b : BlockId) (r : Role) (c : ConnectionId) :
    (ws.addConnection b r).2.connection? c =
      if c = ⟨ws.connections.size⟩ then some ⟨b, r, none⟩ else ws.connection? c := by
  have hiff : c.index = ws.connections.size ↔ c = ⟨ws.connections.size⟩ := by cases c; simp
  simp only [connection?, addConnection, Arena.get?_push, hiff]

/-- The first number not given out has no object. -/
lemma connection?_size (ws : Workspace) : ws.connection? ⟨ws.connections.size⟩ = none :=
  Arena.get?_eq_none_of_size_le le_rfl

lemma input?_size (ws : Workspace) : ws.input? ⟨ws.inputs.size⟩ = none :=
  Arena.get?_eq_none_of_size_le le_rfl

lemma block?_size (ws : Workspace) : ws.block? ⟨ws.blocks.size⟩ = none :=
  Arena.get?_eq_none_of_size_le le_rfl

lemma grows_addConnection (ws : Workspace) (b : BlockId) (r : Role) :
    ws.Grows (ws.addConnection b r).2 where
  block _ _ := rfl
  input _ _ := rfl
  connection c hc := by
    rw [connection?_addConnection, if_neg]
    rintro rfl
    exact lt_irrefl _ hc
  field _ _ := rfl
  blocks_le := le_rfl
  inputs_le := le_rfl
  connections_le := by simp [addConnection]
  fields_le := le_rfl

lemma grows_pushInput (ws : Workspace) (x : Input) :
    ws.Grows { ws with inputs := ws.inputs.push x } where
  block _ _ := rfl
  input i hi := by
    rw [input?_push, if_neg]
    rintro rfl
    exact lt_irrefl _ hi
  connection _ _ := rfl
  field _ _ := rfl
  blocks_le := le_rfl
  inputs_le := by simp
  connections_le := le_rfl
  fields_le := le_rfl

/-! ## A connection, if it is wanted -/

lemma place?_size (ws : Workspace) : ws.place? ⟨ws.connections.size⟩ = none := by
  rw [place?, connection?_size, Option.map_none]

/-- What making a connection does, or leaving it: a new one is free and in its place. -/
structure ConnectionAdded (ws : Workspace) (b : BlockId) (r : Role) (made : Option ConnectionId)
    (ws' : Workspace) : Prop where
  rest : ws' = { ws with connections := ws'.connections }
  grows : ws.Grows ws'
  target : ∀ c, ws'.target? c = ws.target? c
  place : ∀ c, ws'.place? c = if made = some c then some (b, r) else ws.place? c
  fresh : ∀ c, made = some c → ws.place? c = none

lemma connectionAdded_addConnectionIf (ws : Workspace) (wanted : Bool) (b : BlockId) (r : Role) :
    ConnectionAdded ws b r (ws.addConnectionIf wanted b r).1 (ws.addConnectionIf wanted b r).2 := by
  cases wanted with
  | false =>
      refine ⟨rfl, .refl ws, fun _ => rfl, fun c => ?_, fun c hc => ?_⟩
      · exact (if_neg (Option.some_ne_none c).symm).symm
      · cases hc
  | true =>
      refine ⟨rfl, grows_addConnection ws b r, fun c => ?_, fun c => ?_, fun c hc => ?_⟩
      · show (ws.addConnection b r).2.target? c = _
        rw [target?, connection?_addConnection, target?]
        split
        case isTrue hc => simp [hc, connection?_size]
        case isFalse => rfl
      · show (ws.addConnection b r).2.place? c = if some _ = some c then _ else _
        rw [place?, connection?_addConnection, place?]
        simp only [Option.some.injEq, eq_comm (a := c)]
        split <;> rfl
      · cases hc
        exact place?_size ws

lemma isSome_addConnectionIf (ws : Workspace) (wanted : Bool) (b : BlockId) (r : Role) :
    (ws.addConnectionIf wanted b r).1.isSome = wanted := by
  cases wanted <;> rfl

/-! ## A row of fields -/

/-- What numbering a row of fields does: the new fields are in the row, each once, and name the
input of the row. -/
structure RowAdded (ws : Workspace) (i : InputId) (row : List FieldId) (ws' : Workspace) :
    Prop where
  rest : ws' = { ws with fields := ws'.fields }
  fields_le : ws.fields.size ≤ ws'.fields.size
  field : ∀ f, f.index < ws.fields.size → ws'.field? f = ws.field? f
  fieldInput : ∀ f, ws'.fieldInput? f = if f ∈ row then some i else ws.fieldInput? f
  fresh : ∀ f ∈ row, ws.fields.size ≤ f.index
  nodup : row.Nodup

lemma rowAdded_addFields (i : InputId) : ∀ (specs : List FieldSpec) (ws : Workspace),
    RowAdded ws i (ws.addFields i specs).1 (ws.addFields i specs).2
  | [], ws => by
      refine ⟨rfl, le_rfl, fun _ _ => rfl, fun f => ?_, ?_, List.nodup_nil⟩
      · simp [addFields]
      · simp [addFields]
  | spec :: rest, ws => by
      set one : Workspace := { ws with fields := ws.fields.push ⟨i, spec.name, spec.editable⟩ }
        with hone
      have ih := rowAdded_addFields i rest one
      have hsize : one.fields.size = ws.fields.size + 1 := Arena.size_push _ _
      have hle := ih.fields_le
      have hhead : (⟨ws.fields.size⟩ : FieldId) ∉ (one.addFields i rest).1 := by
        intro hmem
        have hlt : one.fields.size ≤ ws.fields.size := ih.fresh _ hmem
        omega
      have hinput : ∀ f, one.fieldInput? f =
          if f = ⟨ws.fields.size⟩ then some i else ws.fieldInput? f := by
        intro f
        rw [fieldInput?, hone, field?_push, fieldInput?]
        split <;> rfl
      have heq : ws.addFields i (spec :: rest) =
          (⟨ws.fields.size⟩ :: (one.addFields i rest).1, (one.addFields i rest).2) := rfl
      rw [heq]
      refine ⟨?_, ?_, ?_, ?_, ?_, List.nodup_cons.mpr ⟨hhead, ih.nodup⟩⟩
      · rw [ih.rest]
      · show ws.fields.size ≤ (one.addFields i rest).2.fields.size
        omega
      · intro f hf
        rw [ih.field f (by omega), hone, field?_push, if_neg]
        rintro rfl
        exact lt_irrefl _ hf
      · intro f
        rw [ih.fieldInput, hinput]
        by_cases hf : f = ⟨ws.fields.size⟩
        · simp [hf, hhead]
        · simp [hf]
      · intro f hf
        rcases List.mem_cons.mp hf with rfl | hf
        · exact le_rfl
        · have := ih.fresh f hf
          omega

lemma RowAdded.grows {row : List FieldId} (h : RowAdded ws i row ws') : ws.Grows ws' where
  block _ _ := by
    rw [h.rest]
    rfl
  input _ _ := by
    rw [h.rest]
    rfl
  connection _ _ := by
    rw [h.rest]
    rfl
  field := h.field
  blocks_le := by rw [h.rest]
  inputs_le := by rw [h.rest]
  connections_le := by rw [h.rest]
  fields_le := h.fields_le

/-! ## An input with its parts -/

/-- What making an input does: there is one input more, perhaps a socket, and a row of fields, and
they name each other and the block. -/
structure InputAdded (ws : Workspace) (b : BlockId) (spec : InputSpec)
    (socket : Option ConnectionId) (row : List FieldId) (ws' : Workspace) : Prop where
  blocks : ws'.blocks = ws.blocks
  tops : ws'.tops = ws.tops
  labels : ws'.labels = ws.labels
  grows : ws.Grows ws'
  target : ∀ c, ws'.target? c = ws.target? c
  input : ∀ j, ws'.input? j = if j = ⟨ws.inputs.size⟩ then
    some ⟨b, spec.name, spec.kind, row, socket⟩ else ws.input? j
  place : ∀ c, ws'.place? c = if socket = some c then
    some (b, .socket ⟨ws.inputs.size⟩) else ws.place? c
  fieldInput : ∀ f, ws'.fieldInput? f = if f ∈ row then
    some ⟨ws.inputs.size⟩ else ws.fieldInput? f
  socket_isSome : socket.isSome = spec.kind.hasSocket
  socket_fresh : ∀ c, socket = some c → ws.place? c = none
  row_fresh : ∀ f ∈ row, ws.fieldInput? f = none
  row_nodup : row.Nodup

lemma inputAdded_addInput (ws : Workspace) (b : BlockId) (spec : InputSpec) :
    (ws.addInput b spec).1 = ⟨ws.inputs.size⟩ ∧
      ∃ socket row, InputAdded ws b spec socket row (ws.addInput b spec).2 := by
  set i : InputId := ⟨ws.inputs.size⟩ with hi
  set socket := (ws.addConnectionIf spec.kind.hasSocket b (.socket i)).1 with hsocket
  set one := (ws.addConnectionIf spec.kind.hasSocket b (.socket i)).2
  have hone : ConnectionAdded ws b (.socket i) socket one :=
    connectionAdded_addConnectionIf ws spec.kind.hasSocket b (.socket i)
  have hrow := rowAdded_addFields i spec.fields one
  set row := (one.addFields i spec.fields).1
  set two := (one.addFields i spec.fields).2
  have htwo : (ws.addInput b spec).2 =
      { two with inputs := two.inputs.push ⟨b, spec.name, spec.kind, row, socket⟩ } := rfl
  have hinputs : two.inputs = ws.inputs := by rw [hrow.rest, hone.rest]
  have hconnections : two.connections = one.connections := by rw [hrow.rest]
  have hgrows : ws.Grows (ws.addInput b spec).2 :=
    (hone.grows.trans hrow.grows).trans (grows_pushInput two _)
  refine ⟨rfl, socket, row, ?blocks, ?tops, ?labels, hgrows, ?target, ?input, ?place, ?fieldInput,
    isSome_addConnectionIf ws spec.kind.hasSocket b (.socket i), hone.fresh, ?row_fresh,
    hrow.nodup⟩
  case blocks => rw [htwo, hrow.rest, hone.rest]
  case tops => rw [htwo, hrow.rest, hone.rest]
  case labels => rw [htwo, hrow.rest, hone.rest]
  case target =>
    intro c
    rw [htwo, ← hone.target]
    simp only [target?, connection?, hconnections]
  case input =>
    intro j
    rw [htwo, input?_push, hinputs]
    simp only [input?, hinputs]
  case place =>
    intro c
    rw [htwo, ← hone.place]
    simp only [place?, connection?, hconnections]
  case fieldInput =>
    intro f
    have hf := hrow.fieldInput f
    rw [htwo]
    rw [hone.rest] at hf
    exact hf
  case row_fresh =>
    intro f hf
    have hle := hrow.fresh f hf
    rw [hone.rest] at hle
    rw [fieldInput?, field?, Arena.get?_eq_none_of_size_le hle, Option.map_none]

/-! ## The block in the making -/

/-- The workspace with a block that is not yet there, in the state that it has reached. -/
def withBlock (ws : Workspace) (B : Block) : Workspace :=
  { ws with blocks := ws.blocks.push B }

lemma block?_withBlock (ws : Workspace) (B : Block) (b : BlockId) :
    (ws.withBlock B).block? b = if b = ⟨ws.blocks.size⟩ then some B else ws.block? b :=
  block?_push ws B b

lemma inputsOf_withBlock (ws : Workspace) (B : Block) (b : BlockId) :
    (ws.withBlock B).inputsOf b = if b = ⟨ws.blocks.size⟩ then B.inputs else ws.inputsOf b := by
  rw [inputsOf, block?_withBlock, inputsOf]
  split <;> rfl

lemma listed?_eq_own (hb : ws.block? b = some B) (hr : r.input? = none) :
    ws.listed? b r = B.own r := by
  cases r with
  | socket i => cases hr
  | previous => rw [listed?, previous?, hb]; rfl
  | next => rw [listed?, next?, hb]; rfl
  | output => rw [listed?, output?, hb]; rfl

/-- A connection more or none, listed by its block, keeps ownership. -/
lemma Owned.of_connectionAdded (h : ws.Owned) {made : Option ConnectionId}
    (hinputs : ∀ u, ws'.inputsOf u = ws.inputsOf u)
    (hinput : ∀ i, ws'.input? i = ws.input? i) (hfield : ∀ f, ws'.field? f = ws.field? f)
    (hplace : ∀ d, ws'.place? d = if made = some d then some (b, r) else ws.place? d)
    (hlisted : ∀ u q, ws'.listed? u q = if u = b ∧ q = r then made else ws.listed? u q)
    (hfresh : ∀ d, made = some d → ws.place? d = none) (hfree : ws.listed? b r = none) :
    ws'.Owned where
  listed_iff u q d := by
    have hold := h.listed_iff u q d
    rw [hplace, hlisted]
    by_cases hu : u = b ∧ q = r
    · obtain ⟨rfl, rfl⟩ := hu
      rw [if_pos ⟨rfl, rfl⟩]
      by_cases hd : made = some d
      · simp [hd]
      · rw [hfree] at hold
        simp [hd, ← hold]
    · rw [if_neg hu]
      by_cases hd : made = some d
      · rw [hfresh d hd] at hold
        rw [if_pos hd, hold]
        simp only [Option.some.injEq, Prod.mk.injEq, reduceCtorEq, false_iff]
        exact fun hbr => hu ⟨hbr.1.symm, hbr.2.symm⟩
      · rw [if_neg hd, hold]
  input_iff u j := by
    simpa only [hinputs, inputBlock?, hinput] using h.input_iff u j
  field_iff j f := by
    simpa only [fieldsOf, fieldInput?, hinput, hfield] using h.field_iff j f
  inputs_nodup u := by
    simpa only [hinputs] using h.inputs_nodup u
  fields_nodup j := by
    simpa only [fieldsOf, hinput] using h.fields_nodup j
  socket_isSome j := by
    simpa only [socket?, inputKind?, hinput] using h.socket_isSome j

/-- An input that is not there is in no list. -/
lemma Owned.not_mem_inputsOf (h : ws.Owned) (hi : ws.input? i = none) (u : BlockId) :
    i ∉ ws.inputsOf u := by
  intro hiu
  have := (h.input_iff u i).mp hiu
  simp [inputBlock?, hi] at this

section InputAdded

variable {old new : Workspace} {x : Input} (h : old.Owned) (hi : old.input? i = none)
  (hinputs : ∀ u, new.inputsOf u = if u = x.block then old.inputsOf u ++ [i] else old.inputsOf u)
  (hlisted : ∀ u q, q.input? = none → new.listed? u q = old.listed? u q)
  (hinput : ∀ j, new.input? j = if j = i then some x else old.input? j)
  (hplace : ∀ d, new.place? d = if x.socket = some d then some (x.block, .socket i)
    else old.place? d)
  (hsocket : ∀ d, x.socket = some d → old.place? d = none)
include h hi hinputs hlisted hinput hplace hsocket

omit h hi hlisted hinput hplace hsocket in
lemma mem_inputsOf_of_inputAdded (u : BlockId) (j : InputId) :
    j ∈ new.inputsOf u ↔ j ∈ old.inputsOf u ∨ u = x.block ∧ j = i := by
  rw [hinputs]
  by_cases hu : u = x.block <;> simp [hu]

/-- With one more input, blocks still list just the connections that name them: the input's socket
is new, and no other list or place changes. -/
lemma Owned.listed_iff_of_inputAdded (u : BlockId) (q : Role) (d : ConnectionId) :
    new.listed? u q = some d ↔ new.place? d = some (u, q) := by
  have hiff := h.listed_iff u q d
  cases hq : q.input? with
  | none =>
      rw [hlisted u q hq, hplace, hiff]
      split
      case isTrue hd =>
        rw [hsocket d hd]
        simp only [reduceCtorEq, Option.some.injEq, Prod.mk.injEq, false_iff]
        rintro ⟨-, rfl⟩
        cases hq
      case isFalse => rfl
  | some j =>
      obtain rfl : q = .socket j := by cases q <;> cases hq; rfl
      rw [listed?_socket, mem_inputsOf_of_inputAdded hinputs, socket?, hinput, hplace]
      by_cases hj : j = i
      · subst hj
        rw [if_pos rfl]
        have hold : old.place? d ≠ some (u, .socket j) := by
          intro hd
          exact h.not_mem_inputsOf hi u (listed?_socket.mp (hiff.mpr hd)).1
        by_cases hd : x.socket = some d
        · simp [hd, h.not_mem_inputsOf hi u, eq_comm (a := u)]
        · simp [hd, hold]
      · rw [if_neg hj]
        rw [listed?_socket, socket?] at hiff
        by_cases hd : x.socket = some d
        · rw [hsocket d hd] at hiff
          simp only [reduceCtorEq, iff_false] at hiff
          simp [hd, hj, Ne.symm hj, hiff]
        · simp [hd, hj, hiff]

/-- An input more with its socket and its row, listed by its block, keeps ownership. -/
lemma Owned.of_inputAdded
    (hfield : ∀ f, new.fieldInput? f = if f ∈ x.fields then some i else old.fieldInput? f)
    (hrow : ∀ f ∈ x.fields, old.fieldInput? f = none) (hnodup : x.fields.Nodup)
    (hsome : x.socket.isSome = x.kind.hasSocket) : new.Owned where
  listed_iff := h.listed_iff_of_inputAdded hi hinputs hlisted hinput hplace hsocket
  input_iff u j := by
    rw [mem_inputsOf_of_inputAdded hinputs, inputBlock?, hinput]
    by_cases hj : j = i
    · simp [hj, h.not_mem_inputsOf hi u, eq_comm (a := u)]
    · simp only [hj, and_false, or_false, if_false]
      exact h.input_iff u j
  field_iff j f := by
    have hiff := h.field_iff j f
    rw [fieldsOf, hinput, hfield]
    by_cases hj : j = i
    · subst hj
      have hold : old.fieldInput? f ≠ some j := by
        intro hf
        have := (h.field_iff j f).mpr hf
        simp [fieldsOf, hi] at this
      by_cases hf : f ∈ x.fields <;> simp [hf, hold]
    · rw [if_neg hj]
      by_cases hf : f ∈ x.fields
      · rw [hrow f hf] at hiff
        simp only [reduceCtorEq, iff_false] at hiff
        simp only [hf, if_true, Option.some.injEq, Ne.symm hj, iff_false]
        exact hiff
      · rw [if_neg hf]
        exact hiff
  inputs_nodup u := by
    rw [hinputs]
    split
    · refine List.nodup_append.mpr ⟨h.inputs_nodup u, List.nodup_singleton i, ?_⟩
      intro j hj k hk hjk
      rw [hjk, List.mem_singleton.mp hk] at hj
      exact h.not_mem_inputsOf hi u hj
    · exact h.inputs_nodup u
  fields_nodup j := by
    rw [fieldsOf, hinput]
    split
    · exact hnodup
    · exact h.fields_nodup j
  socket_isSome j := by
    rw [socket?, inputKind?, hinput]
    split
    · exact hsome
    · exact h.socket_isSome j

end InputAdded

/-- What holds while the block `B` is being made on top of the workspace `ws₀`. -/
structure Draft (ws₀ ws : Workspace) (B : Block) : Prop where
  owned : (ws.withBlock B).Owned
  grows : ws₀.Grows ws
  blocks : ws.blocks = ws₀.blocks
  tops : ws.tops = ws₀.tops
  labels : ws.labels = ws₀.labels
  target : ∀ c, ws.target? c = ws₀.target? c

/-- A block that lists nothing can be added at any time. -/
lemma Draft.start (h : ws.Owned) (kind : String) :
    Draft ws ws { kind, previous := none, next := none, output := none, inputs := [] } where
  owned := by
    set B : Block := { kind, previous := none, next := none, output := none, inputs := [] }
    have hnew : ws.block? ⟨ws.blocks.size⟩ = none := block?_size ws
    have hblock : ∀ u, (ws.withBlock B).block? u =
        if u = ⟨ws.blocks.size⟩ then some B else ws.block? u := block?_withBlock ws B
    have hlisted : ∀ u q, (ws.withBlock B).listed? u q = ws.listed? u q := by
      intro u q
      by_cases hu : u = ⟨ws.blocks.size⟩
      · subst hu
        cases q <;> simp [listed?, previous?, next?, output?, inputsOf, hblock, hnew, B]
      · have hsame : (ws.withBlock B).block? u = ws.block? u := by rw [hblock, if_neg hu]
        exact listed?_congr hsame fun _ => rfl
    have hinputs : ∀ u, (ws.withBlock B).inputsOf u = ws.inputsOf u := by
      intro u
      rw [inputsOf_withBlock]
      split
      case isTrue hu => simp [hu, inputsOf, hnew, B]
      case isFalse => rfl
    refine ⟨fun u q d => ?_, fun u i => ?_, h.field_iff, fun u => ?_, h.fields_nodup,
      h.socket_isSome⟩
    · rw [hlisted]
      exact h.listed_iff u q d
    · rw [hinputs]
      exact h.input_iff u i
    · rw [hinputs]
      exact h.inputs_nodup u
  grows := .refl ws
  blocks := rfl
  tops := rfl
  labels := rfl
  target _ := rfl

/-- **One of the block's own connections keeps the draft.** -/
lemma Draft.addConnectionIf (h : Draft ws₀ ws B) (wanted : Bool) (hr : r.input? = none)
    (hfree : (ws.withBlock B).listed? ⟨ws.blocks.size⟩ r = none) :
    Draft ws₀ (ws.addConnectionIf wanted ⟨ws.blocks.size⟩ r).2
      (B.put r (ws.addConnectionIf wanted ⟨ws.blocks.size⟩ r).1) := by
  have hadd := connectionAdded_addConnectionIf ws wanted ⟨ws.blocks.size⟩ r
  set made := (ws.addConnectionIf wanted ⟨ws.blocks.size⟩ r).1
  set one := (ws.addConnectionIf wanted ⟨ws.blocks.size⟩ r).2
  have hblocks : one.blocks = ws.blocks := by rw [hadd.rest]
  set B' := B.put r made
  have hput : B'.inputs = B.inputs := B.inputs_put r made
  have hblock : ∀ u, u ≠ ⟨ws.blocks.size⟩ →
      (one.withBlock B').block? u = (ws.withBlock B).block? u := by
    intro u hu
    rw [block?_withBlock, block?_withBlock, hblocks, if_neg hu, if_neg hu, block?, block?, hblocks]
  have hself : (one.withBlock B').block? ⟨ws.blocks.size⟩ = some B' := by
    rw [block?_withBlock, hblocks, if_pos rfl]
  have hself₀ : (ws.withBlock B).block? ⟨ws.blocks.size⟩ = some B := by
    rw [block?_withBlock, if_pos rfl]
  have hinput : ∀ i, (one.withBlock B').input? i = (ws.withBlock B).input? i := by
    intro i
    show one.input? i = ws.input? i
    rw [hadd.rest]
    rfl
  have hfield : ∀ f, (one.withBlock B').field? f = (ws.withBlock B).field? f := by
    intro f
    show one.field? f = ws.field? f
    rw [hadd.rest]
    rfl
  have hsocket : ∀ i, (one.withBlock B').socket? i = (ws.withBlock B).socket? i := by
    intro i
    rw [socket?, hinput, socket?]
  have hinputs : ∀ u, (one.withBlock B').inputsOf u = (ws.withBlock B).inputsOf u := by
    intro u
    by_cases hu : u = ⟨ws.blocks.size⟩
    · rw [hu, inputsOf, inputsOf, hself, hself₀, Option.map_some, Option.map_some, hput]
    · rw [inputsOf, inputsOf, hblock u hu]
  have hlisted : ∀ u q, (one.withBlock B').listed? u q =
      if u = ⟨ws.blocks.size⟩ ∧ q = r then made else (ws.withBlock B).listed? u q := by
    intro u q
    by_cases hu : u = ⟨ws.blocks.size⟩
    · subst hu
      cases hq : q.input? with
      | some i =>
          have hqr : q ≠ r := by
            rintro rfl
            rw [hq] at hr
            cases hr
          have hqs : q = .socket i := by cases q <;> cases hq; rfl
          rw [if_neg fun hbr => hqr hbr.2, hqs, listed?, listed?, hinputs, hsocket]
      | none =>
          rw [listed?_eq_own hself hq, listed?_eq_own hself₀ hq, B.own_put hr]
          simp only [true_and]
    · rw [if_neg fun hbr => hu hbr.1]
      exact listed?_congr (hblock u hu) hsocket
  refine ⟨h.owned.of_connectionAdded hinputs hinput hfield hadd.place hlisted hadd.fresh hfree,
    h.grows.trans hadd.grows, hblocks.trans h.blocks, ?_, ?_,
    fun c => (hadd.target c).trans (h.target c)⟩
  · rw [hadd.rest]
    exact h.tops
  · rw [hadd.rest]
    exact h.labels

/-- **One input more keeps the draft.** -/
lemma Draft.addInput (h : Draft ws₀ ws B) (spec : InputSpec) :
    Draft ws₀ (ws.addInput ⟨ws.blocks.size⟩ spec).2
      { B with inputs := B.inputs ++ [(ws.addInput ⟨ws.blocks.size⟩ spec).1] } := by
  obtain ⟨hid, socket, row, hadd⟩ := inputAdded_addInput ws ⟨ws.blocks.size⟩ spec
  rw [hid]
  set b : BlockId := ⟨ws.blocks.size⟩
  set i : InputId := ⟨ws.inputs.size⟩
  set one := (ws.addInput b spec).2
  set B' : Block := { B with inputs := B.inputs ++ [i] }
  set old := ws.withBlock B with hold
  set new := one.withBlock B' with hnew
  have hblock : ∀ u, u ≠ b → new.block? u = old.block? u := by
    intro u hu
    rw [hnew, hold, block?_withBlock, block?_withBlock, hadd.blocks, if_neg hu, if_neg hu, block?,
      block?, hadd.blocks]
  have hself : new.block? b = some B' := by
    rw [hnew, block?_withBlock, hadd.blocks, if_pos rfl]
  have hself₀ : old.block? b = some B := by
    rw [hold, block?_withBlock, if_pos rfl]
  have hinputs : ∀ u, new.inputsOf u = if u = b then old.inputsOf u ++ [i] else old.inputsOf u := by
    intro u
    by_cases hu : u = b
    · rw [if_pos hu, hu, inputsOf, inputsOf, hself, hself₀]
      rfl
    · rw [if_neg hu, inputsOf, inputsOf, hblock u hu]
  have hlisted : ∀ u q, q.input? = none → new.listed? u q = old.listed? u q := by
    intro u q hq
    by_cases hu : u = b
    · rw [hu, listed?_eq_own hself hq, listed?_eq_own hself₀ hq]
      cases q <;> rfl
    · cases q with
      | socket j => cases hq
      | previous => rw [listed?, listed?, previous?, previous?, hblock u hu]
      | next => rw [listed?, listed?, next?, next?, hblock u hu]
      | output => rw [listed?, listed?, output?, output?, hblock u hu]
  refine ⟨h.owned.of_inputAdded (x := ⟨b, spec.name, spec.kind, row, socket⟩) (input?_size ws)
    hinputs hlisted hadd.input hadd.place hadd.socket_fresh hadd.fieldInput hadd.row_fresh
    hadd.row_nodup hadd.socket_isSome, h.grows.trans hadd.grows, hadd.blocks.trans h.blocks,
    hadd.tops.trans h.tops, hadd.labels.trans h.labels,
    fun c => (hadd.target c).trans (h.target c)⟩

/-- **More inputs keep the draft.** -/
lemma Draft.addInputs (h : Draft ws₀ ws B) : ∀ specs : List InputSpec,
    Draft ws₀ (ws.addInputs ⟨ws.blocks.size⟩ specs).2
      { B with inputs := B.inputs ++ (ws.addInputs ⟨ws.blocks.size⟩ specs).1 } := by
  intro specs
  induction specs generalizing ws B with
  | nil => simpa [Workspace.addInputs] using h
  | cons spec rest ih =>
      have hone := h.addInput spec
      have hblocks : (ws.addInput ⟨ws.blocks.size⟩ spec).2.blocks = ws.blocks := by
        rw [hone.blocks, h.blocks]
      have hrest := ih hone
      rw [hblocks] at hrest
      simpa [Workspace.addInputs] using hrest

/-! ## The whole insertion -/

/-- What an insertion does: the new block is the last top, and nothing that was there changes. -/
structure Inserted (ws ws' : Workspace) : Prop where
  owned : ws'.Owned
  grows : ws.Grows ws'
  size : ws'.blocks.size = ws.blocks.size + 1
  new : ws'.hasBlock ⟨ws.blocks.size⟩ = true
  old : ∀ b, b ≠ ⟨ws.blocks.size⟩ → ws'.block? b = ws.block? b
  tops : ws'.tops = ws.tops ++ [⟨ws.blocks.size⟩]
  labels : ws'.labels = ws.labels
  target : ∀ c, ws'.target? c = ws.target? c

/-- A finished draft, put on the workspace, is an insertion. -/
lemma Draft.finish (h : Draft ws₀ ws B) :
    Inserted ws₀ { ws.withBlock B with tops := ws.tops ++ [⟨ws₀.blocks.size⟩] } where
  owned := h.owned.congr ⟨fun _ => rfl, fun _ => rfl, fun _ => rfl, fun _ => rfl⟩
  grows := by
    refine ⟨fun b hb => ?_, h.grows.input, h.grows.connection, h.grows.field, ?_,
      h.grows.inputs_le, h.grows.connections_le, h.grows.fields_le⟩
    · show (ws.withBlock B).block? b = _
      rw [block?_withBlock, if_neg]
      · exact h.grows.block b hb
      · rintro rfl
        rw [h.blocks] at hb
        exact lt_irrefl _ hb
    · show ws₀.blocks.size ≤ (ws.blocks.push B).size
      rw [Arena.size_push, h.blocks]
      exact Nat.le_succ _
  size := by
    show (ws.blocks.push B).size = _
    rw [Arena.size_push, h.blocks]
  new := by
    show ((ws.withBlock B).block? ⟨ws₀.blocks.size⟩).isSome = true
    rw [block?_withBlock, h.blocks, if_pos rfl]
    rfl
  old b hb := by
    show (ws.withBlock B).block? b = _
    rw [block?_withBlock, h.blocks, if_neg hb, block?, block?, h.blocks]
  tops := by rw [← h.tops]
  labels := h.labels
  target := h.target

/-- **What an insertion does**, put together from its steps. -/
theorem insert_draft (h : ws.Owned) (spec : BlockSpec) : Inserted ws (ws.insert spec).2 := by
  set b : BlockId := ⟨ws.blocks.size⟩
  set one := ws.addConnectionIf spec.previous b .previous with hone
  set two := one.2.addConnectionIf spec.next b .next with htwo
  set three := two.2.addConnectionIf spec.output b .output with hthree
  set four := three.2.addInputs b spec.inputs with hfour
  have hzero := Draft.start h spec.kind
  have h1 : Draft ws one.2 ⟨spec.kind, one.1, none, none, []⟩ := by
    refine hzero.addConnectionIf (r := .previous) spec.previous rfl ?_
    rw [listed?_eq_own (by rw [block?_withBlock, if_pos rfl]) rfl]
    rfl
  have hb1 : (⟨one.2.blocks.size⟩ : BlockId) = b := by rw [h1.blocks]
  have h2 : Draft ws two.2 ⟨spec.kind, one.1, two.1, none, []⟩ := by
    have hadd := h1.addConnectionIf (r := .next) spec.next rfl (by
      rw [listed?_eq_own (by rw [block?_withBlock, if_pos rfl]) rfl]
      rfl)
    rw [hb1] at hadd
    exact hadd
  have hb2 : (⟨two.2.blocks.size⟩ : BlockId) = b := by rw [h2.blocks]
  have h3 : Draft ws three.2 ⟨spec.kind, one.1, two.1, three.1, []⟩ := by
    have hadd := h2.addConnectionIf (r := .output) spec.output rfl (by
      rw [listed?_eq_own (by rw [block?_withBlock, if_pos rfl]) rfl]
      rfl)
    rw [hb2] at hadd
    exact hadd
  have hb3 : (⟨three.2.blocks.size⟩ : BlockId) = b := by rw [h3.blocks]
  have h4 : Draft ws four.2 ⟨spec.kind, one.1, two.1, three.1, four.1⟩ := by
    have hadd := h3.addInputs spec.inputs
    rw [hb3] at hadd
    exact hadd
  exact h4.finish

/-! ## Forests -/

namespace Grows

variable (h : ws.Grows ws')
include h

lemma place {x : BlockId × Role} (hc : ws.place? c = some x) : ws'.place? c = some x := by
  obtain ⟨y, hy, rfl⟩ := Option.map_eq_some_iff.mp hc
  rw [place?, h.connection c (Arena.lt_size_of_get? hy), hy, Option.map_some]

lemma inputKind {k : InputKind} (hi : ws.inputKind? i = some k) : ws'.inputKind? i = some k := by
  obtain ⟨y, hy, rfl⟩ := Option.map_eq_some_iff.mp hi
  rw [inputKind?, h.input i (Arena.lt_size_of_get? hy), hy, Option.map_some]

lemma roleFits {r s : Role} (hrs : ws.roleFits r s = true) : ws'.roleFits r s = true := by
  rw [roleFits_iff] at hrs ⊢
  rcases hrs with hrs | ⟨i, hr, hs, hi⟩ | ⟨i, hr, hs, hi⟩
  · exact Or.inl hrs
  · exact Or.inr (Or.inl ⟨i, hr, hs, h.inputKind hi⟩)
  · exact Or.inr (Or.inr ⟨i, hr, hs, h.inputKind hi⟩)

end Grows

namespace Inserted

variable (hins : Inserted ws ws')
include hins

/-- What is linked after an insertion was linked before, so it is where it was. -/
lemma place_of_linked {x : BlockId × Role} (hc : ws'.target? c ≠ none)
    (hp : ws'.place? c = some x) : ws.place? c = some x := by
  rw [hins.target] at hc
  obtain ⟨d, hd⟩ := Option.ne_none_iff_exists'.mp hc
  obtain ⟨a, r, hold⟩ := exists_place_of_target hd
  rw [hins.grows.place hold] at hp
  rw [hold, hp]

lemma linked (h : ws.Linked) : ws'.Linked := by
  refine ⟨hins.owned, ?symm, ?fit, ?one_up⟩
  case symm =>
    intro c d hcd
    rw [hins.target] at hcd ⊢
    exact h.symm c d hcd
  case fit =>
    intro c d a b r s hcd hc hd
    have hdc : ws'.target? d = some c := by
      rw [hins.target] at hcd ⊢
      exact h.symm c d hcd
    have hc' := hins.place_of_linked (by simp [hcd]) hc
    have hd' := hins.place_of_linked (by simp [hdc]) hd
    rw [hins.target] at hcd
    exact (h.fit c d a b r s hcd hc' hd').imp hins.grows.roleFits hins.grows.roleFits
  case one_up =>
    intro b c d r s hc hd hr hs hcl hdl
    have hc' := hins.place_of_linked hcl hc
    have hd' := hins.place_of_linked hdl hd
    rw [hins.target] at hcl hdl
    exact h.one_up b c d r s hc' hd' hr hs hcl hdl

/-- Nothing is hung elsewhere, and the new block hangs from nothing. -/
lemma holder (h : ws.Linked) (u : BlockId) : ws'.holder? u = ws.holder? u := by
  have hlinked := hins.linked h
  have hback : ∀ p, ws'.holder? u = some p → ws.holder? u = some p := by
    intro p hp
    obtain ⟨a, r, c, s, hpa, hcu, hfit, hpc, hcp⟩ := hlinked.of_holder hp
    have hcu' := hins.place_of_linked (by simp [hcp]) hcu
    rw [hins.target] at hcp
    exact h.holder_of_lower hcu' (isUpper_of_roleFits hfit).2 hcp
  cases hu : ws.holder? u with
  | none =>
      by_contra hne
      obtain ⟨p, hp⟩ := Option.ne_none_iff_exists'.mp hne
      rw [hback p hp] at hu
      cases hu
  | some p =>
      obtain ⟨a, r, c, s, hpa, hcu, hfit, hpc, hcp⟩ := h.of_holder hu
      refine hlinked.holder_of_lower (hins.grows.place hcu) (isUpper_of_roleFits hfit).2 ?_
      rw [hins.target]
      exact hcp

lemma parent (h : ws.Linked) (u : BlockId) : ws'.parent? u = ws.parent? u := by
  rw [(hins.linked h).parent_eq, h.parent_eq, hins.holder h]
  cases hu : ws.holder? u with
  | none => rfl
  | some p =>
      obtain ⟨a, r, c, s, hp, -⟩ := h.of_holder hu
      rw [Option.bind_some, Option.bind_some, owner?_of_place hp,
        owner?_of_place (hins.grows.place hp)]

end Inserted

/-- **Inserting keeps a forest.** -/
theorem Forest.insert (h : ws.Forest) (spec : BlockSpec) : (ws.insert spec).2.Forest := by
  have hins := insert_draft h.toOwned spec
  have hnew : (⟨ws.blocks.size⟩ : BlockId) ∉ ws.tops := by
    rw [h.mem_tops_iff, hasBlock, block?_size]
    simp
  refine ⟨hins.linked h.toLinked, ?_, ?_, ?_⟩
  · rw [show (ws.insert spec).2.parent? = ws.parent? from funext (hins.parent h.toLinked)]
    exact h.grounded
  · rw [hins.tops]
    refine List.nodup_append.mpr ⟨h.tops_nodup, List.nodup_singleton _, ?_⟩
    intro u hu v hv huv
    rw [huv, List.mem_singleton.mp hv] at hu
    exact hnew hu
  · intro u
    rw [hins.tops, List.mem_append, List.mem_singleton, hins.parent h.toLinked, h.mem_tops_iff]
    by_cases hu : u = ⟨ws.blocks.size⟩
    · have hnone : ws.parent? u = none := by
        simp [hu, parent?, previous?, output?, block?_size]
      rw [hnone, hu]
      simp [hins.new]
    · rw [hasBlock, hasBlock, hins.old u hu]
      simp [hu]

end Workspace

end BlockCursor
