import BlockCursor.Workspace.Edit
import Mathlib.Tactic.Common

/-!
# Who owns what

A block lists its connections and inputs, and an input its fields and its socket.  In the other
direction a connection names its block and its role there, an input its block, and a field its
input.  `Owned` says that the two directions tell the same: what is listed is live and names its
owner, and what is live is listed by its owner, once and in its own role.

* `Workspace.place?` — the block and the role that a connection names.
* `Workspace.listed?` — the connection that a block lists in a role.
* `Workspace.Owned` — both directions agree.
* `Workspace.SameObjects`, `Owned.congr` — ownership does not depend on links, tops or labels.
-/

namespace BlockCursor.Workspace

variable {ws ws' : Workspace} {b : BlockId} {i : InputId} {c : ConnectionId} {f : FieldId}
  {r : Role}

/-! ## Places of connections -/

/-- The block that a connection belongs to and its role there. -/
def place? (ws : Workspace) (c : ConnectionId) : Option (BlockId × Role) :=
  (ws.connection? c).map fun x => (x.block, x.role)

lemma owner?_eq (ws : Workspace) (c : ConnectionId) : ws.owner? c = (ws.place? c).map Prod.fst := by
  simp [owner?, place?, Function.comp_def]

lemma kind?_eq (ws : Workspace) (c : ConnectionId) :
    ws.kind? c = (ws.place? c).map fun p => p.2.kind := by
  simp [kind?, place?, Function.comp_def]

lemma parentInput?_eq (ws : Workspace) (c : ConnectionId) :
    ws.parentInput? c = (ws.place? c).bind fun p => p.2.input? := by
  cases hc : ws.connection? c <;> simp [parentInput?, place?, hc]

lemma hasConnection_eq (ws : Workspace) (c : ConnectionId) :
    ws.hasConnection c = (ws.place? c).isSome := by
  simp [hasConnection, place?]

lemma owner?_of_place (h : ws.place? c = some (b, r)) : ws.owner? c = some b := by
  rw [owner?_eq, h]
  rfl

lemma hasConnection_of_place (h : ws.place? c = some (b, r)) : ws.hasConnection c = true := by
  rw [hasConnection_eq, h]
  rfl

lemma hasInput_of_inputBlock (h : ws.inputBlock? i = some b) : ws.hasInput i = true := by
  rw [hasInput, ← Option.isSome_map (f := Input.block)]
  exact Option.isSome_of_eq_some h

lemma hasField_of_fieldInput (h : ws.fieldInput? f = some i) : ws.hasField f = true := by
  rw [hasField, ← Option.isSome_map (f := Field.input)]
  exact Option.isSome_of_eq_some h

lemma exists_place_of_owner (h : ws.owner? c = some b) : ∃ r, ws.place? c = some (b, r) := by
  rw [owner?_eq, Option.map_eq_some_iff] at h
  obtain ⟨⟨b', r⟩, hp, rfl⟩ := h
  exact ⟨r, hp⟩

/-- A role is a connection's kind together with the input it sits in. -/
lemma place_of_kind {k : ConnectionKind} (h : ws.kind? c = some k) :
    ∃ b r, ws.place? c = some (b, r) ∧ r.kind = k := by
  rw [kind?_eq, Option.map_eq_some_iff] at h
  obtain ⟨⟨b, r⟩, hp, hk⟩ := h
  exact ⟨b, r, hp, hk⟩

lemma parentInput?_eq_some_iff :
    ws.parentInput? c = some i ↔ ∃ b, ws.place? c = some (b, .socket i) := by
  rw [parentInput?_eq, Option.bind_eq_some_iff]
  constructor
  · rintro ⟨⟨b, r⟩, hp, hr⟩
    cases r with
    | socket j =>
        cases hr
        exact ⟨b, hp⟩
    | previous => cases hr
    | next => cases hr
    | output => cases hr
  · rintro ⟨b, hp⟩
    exact ⟨_, hp, rfl⟩

/-! ## Listings -/

/-- The connection that a block lists in a role: one of its own three, or the socket of one of its
inputs. -/
def listed? (ws : Workspace) (b : BlockId) : Role → Option ConnectionId
  | .previous => ws.previous? b
  | .next => ws.next? b
  | .output => ws.output? b
  | .socket i => if i ∈ ws.inputsOf b then ws.socket? i else none

lemma listed?_socket :
    ws.listed? b (.socket i) = some c ↔ i ∈ ws.inputsOf b ∧ ws.socket? i = some c := by
  simp [listed?]

/-- A block that is gone lists nothing. -/
lemma hasBlock_of_listed (h : ws.listed? b r = some c) : ws.hasBlock b = true := by
  rw [hasBlock, Option.isSome_iff_ne_none]
  intro hb
  cases r <;> simp [listed?, previous?, next?, output?, inputsOf, hb] at h

lemma hasBlock_of_mem_inputs (h : i ∈ ws.inputsOf b) : ws.hasBlock b = true := by
  rw [hasBlock, Option.isSome_iff_ne_none]
  intro hb
  simp [inputsOf, hb] at h

lemma hasInput_of_mem_fields (h : f ∈ ws.fieldsOf i) : ws.hasInput i = true := by
  rw [hasInput, Option.isSome_iff_ne_none]
  intro hi
  simp [fieldsOf, hi] at h

/-! ## Both directions agree -/

/-- What owners list and what the listed objects name as their owners is the same. -/
structure Owned (ws : Workspace) : Prop where
  /-- A block lists just those connections that name it, each in the role that it names. -/
  listed_iff : ∀ b r c, ws.listed? b r = some c ↔ ws.place? c = some (b, r)
  /-- A block lists just those inputs that name it. -/
  input_iff : ∀ b i, i ∈ ws.inputsOf b ↔ ws.inputBlock? i = some b
  /-- An input lists just those fields that name it. -/
  field_iff : ∀ i f, f ∈ ws.fieldsOf i ↔ ws.fieldInput? f = some i
  inputs_nodup : ∀ b, (ws.inputsOf b).Nodup
  fields_nodup : ∀ i, (ws.fieldsOf i).Nodup
  /-- An input has a socket just when it is of a kind that has one. -/
  socket_isSome : ∀ i, (ws.socket? i).isSome = (ws.inputKind? i).any InputKind.hasSocket

namespace Owned

variable (h : ws.Owned)
include h

lemma place_of_previous (hc : ws.previous? b = some c) : ws.place? c = some (b, .previous) :=
  (h.listed_iff b .previous c).mp hc

lemma place_of_next (hc : ws.next? b = some c) : ws.place? c = some (b, .next) :=
  (h.listed_iff b .next c).mp hc

lemma place_of_output (hc : ws.output? b = some c) : ws.place? c = some (b, .output) :=
  (h.listed_iff b .output c).mp hc

lemma previous_of_place (hc : ws.place? c = some (b, .previous)) : ws.previous? b = some c :=
  (h.listed_iff b .previous c).mpr hc

lemma next_of_place (hc : ws.place? c = some (b, .next)) : ws.next? b = some c :=
  (h.listed_iff b .next c).mpr hc

lemma output_of_place (hc : ws.place? c = some (b, .output)) : ws.output? b = some c :=
  (h.listed_iff b .output c).mpr hc

lemma hasBlock_of_place (hc : ws.place? c = some (b, r)) : ws.hasBlock b = true :=
  hasBlock_of_listed ((h.listed_iff b r c).mpr hc)

lemma hasBlock_of_owner (hc : ws.owner? c = some b) : ws.hasBlock b = true := by
  obtain ⟨r, hp⟩ := exists_place_of_owner hc
  exact h.hasBlock_of_place hp

lemma hasBlock_of_inputBlock (hi : ws.inputBlock? i = some b) : ws.hasBlock b = true :=
  hasBlock_of_mem_inputs ((h.input_iff b i).mpr hi)

/-- The socket of an input names that input, and its block is the input's. -/
lemma place_of_socket (hc : ws.socket? i = some c) :
    ∃ b, ws.inputBlock? i = some b ∧ ws.place? c = some (b, .socket i) := by
  obtain ⟨x, hx, -⟩ := Option.bind_eq_some_iff.mp hc
  have hi : ws.inputBlock? i = some x.block := by simp [inputBlock?, hx]
  have hmem := (h.input_iff x.block i).mpr hi
  exact ⟨x.block, hi, (h.listed_iff _ _ _).mp (listed?_socket.mpr ⟨hmem, hc⟩)⟩

lemma socket_of_place (hc : ws.place? c = some (b, .socket i)) :
    i ∈ ws.inputsOf b ∧ ws.socket? i = some c :=
  listed?_socket.mp ((h.listed_iff b (.socket i) c).mpr hc)

/-- The input of a live field is live. -/
lemma exists_inputBlock_of_fieldInput (hf : ws.fieldInput? f = some i) :
    ∃ b, ws.inputBlock? i = some b := by
  have hi := hasInput_of_mem_fields ((h.field_iff i f).mpr hf)
  obtain ⟨x, hx⟩ := Option.isSome_iff_exists.mp hi
  exact ⟨x.block, by simp [inputBlock?, hx]⟩

end Owned

/-! ## What ownership depends on -/

lemma listed?_congr (hblock : ws'.block? b = ws.block? b)
    (hsocket : ∀ i, ws'.socket? i = ws.socket? i) : ws'.listed? b r = ws.listed? b r := by
  cases r with
  | socket i =>
      have hinputs : ws'.inputsOf b = ws.inputsOf b := by simp only [inputsOf, hblock]
      rw [listed?, listed?, hinputs, hsocket]
  | previous => simp only [listed?, previous?, hblock]
  | next => simp only [listed?, next?, hblock]
  | output => simp only [listed?, output?, hblock]

/-- Two workspaces have the same objects: they may differ in links, tops and labels alone. -/
structure SameObjects (ws ws' : Workspace) : Prop where
  block : ∀ b, ws'.block? b = ws.block? b
  input : ∀ i, ws'.input? i = ws.input? i
  field : ∀ f, ws'.field? f = ws.field? f
  place : ∀ c, ws'.place? c = ws.place? c

namespace SameObjects

lemma refl (ws : Workspace) : ws.SameObjects ws :=
  ⟨fun _ => rfl, fun _ => rfl, fun _ => rfl, fun _ => rfl⟩

lemma trans {ws'' : Workspace} (h : ws.SameObjects ws') (h' : ws'.SameObjects ws'') :
    ws.SameObjects ws'' where
  block b := (h'.block b).trans (h.block b)
  input i := (h'.input i).trans (h.input i)
  field f := (h'.field f).trans (h.field f)
  place c := (h'.place c).trans (h.place c)

variable (h : ws.SameObjects ws')
include h

lemma hasBlock (b : BlockId) : ws'.hasBlock b = ws.hasBlock b := by
  simp only [Workspace.hasBlock, h.block]

lemma previous (b : BlockId) : ws'.previous? b = ws.previous? b := by
  simp only [previous?, h.block]

lemma output (b : BlockId) : ws'.output? b = ws.output? b := by
  simp only [output?, h.block]

lemma owner (c : ConnectionId) : ws'.owner? c = ws.owner? c := by
  simp only [owner?_eq, h.place]

lemma inputKind (i : InputId) : ws'.inputKind? i = ws.inputKind? i := by
  simp only [inputKind?, h.input]

lemma listed (b : BlockId) (r : Role) : ws'.listed? b r = ws.listed? b r :=
  listed?_congr (h.block b) fun i => by simp only [socket?, h.input]

end SameObjects

/-- Ownership is a matter of the objects alone. -/
lemma Owned.congr (h : ws.Owned) (hsame : ws.SameObjects ws') : ws'.Owned where
  listed_iff b r c := by
    rw [hsame.listed, hsame.place]
    exact h.listed_iff b r c
  input_iff b i := by
    simpa only [inputsOf, inputBlock?, hsame.block, hsame.input] using h.input_iff b i
  field_iff i f := by
    simpa only [fieldsOf, fieldInput?, hsame.input, hsame.field] using h.field_iff i f
  inputs_nodup b := by
    simpa only [inputsOf, hsame.block] using h.inputs_nodup b
  fields_nodup i := by
    simpa only [fieldsOf, hsame.input] using h.fields_nodup i
  socket_isSome i := by
    simpa only [socket?, inputKind?, hsame.input] using h.socket_isSome i

end BlockCursor.Workspace
