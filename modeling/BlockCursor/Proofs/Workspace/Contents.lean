import BlockCursor.Proofs.Workspace.Inserted
import Mathlib.Data.List.Forall2

/-!
# What a new block is made of

An insertion is asked for a block with certain connections and inputs, and the queries answer what
was asked for.  Later edits do not take that back, since a live object stays what it is.

* `Workspace.Retains` — every live object stays what it is, its link apart.
* `Workspace.MadeAs` — an input has the name, the kind and the row that were asked for.
* **`insert_contents`** — the new block, seen through the queries.
-/

namespace BlockCursor.Workspace

variable {ws ws' ws'' : Workspace} {a b : BlockId} {i : InputId} {c : ConnectionId} {r : Role}

/-! ## Objects that stay -/

/-- Every live object stays what it is; links may change. -/
structure Retains (ws ws' : Workspace) : Prop where
  block : ∀ b, ws.hasBlock b = true → ws'.block? b = ws.block? b
  input : ∀ i, ws.hasInput i = true → ws'.input? i = ws.input? i
  field : ∀ f, ws.hasField f = true → ws'.field? f = ws.field? f
  place : ∀ c x, ws.place? c = some x → ws'.place? c = some x

namespace Retains

lemma hasBlock (h : ws.Retains ws') (hb : ws.hasBlock b = true) : ws'.hasBlock b = true := by
  rwa [Workspace.hasBlock, h.block b hb]

lemma trans (h : ws.Retains ws') (h' : ws'.Retains ws'') : ws.Retains ws'' where
  block b hb := (h'.block b (h.hasBlock hb)).trans (h.block b hb)
  input i hi := by
    have hi' : ws'.hasInput i = true := by rwa [hasInput, h.input i hi]
    exact (h'.input i hi').trans (h.input i hi)
  field f hf := by
    have hf' : ws'.hasField f = true := by rwa [hasField, h.field f hf]
    exact (h'.field f hf').trans (h.field f hf)
  place c x hx := h'.place c x (h.place c x hx)

end Retains

lemma Grows.retains (h : ws.Grows ws') : ws.Retains ws' where
  block b hb := by
    obtain ⟨x, hx⟩ := Option.isSome_iff_exists.mp hb
    exact h.block b (Arena.lt_size_of_get? hx)
  input i hi := by
    obtain ⟨x, hx⟩ := Option.isSome_iff_exists.mp hi
    exact h.input i (Arena.lt_size_of_get? hx)
  field f hf := by
    obtain ⟨x, hx⟩ := Option.isSome_iff_exists.mp hf
    exact h.field f (Arena.lt_size_of_get? hx)
  place _ _ := h.place

lemma SameObjects.retains (h : ws.SameObjects ws') : ws.Retains ws' where
  block b _ := h.block b
  input i _ := h.input i
  field f _ := h.field f
  place c _ hx := (h.place c).trans hx

/-! ## Inputs -/

/-- An input has the name, the kind and the row of fields of a specification. -/
structure MadeAs (ws : Workspace) (i : InputId) (spec : InputSpec) : Prop where
  name : ws.inputName? i = some spec.name
  kind : ws.inputKind? i = some spec.kind
  row : (ws.fieldsOf i).map ws.field? = spec.fields.map fun s => some ⟨i, s.name, s.editable⟩

lemma MadeAs.hasInput {spec : InputSpec} (h : ws.MadeAs i spec) : ws.hasInput i = true := by
  rw [Workspace.hasInput, ← Option.isSome_map (f := Input.name)]
  exact Option.isSome_of_eq_some h.name

lemma MadeAs.congr {spec : InputSpec} (h : ws.MadeAs i spec) (hinput : ws'.input? = ws.input?)
    (hfield : ws'.field? = ws.field?) : ws'.MadeAs i spec where
  name := by rw [inputName?, hinput, ← inputName?, h.name]
  kind := by rw [inputKind?, hinput, ← inputKind?, h.kind]
  row := by rw [fieldsOf, hinput, hfield, ← fieldsOf, h.row]

lemma MadeAs.of_retains {spec : InputSpec} (h : ws.MadeAs i spec) (hkeep : ws.Retains ws') :
    ws'.MadeAs i spec := by
  have hinput := hkeep.input i h.hasInput
  refine ⟨?_, ?_, ?_⟩
  · rw [inputName?, hinput]
    exact h.name
  · rw [inputKind?, hinput]
    exact h.kind
  · have hfields : ws'.fieldsOf i = ws.fieldsOf i := by rw [fieldsOf, hinput, fieldsOf]
    rw [hfields, ← h.row]
    refine List.map_congr_left fun f hf => hkeep.field f ?_
    have hmem : ws.field? f ∈ (ws.fieldsOf i).map ws.field? := List.mem_map_of_mem hf
    rw [h.row] at hmem
    obtain ⟨s, -, hs⟩ := List.mem_map.mp hmem
    exact Option.isSome_of_eq_some hs.symm

/-- The new fields of a row have the names that were asked for, and can be edited as asked. -/
lemma map_field_addFields (i : InputId) : ∀ (specs : List FieldSpec) (ws : Workspace),
    (ws.addFields i specs).1.map (ws.addFields i specs).2.field? =
      specs.map fun s => some ⟨i, s.name, s.editable⟩
  | [], _ => rfl
  | spec :: rest, ws => by
      set one : Workspace := { ws with fields := ws.fields.push ⟨i, spec.name, spec.editable⟩ }
        with hone
      have heq : ws.addFields i (spec :: rest) =
          (⟨ws.fields.size⟩ :: (one.addFields i rest).1, (one.addFields i rest).2) := rfl
      have hfirst : (one.addFields i rest).2.field? ⟨ws.fields.size⟩ =
          some ⟨i, spec.name, spec.editable⟩ := by
        have hlt : ws.fields.size < one.fields.size := by simp [hone]
        have hkeep := (rowAdded_addFields i rest one).field ⟨ws.fields.size⟩ hlt
        rw [hkeep, hone, field?_push, if_pos rfl]
      rw [heq, List.map_cons, List.map_cons, hfirst, map_field_addFields i rest one]

lemma madeAs_addInput (ws : Workspace) (b : BlockId) (spec : InputSpec) :
    (ws.addInput b spec).2.MadeAs (ws.addInput b spec).1 spec := by
  set i : InputId := ⟨ws.inputs.size⟩
  set socket := (ws.addConnectionIf spec.kind.hasSocket b (.socket i)).1
  set one := (ws.addConnectionIf spec.kind.hasSocket b (.socket i)).2 with hone
  set row := (one.addFields i spec.fields).1 with hrow
  set two := (one.addFields i spec.fields).2 with htwo
  have hadd : ws.addInput b spec =
      (i, { two with inputs := two.inputs.push ⟨b, spec.name, spec.kind, row, socket⟩ }) := rfl
  have hinputs : two.inputs = ws.inputs := by
    have hconn := connectionAdded_addConnectionIf ws spec.kind.hasSocket b (.socket i)
    rw [htwo, (rowAdded_addFields i spec.fields one).rest, hone, hconn.rest]
  have hinput : (ws.addInput b spec).2.input? i =
      some ⟨b, spec.name, spec.kind, row, socket⟩ := by
    rw [hadd, input?_push, hinputs, if_pos rfl]
  have hfield : (ws.addInput b spec).2.field? = two.field? := by
    rw [hadd]
    rfl
  rw [show (ws.addInput b spec).1 = i by rw [hadd]]
  refine ⟨?_, ?_, ?_⟩
  · rw [inputName?, hinput, Option.map_some]
  · rw [inputKind?, hinput, Option.map_some]
  · rw [fieldsOf, hinput, Option.map_some, Option.getD_some, hfield]
    exact map_field_addFields i spec.fields one

lemma grows_addInputs (b : BlockId) : ∀ (specs : List InputSpec) (ws : Workspace),
    ws.Grows (ws.addInputs b specs).2
  | [], ws => .refl ws
  | spec :: rest, ws => by
      obtain ⟨-, socket, row, hadd⟩ := inputAdded_addInput ws b spec
      exact hadd.grows.trans (grows_addInputs b rest (ws.addInput b spec).2)

lemma blocks_addInputs (b : BlockId) : ∀ (specs : List InputSpec) (ws : Workspace),
    (ws.addInputs b specs).2.blocks = ws.blocks
  | [], _ => rfl
  | spec :: rest, ws => by
      obtain ⟨-, socket, row, hadd⟩ := inputAdded_addInput ws b spec
      exact (blocks_addInputs b rest (ws.addInput b spec).2).trans hadd.blocks

/-- The new inputs of a block are what was asked for, in order. -/
lemma madeAs_addInputs (b : BlockId) : ∀ (specs : List InputSpec) (ws : Workspace),
    List.Forall₂ (ws.addInputs b specs).2.MadeAs (ws.addInputs b specs).1 specs
  | [], _ => .nil
  | spec :: rest, ws => by
      have hrest := grows_addInputs b rest (ws.addInput b spec).2
      exact .cons ((madeAs_addInput ws b spec).of_retains hrest.retains)
        (madeAs_addInputs b rest (ws.addInput b spec).2)

/-! ## The whole block -/

/-- A block of its own, seen through the queries: it is what was asked for, and nothing is linked
to it. -/
structure StandsAlone (ws : Workspace) (b : BlockId) (spec : BlockSpec) : Prop where
  kind : ws.blockKind? b = some spec.kind
  previous : (ws.previous? b).isSome = spec.previous
  next : (ws.next? b).isSome = spec.next
  output : (ws.output? b).isSome = spec.output
  inputs : List.Forall₂ ws.MadeAs (ws.inputsOf b) spec.inputs
  free : ∀ c r, ws.place? c = some (b, r) → ws.target? c = none

lemma blocks_addConnectionIf (ws : Workspace) (wanted : Bool) (b : BlockId) (r : Role) :
    (ws.addConnectionIf wanted b r).2.blocks = ws.blocks := by
  cases wanted <;> rfl

/-- **The new block is what was asked for.** -/
theorem insert_contents (h : ws.Owned) (spec : BlockSpec) :
    (ws.insert spec).2.StandsAlone ⟨ws.blocks.size⟩ spec := by
  have hins := insert_draft h spec
  set b : BlockId := ⟨ws.blocks.size⟩ with hb
  set one := ws.addConnectionIf spec.previous b .previous with hone
  set two := one.2.addConnectionIf spec.next b .next with htwo
  set three := two.2.addConnectionIf spec.output b .output with hthree
  set four := three.2.addInputs b spec.inputs with hfour
  have hblocks : four.2.blocks = ws.blocks := by
    rw [hfour, blocks_addInputs, hthree, blocks_addConnectionIf, htwo, blocks_addConnectionIf, hone,
      blocks_addConnectionIf]
  set B : Block := ⟨spec.kind, one.1, two.1, three.1, four.1⟩ with hB
  have hadd : ws.insert spec =
      (b, { four.2 with blocks := four.2.blocks.push B, tops := four.2.tops ++ [b] }) := rfl
  have hblock : (ws.insert spec).2.block? b = some B := by
    rw [hadd]
    show ({ four.2 with blocks := four.2.blocks.push B } : Workspace).block? b = _
    rw [block?_push, hblocks, if_pos rfl]
  have hmade : List.Forall₂ (ws.insert spec).2.MadeAs four.1 spec.inputs :=
    (madeAs_addInputs b spec.inputs three.2).imp fun i s hi => hi.congr rfl rfl
  refine ⟨?_, ?_, ?_, ?_, ?_, ?_⟩
  · rw [blockKind?, hblock, Option.map_some]
  · rw [previous?, hblock]
    exact isSome_addConnectionIf ws spec.previous b .previous
  · rw [next?, hblock]
    exact isSome_addConnectionIf one.2 spec.next b .next
  · rw [output?, hblock]
    exact isSome_addConnectionIf two.2 spec.output b .output
  · rw [inputsOf, hblock, Option.map_some, Option.getD_some]
    exact hmade
  · intro c r hc
    -- a link that is there now was there before, when the block was not
    rw [hins.target]
    by_contra hne
    obtain ⟨d, hd⟩ := Option.ne_none_iff_exists'.mp hne
    obtain ⟨a, q, hplace⟩ := exists_place_of_target hd
    have ha := h.hasBlock_of_place hplace
    rw [hins.grows.place hplace] at hc
    cases hc
    rw [hasBlock, block?_size] at ha
    cases ha

end BlockCursor.Workspace
