import BlockCursor.Proofs.Navigation.Chains
import BlockCursor.Proofs.Navigation.Objects
import BlockCursor.Proofs.Workspace.Trees
import Mathlib.Data.List.Find

/-!
# Moves stay in their tree

A move reads the block that its node is on, the rows of that block, and what can be got to from it
by links.  All of that lies in one tree, so a move answers the same in every workspace that keeps
the tree.  The stacks beside a stack are the one thing that is read of the other trees.

* `KeepsTree.afterField_eq` and its like — the steps inside a block.
* `KeepsTree.outOfChain_eq` — the climb to the top of a chain, and where it leads out to.
* **`KeepsTree.navigate_eq`** — the moves.
* **`Reachable.navigate_elsewhere`** — an edit of other trees disturbs no move.
* **`Reachable.navigate_all_elsewhere`** — nor does a row of such edits.
-/

namespace BlockCursor

namespace Workspace

variable {ws ws' : Workspace} {a b t u : BlockId} {c : ConnectionId} {i j : InputId}
  {f : FieldId} {n : Node}

/-! ## Inputs of the same block -/

lemma Owned.inputBlock_of_parentInput (h : ws.Owned) (hc : ws.owner? c = some b)
    (hi : ws.parentInput? c = some i) : ws.inputBlock? i = some b := by
  obtain ⟨a, hplace⟩ := parentInput?_eq_some_iff.mp hi
  obtain rfl : a = b := Option.some.inj ((owner?_of_place hplace).symm.trans hc)
  exact (h.input_iff a i).mp (h.socket_of_place hplace).1

lemma Owned.inputBlock_of_mem_inputsAfter (h : ws.Owned) (hi : ws.inputBlock? i = some b)
    (hj : j ∈ ws.inputsAfter i) : ws.inputBlock? j = some b := by
  simp only [inputsAfter, hi] at hj
  exact (h.input_iff b j).mp (List.dropWhile_subset _ (List.mem_of_mem_drop hj))

lemma Owned.inputBlock_of_mem_inputsBefore (h : ws.Owned) (hi : ws.inputBlock? i = some b)
    (hj : j ∈ ws.inputsBefore i) : ws.inputBlock? j = some b := by
  simp only [inputsBefore, hi] at hj
  split at hj
  · exact (h.input_iff b j).mp (List.takeWhile_subset _ (List.mem_reverse.mp hj))
  · cases hj

namespace KeepsTree

/-! ## Inside a block -/

section Rows

variable (h : ws.KeepsTree t ws') (hws : ws.Forest) (hb : ws.root? b = some t)
include h hb

lemma fieldInput_eq (hf : ws.fieldInput? f = some i) (hi : ws.inputBlock? i = some b) :
    ws'.fieldInput? f = ws.fieldInput? f := by
  rw [fieldInput?, fieldInput?, h.field f i b hf hi hb]

/-- In a row the same entries come before and after an entry. -/
lemma inputsAfter_eq (hi : ws.inputBlock? i = some b) : ws'.inputsAfter i = ws.inputsAfter i := by
  simp only [inputsAfter, h.inputBlock_eq hb hi, hi, h.inputsOf_eq hb]

lemma inputsBefore_eq (hi : ws.inputBlock? i = some b) :
    ws'.inputsBefore i = ws.inputsBefore i := by
  simp only [inputsBefore, h.inputBlock_eq hb hi, hi, h.inputsOf_eq hb]

include hws

/-- Editable fields are found at the same places of a row, and of every part of it. -/
lemma find_isEditable_eq (hi : ws.inputBlock? i = some b) {row : List FieldId}
    (hrow : ∀ f ∈ row, f ∈ ws.fieldsOf i) :
    row.find? ws'.isEditable = row.find? ws.isEditable := by
  refine List.find?_congr fun f hf => ?_
  rw [isEditable, isEditable, h.field f i b ((hws.field_iff i f).mp (hrow f hf)) hi hb]

lemma firstEditable_eq (hi : ws.inputBlock? i = some b) :
    ws'.firstEditable? i = ws.firstEditable? i := by
  rw [firstEditable?, firstEditable?, h.fieldsOf_eq hb hi]
  exact h.find_isEditable_eq hws hb hi fun _ => id

lemma lastEditable_eq (hi : ws.inputBlock? i = some b) :
    ws'.lastEditable? i = ws.lastEditable? i := by
  rw [lastEditable?, lastEditable?, h.fieldsOf_eq hb hi]
  exact h.find_isEditable_eq hws hb hi fun _ => List.mem_reverse.mp

lemma editableAfter_eq (hi : ws.inputBlock? i = some b) (f : FieldId) :
    ws'.editableAfter? i f = ws.editableAfter? i f := by
  rw [editableAfter?, editableAfter?, h.fieldsOf_eq hb hi]
  exact h.find_isEditable_eq hws hb hi fun _ hf =>
    List.dropWhile_subset _ (List.mem_of_mem_drop hf)

lemma editableBefore_eq (hi : ws.inputBlock? i = some b) (f : FieldId) :
    ws'.editableBefore? i f = ws.editableBefore? i f := by
  simp only [editableBefore?, h.fieldsOf_eq hb hi]
  rw [h.find_isEditable_eq hws hb hi fun _ hf =>
    List.takeWhile_subset _ (List.mem_reverse.mp hf)]

lemma enterForward_eq (hi : ws.inputBlock? i = some b) :
    ws'.enterForward? i = ws.enterForward? i := by
  rw [enterForward?, enterForward?, h.firstEditable_eq hws hb hi, h.socket_eq hb hi]

lemma enterBackward_eq (hi : ws.inputBlock? i = some b) :
    ws'.enterBackward? i = ws.enterBackward? i := by
  rw [enterBackward?, enterBackward?, h.lastEditable_eq hws hb hi, h.socket_eq hb hi]

/-- The stop after a socket is in an input of the same block. -/
lemma afterSocket_eq (hc : ws.owner? c = some b) : ws'.afterSocket? c = ws.afterSocket? c := by
  rw [afterSocket?, afterSocket?, h.parentInput_eq hb hc]
  refine Option.bind_congr fun i hi => ?_
  have hi := hws.inputBlock_of_parentInput hc hi
  rw [h.inputsAfter_eq hb hi, ← List.head?_filterMap, ← List.head?_filterMap]
  exact congrArg List.head? (List.filterMap_congr fun j hj =>
    h.enterForward_eq hws hb (hws.inputBlock_of_mem_inputsAfter hi hj))

lemma beforeSocket_eq (hc : ws.owner? c = some b) :
    ws'.beforeSocket? c = ws.beforeSocket? c := by
  rw [beforeSocket?, beforeSocket?, h.parentInput_eq hb hc]
  refine Option.bind_congr fun i hi => ?_
  have hi := hws.inputBlock_of_parentInput hc hi
  rw [h.lastEditable_eq hws hb hi, h.inputsBefore_eq hb hi, ← List.head?_filterMap,
    ← List.head?_filterMap]
  exact congrArg (Option.or _ <| List.head? ·) (List.filterMap_congr fun j hj =>
    h.enterBackward_eq hws hb (hws.inputBlock_of_mem_inputsBefore hi hj))

lemma afterField_eq (hf : ws.fieldInput? f = some i) (hi : ws.inputBlock? i = some b) :
    ws'.afterField? f = ws.afterField? f := by
  rw [afterField?, afterField?, h.fieldInput_eq hb hf hi, hf, Option.bind_some, Option.bind_some,
    h.editableAfter_eq hws hb hi, h.socket_eq hb hi]

lemma beforeField_eq (hf : ws.fieldInput? f = some i) (hi : ws.inputBlock? i = some b) :
    ws'.beforeField? f = ws.beforeField? f := by
  rw [beforeField?, beforeField?, h.fieldInput_eq hb hf hi, hf, Option.bind_some,
    Option.bind_some, h.editableBefore_eq hws hb hi, h.inputsBefore_eq hb hi]
  congr 1
  refine Option.bind_congr fun j hj => ?_
  rw [h.socket_eq hb (hws.inputBlock_of_mem_inputsBefore hi (List.mem_of_head? hj))]

end Rows

/-! ## Along a chain -/

section Chains

variable (h : ws.KeepsTree t ws') (hws : ws.Forest) (hb : ws.root? b = some t)
include h hb

lemma topNode_eq : ws'.topNode? b = ws.topNode? b := by
  rw [topNode?, topNode?, h.previous_eq hb, h.output_eq hb]

include hws

lemma hangsFrom_eq : ws'.hangsFrom? b = ws.hangsFrom? b := by
  rw [hangsFrom?, hangsFrom?, h.previous_eq hb]
  exact Option.bind_congr fun c hc => h.target_eq hb (owner?_of_place (hws.place_of_previous hc))

lemma above_eq : ws'.above? b = ws.above? b := by
  rw [above?, above?, h.hangsFrom_eq hws hb]
  cases hp : ws.hangsFrom? b with
  | none => rfl
  | some p =>
      -- the connection above belongs to the parent, which is in the tree
      obtain ⟨a, hparent, hplace⟩ := hws.place_of_hangsFrom hp
      have ha : ws.root? a = some t := (hws.root_of_parent hparent).symm.trans hb
      have hpa : ws.owner? p = some a := by
        rcases hplace with hplace | ⟨i, hplace, -⟩ <;> exact owner?_of_place hplace
      rw [Option.filter_some, Option.filter_some, h.parentInput_eq ha hpa]
      split
      · exact h.owner_eq ha hpa
      · rfl

lemma rises_above (hrises : Rises ws.above? b u) : Rises ws'.above? b u := by
  induction hrises using Relation.ReflTransGen.head_induction_on with
  | refl => exact .refl
  | @head b a hba _ ih =>
      have ha : ws.root? a = some t :=
        (hws.root_of_parent (hws.parent_of_above hba)).symm.trans hb
      exact (ih ha).head ((h.above_eq hws hb).trans hba)

/-- **The climb within a chain** stays in the tree all the way, and so does what it arrives at. -/
theorem outOfChain_eq (hws' : ws'.Forest) : ws'.outOfChain b = ws.outOfChain b := by
  obtain ⟨hrises, htop⟩ := hws.chainTop_iff.mp (rfl : ws.chainTop b = ws.chainTop b)
  have hroot : ws.root? (ws.chainTop b) = some t :=
    (hws.root_of_rises (hws.root_iff.mp hb).1 (hws.rises_of_above hrises)).symm.trans hb
  have htop' : ws'.chainTop b = ws.chainTop b :=
    hws'.chainTop_iff.mpr ⟨h.rises_above hws hb hrises, (h.above_eq hws hroot).trans htop⟩
  simp only [outOfChain, htop', h.hangsFrom_eq hws hroot]

end Chains

end KeepsTree

/-! ## The block of a node -/

lemma block?_block_iff :
    (Reference.block a).block? ws = some b ↔ ws.hasBlock a = true ∧ a = b := by
  simp [Reference.block?]

lemma block?_field_iff : (Reference.field f).block? ws = some b ↔
    ∃ i, ws.fieldInput? f = some i ∧ ws.inputBlock? i = some b :=
  Option.bind_eq_some_iff

/-! ## Moves -/

namespace KeepsTree

section Moves

variable (h : ws.KeepsTree t ws') (hws : ws.Forest) (hb : ws.root? b = some t)
include h hb

/-- A node of the tree stays with its block. -/
lemma block?_eq (hn : n.block? ws = some b) : n.block? ws' = some b := by
  have hconnection : ∀ c, ws.owner? c = some b → ws'.owner? c = some b :=
    fun c hc => (h.owner_eq hb hc).trans hc
  cases n with
  | workspace p => cases hn
  | stack a | block a =>
      obtain ⟨hlive, rfl⟩ := block?_block_iff.mp hn
      exact block?_block_iff.mpr ⟨(h.hasBlock_eq hb).trans hlive, rfl⟩
  | field f =>
      obtain ⟨i, hf, hi⟩ := block?_field_iff.mp hn
      exact block?_field_iff.mpr
        ⟨i, (h.fieldInput_eq hb hf hi).trans hf, (h.inputBlock_eq hb hi).trans hi⟩
  | input c | output c | previous c | next c => exact hconnection c hn

include hws

/-- A link of the block leads to the top of a block of the same tree. -/
lemma targetTop_eq (hc : ws.owner? c = some b) :
    (ws'.targetBlock? c).bind ws'.topNode? = (ws.targetBlock? c).bind ws.topNode? := by
  rw [h.targetBlock_eq hb hws hc]
  refine Option.bind_congr fun a ha => h.topNode_eq ?_
  exact (hws.root_of_targetBlock hc ha).trans hb

variable (hn : n.block? ws = some b) (ring ring' : List BlockId) (step : Float)
include hn

lemma nextOf_eq (hstack : n.kind ≠ .stack) :
    (⟨ws', ring', step⟩ : Navigator).nextOf n = (⟨ws, ring, step⟩ : Navigator).nextOf n := by
  cases n with
  | workspace p => rfl
  | stack a => exact absurd rfl hstack
  | output c => simp only [Navigator.nextOf, h.owner_eq hb hn]
  | previous c =>
      have hc : ws.owner? c = some b := hn
      simp only [Navigator.nextOf, h.owner_eq hb hc, hc, Option.map_some, h.output_eq hb]
  | next c => simp only [Navigator.nextOf, h.targetTop_eq hws hb hn]
  | block a =>
      obtain ⟨-, rfl⟩ := block?_block_iff.mp hn
      simp only [Navigator.nextOf, h.next_eq hb]
  | field f =>
      obtain ⟨i, hf, hi⟩ := block?_field_iff.mp hn
      simp only [Navigator.nextOf, h.afterField_eq hws hb hf hi]
  | input c => simp only [Navigator.nextOf, h.afterSocket_eq hws hb hn]

lemma prevOf_eq (hstack : n.kind ≠ .stack) :
    (⟨ws', ring', step⟩ : Navigator).prevOf n = (⟨ws, ring, step⟩ : Navigator).prevOf n := by
  cases n with
  | workspace p => rfl
  | stack a => exact absurd rfl hstack
  | output c =>
      have hc : ws.owner? c = some b := hn
      simp only [Navigator.prevOf, h.owner_eq hb hc, hc, Option.bind_some, h.previous_eq hb]
  | previous c =>
      have hbind : (ws'.targetBlock? c).bind ws'.next? = (ws.targetBlock? c).bind ws.next? := by
        rw [h.targetBlock_eq hb hws hn]
        exact Option.bind_congr fun a ha =>
          h.next_eq ((hws.root_of_targetBlock hn ha).trans hb)
      simp only [Navigator.prevOf, hbind]
  | next c => simp only [Navigator.prevOf, h.owner_eq hb hn]
  | block a =>
      obtain ⟨-, rfl⟩ := block?_block_iff.mp hn
      simp only [Navigator.prevOf, h.output_eq hb, h.previous_eq hb]
  | field f =>
      obtain ⟨i, hf, hi⟩ := block?_field_iff.mp hn
      simp only [Navigator.prevOf, h.beforeField_eq hws hb hf hi]
  | input c => simp only [Navigator.prevOf, h.beforeSocket_eq hws hb hn]

lemma inOf_eq :
    (⟨ws', ring', step⟩ : Navigator).inOf n = (⟨ws, ring, step⟩ : Navigator).inOf n := by
  cases n with
  | workspace p => cases hn
  | stack a =>
      obtain ⟨-, rfl⟩ := block?_block_iff.mp hn
      exact h.topNode_eq hb
  | block a =>
      obtain ⟨-, rfl⟩ := block?_block_iff.mp hn
      simp only [Navigator.inOf, h.inputsOf_eq hb]
      exact Option.bind_congr fun i hi => h.enterForward_eq hws hb
        ((hws.input_iff a i).mp (List.mem_of_head? hi))
  | input c => exact h.targetTop_eq hws hb hn
  | field f | output c | previous c | next c => rfl

lemma outOf_eq (hws' : ws'.Forest) :
    (⟨ws', ring', step⟩ : Navigator).outOf n = (⟨ws, ring, step⟩ : Navigator).outOf n := by
  have hchain : ∀ c, ws.owner? c = some b →
      ws'.outOfChain? (.connection c) = ws.outOfChain? (.connection c) := by
    intro c hc
    simp only [outOfChain?, h.owner_eq hb hc, hc, Option.map_some, h.outOfChain_eq hws hb hws']
  cases n with
  | workspace p | stack a => rfl
  | output c =>
      have hc : ws.owner? c = some b := hn
      simp only [Navigator.outOf, h.target_eq hb hc, h.owner_eq hb hc, hc, Option.bind_some, hb,
        h.root_eq hws hws' hb]
  | previous c | next c => exact hchain c hn
  | block a =>
      obtain ⟨-, rfl⟩ := block?_block_iff.mp hn
      simp only [Navigator.outOf, h.output_eq hb]
      cases hc : ws.output? a with
      | none =>
          have ha : (Reference.block a).block? ws = some a := hn
          have ha' : (Reference.block a).block? ws' = some a := h.block?_eq hb hn
          simp only [outOfChain?, ha, ha', Option.map_some, h.outOfChain_eq hws hb hws']
      | some c => simp only [h.target_eq hb (owner?_of_place (hws.place_of_output hc))]
  | field f => simp only [Navigator.outOf, h.block?_eq hb hn, hn]
  | input c => simp only [Navigator.outOf, h.owner_eq hb hn]

/-- **Moves stay in their tree**: where the tree of a node is kept, every move from the node answers
the same, but for the moves from stack to stack. -/
theorem navigate_eq (hws' : ws'.Forest) {m : Move} (hm : n.kind = .stack → m = .into ∨ m = .out) :
    (⟨ws', ring', step⟩ : Navigator).navigate n m =
      (⟨ws, ring, step⟩ : Navigator).navigate n m := by
  have hlive := isLive_of_block hn
  have hlive' := isLive_of_block (h.block?_eq hb hn)
  have hstack : m = .next ∨ m = .prev → n.kind ≠ .stack := by
    rintro (rfl | rfl) hstack <;> simpa using hm hstack
  simp only [Navigator.navigate, hlive, hlive', if_true]
  cases m with
  | next => exact h.nextOf_eq hws hb hn ring ring' step (hstack (Or.inl rfl))
  | prev => exact h.prevOf_eq hws hb hn ring ring' step (hstack (Or.inr rfl))
  | into => rw [h.inOf_eq hws hb hn ring ring' step]
  | out => rw [h.outOf_eq hws hb hn ring ring' step hws']

end Moves

end KeepsTree

/-! ## Edits of other trees -/

/-- An edit that names nothing of the tree of a live node keeps that tree. -/
lemma Forest.exists_keepsTree (h : ws.Forest) (hn : n.kind ≠ .workspace)
    (hlive : n.isLive ws = true) {e : Edit} (he : e.Elsewhere ws ((n.block? ws).bind ws.root?)) :
    ∃ b t, n.block? ws = some b ∧ ws.root? b = some t ∧ ws.KeepsTree t (ws.applyD e) := by
  obtain ⟨b, hnb, hb⟩ := h.exists_block hn hlive
  obtain ⟨t, ht⟩ := h.exists_root hb
  rw [hnb, Option.bind_some, ht] at he
  exact ⟨b, t, hnb, ht, h.keepsTree_applyD ht he⟩

/-- **An edit elsewhere disturbs no move**: a live node other than a point answers every move as
before after any edit that names nothing of its tree, refused or not.  Of a stack only the moves in
and out are meant, as those from stack to stack go by the list of tops. -/
theorem Reachable.navigate_elsewhere (h : ws.Reachable) (hn : n.kind ≠ .workspace)
    (hlive : n.isLive ws = true) {e : Edit} (he : e.Elsewhere ws ((n.block? ws).bind ws.root?))
    (step : Float) {m : Move} (hm : n.kind = .stack → m = .into ∨ m = .out) :
    (Navigator.ofWorkspace (ws.applyD e) step).navigate n m =
      (Navigator.ofWorkspace ws step).navigate n m := by
  obtain ⟨b, t, hnb, ht, hkeep⟩ := h.forest.exists_keepsTree hn hlive he
  exact hkeep.navigate_eq h.forest ht hnb _ _ step (h.applyD e).forest hm

/-- A holder with a block plugged into it, and a chain of two blocks beside them. -/
def twoTreesEdits : List Edit :=
  [.insert ⟨"holder", false, true, false, [⟨"value", .value, []⟩]⟩,
    .insert ⟨"plugged", false, false, true, []⟩, .connect ⟨1⟩ ⟨2⟩,
    .insert ⟨"first", true, true, false, []⟩, .insert ⟨"second", true, false, false, []⟩,
    .connect ⟨4⟩ ⟨5⟩]

/-- Disposing the chain, which is carried out, leaves the way out of the plugged block. -/
theorem out_of_plugged_beside_disposed :
    (applyAll empty twoTreesEdits).applyD (.dispose ⟨2⟩) ≠ applyAll empty twoTreesEdits ∧
    (Navigator.ofWorkspace ((applyAll empty twoTreesEdits).applyD (.dispose ⟨2⟩)) 10).navigate
        (.output ⟨2⟩) .out = .ok (some (.input ⟨1⟩)) := by
  constructor
  · intro h
    have hblock := congrArg (fun ws => ws.hasBlock ⟨3⟩) h
    revert hblock
    decide
  · exact Reachable.navigate_elsewhere (n := .output ⟨2⟩) (e := .dispose ⟨2⟩)
      ⟨twoTreesEdits, rfl⟩ (by decide) rfl
      (show (applyAll empty twoTreesEdits).root? ⟨2⟩ ≠ some ⟨0⟩ by decide) 10 (by decide)

/-- Every edit of a row names nothing of the tree that a node is in at its turn. -/
def AllElsewhere (n : Node) : Workspace → List Edit → Prop
  | _, [] => True
  | ws, e :: edits => e.Elsewhere ws ((n.block? ws).bind ws.root?) ∧
      AllElsewhere n (ws.applyD e) edits

/-- **Nor does a row of edits elsewhere**, since each of them leaves the node in its tree. -/
theorem Reachable.navigate_all_elsewhere (h : ws.Reachable) (hn : n.kind ≠ .workspace)
    (hlive : n.isLive ws = true) {edits : List Edit} (hedits : AllElsewhere n ws edits)
    (step : Float) {m : Move} (hm : n.kind = .stack → m = .into ∨ m = .out) :
    (Navigator.ofWorkspace (ws.applyAll edits) step).navigate n m =
      (Navigator.ofWorkspace ws step).navigate n m := by
  induction edits generalizing ws with
  | nil => rfl
  | cons e edits ih =>
      obtain ⟨he, hrest⟩ := hedits
      obtain ⟨b, t, hnb, ht, hkeep⟩ := h.forest.exists_keepsTree hn hlive he
      have hlive' := isLive_of_block (hkeep.block?_eq ht hnb)
      calc (Navigator.ofWorkspace ((ws.applyD e).applyAll edits) step).navigate n m
          = (Navigator.ofWorkspace (ws.applyD e) step).navigate n m :=
            ih (h.applyD e) hlive' hrest
        _ = (Navigator.ofWorkspace ws step).navigate n m :=
            hkeep.navigate_eq h.forest ht hnb _ _ step (h.applyD e).forest hm

end Workspace

end BlockCursor
