import BlockCursor.Proofs.Workspace.Contents
import BlockCursor.Workspace.Outline

/-!
# What a line of an outline says

The lines of an outline, spelled out from what the queries answer.  Nothing that writes an outline
is used for that, so that what is written can be compared with it.

* `margin`, `blockLine`, `inputLine` — the lines, spelled out.
* `Workspace.blockEntry_text`, `Workspace.MadeAs.inputEntry_text` — they are the lines that are
  written.
* `Workspace.Owned.exists_madeAs` — every live input has such a line.
-/

namespace BlockCursor

/-- The margin of a line: two blanks for each level. -/
def margin (levels : Nat) : String :=
  String.join (List.replicate levels "  ")

/-- The line of a block with the number `n`. -/
def blockLine (indent n : Nat) (kind : String) (label : Option String) : String :=
  let tag := match label with
    | some l => s!" [{l}]"
    | none => ""
  s!"{margin indent}{kind}{tag} b{n}"

/-- The line of an input.  Editable fields are marked with a star. -/
def inputLine (indent : Nat) (name : String) (kind : InputKind) (fields : List FieldSpec) :
    String :=
  let row := if fields.isEmpty then "" else ": " ++ String.intercalate ", "
    (fields.map fun f => if f.editable then f.name ++ "*" else f.name)
  s!"{margin indent}{name} ({kind.name}){row}"

lemma indentation_eq_margin (levels : Nat) : OutlineEntry.indentation levels = margin levels := by
  have htwo : "  ".toList = List.replicate 2 ' ' := rfl
  apply String.toList_inj.mp
  rw [OutlineEntry.indentation, margin, String.toList_ofList, String.toList_join,
    List.flatMap_replicate, htwo, List.flatten_replicate_replicate, Nat.mul_comm]

namespace Workspace

variable {ws : Workspace} {b : BlockId} {i : InputId} {kind : String} {spec : InputSpec}

/-- The line of a block has its kind, its label and its number. -/
lemma blockEntry_text (hkind : ws.blockKind? b = some kind) (indent : Nat) :
    (ws.blockEntry indent b).text = blockLine indent b.index kind (ws.labelOf? b) := by
  have hid (front : String) : front ++ " " ++ b.text = front ++ " b" ++ toString b.index := by
    rw [String.append_assoc, String.append_assoc]
    rfl
  rw [blockEntry, hkind]
  simp only [OutlineEntry.text, blockLine, indentation_eq_margin]
  exact hid _

/-- Whatever is made of the fields of a row is made of the fields that were asked for. -/
lemma MadeAs.map_fields {α : Type} (h : ws.MadeAs i spec) (g : Option Field → α) :
    ((ws.fieldsOf i).map fun f => g (ws.field? f)) =
      spec.fields.map fun s => g (some ⟨i, s.name, s.editable⟩) := by
  have hrow := congrArg (List.map g) h.row
  simpa only [List.map_map, Function.comp_def] using hrow

/-- The line of an input has its name, its kind and its row of fields. -/
lemma MadeAs.inputEntry_text (h : ws.MadeAs i spec) (indent : Nat) :
    (ws.inputEntry indent i).text = inputLine indent spec.name spec.kind spec.fields := by
  have hfields : ((ws.fieldsOf i).map fun f => ((ws.fieldName? f).getD "?", ws.isEditable f)) =
      spec.fields.map fun s => (s.name, s.editable) :=
    h.map_fields fun x => ((x.map Field.name).getD "?", (x.map Field.editable).getD false)
  have hrow : (spec.fields.map fun s => (s.name, s.editable)).map OutlineEntry.fieldText =
      spec.fields.map fun f => if f.editable then f.name ++ "*" else f.name := by
    rw [List.map_map]
    refine List.map_congr_left fun f _ => ?_
    obtain ⟨name, _ | _⟩ := f <;> rfl
  rw [inputEntry, h.name, h.kind, hfields, OutlineEntry.text, inputLine, hrow, List.isEmpty_map,
    indentation_eq_margin]
  rfl

/-- Every live input is as some specification says. -/
lemma Owned.exists_madeAs (h : ws.Owned) (hi : ws.hasInput i = true) :
    ∃ spec, ws.MadeAs i spec := by
  obtain ⟨x, hx⟩ := Option.isSome_iff_exists.mp hi
  refine ⟨⟨x.name, x.kind, (ws.fieldsOf i).map fun f =>
    ⟨(ws.fieldName? f).getD "", ws.isEditable f⟩⟩, by simp [inputName?, hx],
    by simp [inputKind?, hx], ?_⟩
  rw [List.map_map]
  refine List.map_congr_left fun f hf => ?_
  obtain ⟨y, hy, hinput⟩ := Option.map_eq_some_iff.mp ((h.field_iff i f).mp hf)
  subst hinput
  simp [fieldName?, isEditable, hy]

end Workspace

end BlockCursor
