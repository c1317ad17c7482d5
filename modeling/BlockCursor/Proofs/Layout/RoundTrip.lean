import BlockCursor.Layout.Data
import Mathlib.Tactic.Common

/-!
# Layouts survive being written

A layout is written as a data tree with all its fields but a missing label, and reading that tree
gives the layout back.  Both directions go down the layout in the same way, so the proof does too:
for each kind of record, the entries that are written fill in a draft of just that record.

* `FieldSpec.ofData_toData`, `rowOfData_toData` — fields and rows of fields.
* `blockEntries_written`, `inputEntries_written` — what is read from the entries of one record, if
  what it holds is read back.
* `BlockLayout.ofData_toData` and its companions — nesting of any depth.
* **`WorkspaceLayout.reads_what_it_writes`** — whole layouts, in either format.
-/

namespace BlockCursor

variable (format : DataFormat)

/-! ## Fields and kinds -/

lemma FieldSpec.ofData_toData (f : FieldSpec) : FieldSpec.ofData format f.toData = .ok f := by
  obtain ⟨name, editable⟩ := f
  rfl

/-- Where every item is read back, so is a list of them. -/
lemma mapM_ofData_toData {α : Type} {read : Data → Except Mismatch α} {write : α → Data}
    (h : ∀ x, read (write x) = .ok x) (xs : List α) : (xs.map write).mapM read = .ok xs := by
  rw [List.mapM_map]
  simp only [Function.comp_def, h]
  exact (List.mapM_pure (f := id)).trans (by rw [List.map_id]; rfl)

lemma rowOfData_toData (row : List FieldSpec) :
    rowOfData format (.list (row.map FieldSpec.toData)) = .ok row :=
  mapM_ofData_toData (FieldSpec.ofData_toData format) row

lemma InputKind.ofData_name (k : InputKind) : InputKind.ofData format (.string k.name) = .ok k := by
  cases k <;> rfl

/-! ## One record -/

section Records

variable {name kind : String} {previous next output : Bool} {inputKind : InputKind}
  {fields : List FieldSpec} {inputs : List InputLayout} {blocks : List BlockLayout}

/-- The entries of a block fill in all of it.  A missing label has no entry, and reading starts
without a label. -/
lemma blockEntries_written (label : Option String)
    (h : inputItems format (inputsToData inputs) = .ok inputs) :
    blockEntries format {} ((label.toList.map fun l => ("label", Data.string l)) ++
        [("type", .string kind), ("previous", .bool previous), ("next", .bool next),
          ("output", .bool output), ("inputs", .list (inputsToData inputs))]) =
      .ok ⟨label.map some, some kind, some previous, some next, some output, some inputs⟩ := by
  have hinputs : ∀ d : BlockDraft, blockField format d "inputs" (.list (inputsToData inputs)) =
      .ok { d with inputs := some inputs } := by
    intro d
    rw [blockField, if_pos rfl, h]
    rfl
  have hrest : ∀ d : BlockDraft, blockEntries format d
      [("type", .string kind), ("previous", .bool previous), ("next", .bool next),
        ("output", .bool output), ("inputs", .list (inputsToData inputs))] =
      .ok ⟨d.label, some kind, some previous, some next, some output, some inputs⟩ := by
    intro d
    simp only [blockEntries, hinputs]
    rfl
  cases label with
  | none => exact hrest {}
  | some l => exact hrest { label := some (some l) }

/-- The entries of an input fill in all of it. -/
lemma inputEntries_written (h : blockList format (blocksToData blocks) = .ok blocks) :
    inputEntries format {} [("name", .string name), ("kind", .string inputKind.name),
        ("fields", .list (fields.map FieldSpec.toData)), ("blocks", .list (blocksToData blocks))] =
      .ok ⟨some name, some inputKind, some fields, some blocks⟩ := by
  have hkind : ∀ d : InputDraft, inputField format d "kind" (.string inputKind.name) =
      .ok { d with kind := some inputKind } := by
    intro d
    show (InputKind.ofData format (.string inputKind.name) >>= fun k =>
      pure { d with kind := some k }) = _
    rw [InputKind.ofData_name]
    rfl
  have hfields : ∀ d : InputDraft, inputField format d "fields"
      (.list (fields.map FieldSpec.toData)) = .ok { d with fields := some fields } := by
    intro d
    show (rowOfData format (.list (fields.map FieldSpec.toData)) >>= fun row =>
      pure { d with fields := some row }) = _
    rw [rowOfData_toData]
    rfl
  have hblocks : ∀ d : InputDraft, inputField format d "blocks" (.list (blocksToData blocks)) =
      .ok { d with blocks := some blocks } := by
    intro d
    rw [inputField, if_pos rfl, h]
    rfl
  simp only [inputEntries, hkind, hfields, hblocks]
  rfl

end Records

/-! ## Nesting -/

mutual

/-- A block is read back from its record, with everything in it. -/
theorem BlockLayout.ofData_toData : ∀ b : BlockLayout,
    BlockLayout.ofData format b.toData = .ok b
  | ⟨label, kind, previous, next, output, inputs⟩ => by
    have hinputs := inputItems_toData inputs
    rw [BlockLayout.toData, BlockLayout.ofData, blockEntries_written format label hinputs]
    cases label <;> rfl

theorem inputItems_toData : ∀ inputs : List InputLayout,
    inputItems format (inputsToData inputs) = .ok inputs
  | [] => by rw [inputsToData, inputItems]
  | i :: rest => by
    rw [inputsToData, inputItems, InputLayout.ofData_toData i, inputItems_toData rest]
    rfl

/-- An input is read back from its record, with everything in it. -/
theorem InputLayout.ofData_toData : ∀ i : InputLayout,
    InputLayout.ofData format i.toData = .ok i
  | ⟨name, kind, fields, blocks⟩ => by
    have hblocks := blockList_toData blocks
    rw [InputLayout.toData, InputLayout.ofData, inputEntries_written format hblocks]
    rfl

theorem blockList_toData : ∀ blocks : List BlockLayout,
    blockList format (blocksToData blocks) = .ok blocks
  | [] => by rw [blocksToData, blockList]
  | b :: rest => by
    rw [blocksToData, blockList, BlockLayout.ofData_toData b, blockList_toData rest]
    rfl

end

/-! ## Whole layouts -/

/-- A record with one field is read from its one entry. -/
lemma Record.readOnlyField_written {α : Type} {record : Record} {read : Data → Except Mismatch α}
    {key : String} {d : Data} {default a : α} (hkey : record.fields.contains key = true)
    (h : read d = .ok a) :
    record.readOnlyField format read default (.table [(key, d)]) = .ok a := by
  rw [readOnlyField, List.foldlM_cons]
  simp only [hkey, if_true, h]
  rfl

lemma StackLayout.ofData_toData (s : StackLayout) :
    StackLayout.ofData format s.toData = .ok s := by
  rw [ofData, toData, Record.readOnlyField_written format rfl (blockList_toData format s.blocks)]
  rfl

lemma WorkspaceLayout.ofData_toData (w : WorkspaceLayout) :
    WorkspaceLayout.ofData format w.toData = .ok w := by
  have hstacks : stacksOfData format (.list (w.stackLayouts.map StackLayout.toData)) =
      .ok w.stackLayouts := mapM_ofData_toData (StackLayout.ofData_toData format) w.stackLayouts
  rw [ofData, toData, Record.readOnlyField_written format rfl hstacks]
  rfl

/-- **A layout that is written is read back as it is**, in either format and at any depth of
nesting.  So reading a tree, writing what was read and reading that again answers what the first
reading did. -/
theorem WorkspaceLayout.reads_what_it_writes :
    (∀ (format : DataFormat) (w : WorkspaceLayout), ofData format w.toData = .ok w) ∧
    ∀ (source target : DataFormat) (d : Data),
      (ofData source d >>= fun w => ofData target w.toData) = ofData source d := by
  refine ⟨ofData_toData, fun source target d => ?_⟩
  cases ofData source d with
  | error e => rfl
  | ok w => exact ofData_toData target w

/-- Only a label can be left out of what is written. -/
example : BlockLayout.toData { kind := "print", inputs := [{ name := "TEXT", kind := .dummy }] } =
    .table [("type", .string "print"), ("previous", .bool false), ("next", .bool false),
      ("output", .bool false), ("inputs", .list [.table [("name", .string "TEXT"),
        ("kind", .string "dummy"), ("fields", .list []), ("blocks", .list [])]])] := rfl

end BlockCursor
