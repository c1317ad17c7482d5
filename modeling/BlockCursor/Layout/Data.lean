import BlockCursor.Data.Mismatch
import BlockCursor.Layout.Basic

/-!
# Layouts as data

How layouts stand in documents.  A record is a table whose keys are the names of its fields; a
block's kind stands under `type`.  A missing field takes its default if it has one, and no other key
is allowed.  A record may also stand as a list of its fields in order.

Reading looks at the entries of a table in the order of the document and stops at the first that is
wrong; whether a field is missing is asked at the end of its table.

* `WorkspaceLayout.ofData` — the layout that a data tree says, or the first thing wrong with it.
* `WorkspaceLayout.toData` — the data tree of a layout, with all defaults written out.
-/

namespace BlockCursor

/-! ## Records -/

/-- A field of a row, as a record. -/
def FieldSpec.record : Record := ⟨"FieldLayout", ["name", "editable"]⟩

/-- An input, as a record. -/
def InputLayout.record : Record := ⟨"InputLayout", ["name", "kind", "fields", "blocks"]⟩

/-- A block, as a record. -/
def BlockLayout.record : Record :=
  ⟨"BlockLayout", ["label", "type", "previous", "next", "output", "inputs"]⟩

/-- A stack, as a record. -/
def StackLayout.record : Record := ⟨"StackLayout", ["blocks"]⟩

/-- A workspace, as a record. -/
def WorkspaceLayout.record : Record := ⟨"WorkspaceLayout", ["stacks"]⟩

/-! ## Reading -/

variable (format : DataFormat)

/-- A tree read as the kind of an input. -/
def InputKind.ofData (d : Data) : Except Mismatch InputKind :=
  d.asChoice format InputKind.ofName? (InputKind.all.map InputKind.name)

/-- The fields of a row that have been read so far. -/
structure FieldDraft where
  name : Option String := none
  editable : Option Bool := none

/-- Reads one field of a field record. -/
def FieldDraft.put (draft : FieldDraft) (key : String) (d : Data) : Except Mismatch FieldDraft :=
  match key with
  | "name" => return { draft with name := some (← d.asString format) }
  | "editable" => return { draft with editable := some (← d.asBool format) }
  | _ => .error (.unknownField key FieldSpec.record.fields)

/-- The field record that has been read; fields are editable unless they say otherwise. -/
def FieldDraft.finish (source : RecordSource) (draft : FieldDraft) : Except Mismatch FieldSpec := do
  let name ← source.require FieldSpec.record 0 draft.name
  return ⟨name, draft.editable.getD true⟩

/-- Reads the entries of a field record. -/
def FieldDraft.entries (draft : FieldDraft) : List (String × Data) → Except Mismatch FieldDraft
  | [] => .ok draft
  | (key, d) :: rest => do (← draft.put format key d).entries rest

/-- Reads a field of a row. -/
def FieldSpec.ofData : Data → Except Mismatch FieldSpec
  | .table es => do (← ({} : FieldDraft).entries format es).finish .table
  | .list items _ => do
    let read ← ({} : FieldDraft).entries format (FieldSpec.record.fields.zip items)
    let field ← read.finish .list
    format.checkLength FieldSpec.record items.length
    return field
  | d => .error (d.notRecord format FieldSpec.record)

/-- Reads a row of fields. -/
def rowOfData (d : Data) : Except Mismatch (List FieldSpec) := do
  (← d.asList format).mapM (FieldSpec.ofData format)

/-- The parts of a block that have been read so far. -/
structure BlockDraft where
  label : Option (Option String) := none
  kind : Option String := none
  previous : Option Bool := none
  next : Option Bool := none
  output : Option Bool := none
  inputs : Option (List InputLayout) := none

/-- Reads one field of a block that holds no blocks. -/
def BlockDraft.put (draft : BlockDraft) (key : String) (d : Data) : Except Mismatch BlockDraft :=
  match key with
  | "label" => return { draft with label := some (← d.asOptionalString format) }
  | "type" => return { draft with kind := some (← d.asString format) }
  | "previous" => return { draft with previous := some (← d.asBool format) }
  | "next" => return { draft with next := some (← d.asBool format) }
  | "output" => return { draft with output := some (← d.asBool format) }
  | "inputs" => .error (.wrongType (d.found format) "a sequence")
  | _ => .error (.unknownField key BlockLayout.record.fields)

/-- The block that has been read. -/
def BlockDraft.finish (source : RecordSource) (draft : BlockDraft) :
    Except Mismatch BlockLayout := do
  let kind ← source.require BlockLayout.record 1 draft.kind
  return {
    label := draft.label.getD none
    kind
    previous := draft.previous.getD false
    next := draft.next.getD false
    output := draft.output.getD false
    inputs := draft.inputs.getD [] }

/-- The parts of an input that have been read so far. -/
structure InputDraft where
  name : Option String := none
  kind : Option InputKind := none
  fields : Option (List FieldSpec) := none
  blocks : Option (List BlockLayout) := none

/-- Reads one field of an input that holds no blocks. -/
def InputDraft.put (draft : InputDraft) (key : String) (d : Data) : Except Mismatch InputDraft :=
  match key with
  | "name" => return { draft with name := some (← d.asString format) }
  | "kind" => return { draft with kind := some (← InputKind.ofData format d) }
  | "fields" => return { draft with fields := some (← rowOfData format d) }
  | "blocks" => .error (.wrongType (d.found format) "a sequence")
  | _ => .error (.unknownField key InputLayout.record.fields)

/-- The input that has been read. -/
def InputDraft.finish (source : RecordSource) (draft : InputDraft) :
    Except Mismatch InputLayout := do
  let name ← source.require InputLayout.record 0 draft.name
  let kind ← source.require InputLayout.record 1 draft.kind
  return { name, kind, fields := draft.fields.getD [], blocks := draft.blocks.getD [] }

mutual

/-- Reads a block. -/
def BlockLayout.ofData : Data → Except Mismatch BlockLayout
  | .table es => do (← blockEntries {} es).finish .table
  | .list items _ => do
    let block ← (← blockItems {} BlockLayout.record.fields items).finish .list
    format.checkLength BlockLayout.record items.length
    return block
  | d => .error (d.notRecord format BlockLayout.record)

/-- Reads the entries of a block. -/
def blockEntries (draft : BlockDraft) : List (String × Data) → Except Mismatch BlockDraft
  | [] => .ok draft
  | (key, d) :: rest => do blockEntries (← blockField draft key d) rest

/-- Reads the fields of a block in order. -/
def blockItems (draft : BlockDraft) : List String → List Data → Except Mismatch BlockDraft
  | key :: keys, d :: rest => do blockItems (← blockField draft key d) keys rest
  | _, _ => .ok draft

/-- Reads one field of a block. -/
def blockField (draft : BlockDraft) (key : String) : Data → Except Mismatch BlockDraft
  | .list items bySections =>
    if key = "inputs" then do return { draft with inputs := some (← inputItems items) }
    else draft.put format key (.list items bySections)
  | d => draft.put format key d

/-- Reads inputs one after the other. -/
def inputItems : List Data → Except Mismatch (List InputLayout)
  | [] => .ok []
  | d :: rest => do
    let i ← InputLayout.ofData d
    return i :: (← inputItems rest)

/-- Reads an input. -/
def InputLayout.ofData : Data → Except Mismatch InputLayout
  | .table es => do (← inputEntries {} es).finish .table
  | .list items _ => do
    let input ← (← inputFieldItems {} InputLayout.record.fields items).finish .list
    format.checkLength InputLayout.record items.length
    return input
  | d => .error (d.notRecord format InputLayout.record)

/-- Reads the entries of an input. -/
def inputEntries (draft : InputDraft) : List (String × Data) → Except Mismatch InputDraft
  | [] => .ok draft
  | (key, d) :: rest => do inputEntries (← inputField draft key d) rest

/-- Reads the fields of an input in order. -/
def inputFieldItems (draft : InputDraft) : List String → List Data → Except Mismatch InputDraft
  | key :: keys, d :: rest => do inputFieldItems (← inputField draft key d) keys rest
  | _, _ => .ok draft

/-- Reads one field of an input. -/
def inputField (draft : InputDraft) (key : String) : Data → Except Mismatch InputDraft
  | .list items bySections =>
    if key = "blocks" then do return { draft with blocks := some (← blockList items) }
    else draft.put format key (.list items bySections)
  | d => draft.put format key d

/-- Reads blocks one after the other. -/
def blockList : List Data → Except Mismatch (List BlockLayout)
  | [] => .ok []
  | d :: rest => do
    let b ← BlockLayout.ofData d
    return b :: (← blockList rest)

end

/-- Reads a list of blocks. -/
def blocksOfData (d : Data) : Except Mismatch (List BlockLayout) := do
  blockList format (← d.asList format)

/-- Reads a stack. -/
def StackLayout.ofData (d : Data) : Except Mismatch StackLayout :=
  StackLayout.mk <$> StackLayout.record.readOnlyField format (blocksOfData format) [] d

/-- Reads a list of stacks. -/
def stacksOfData (d : Data) : Except Mismatch (List StackLayout) := do
  (← d.asList format).mapM (StackLayout.ofData format)

/-- Reads a workspace. -/
def WorkspaceLayout.ofData (d : Data) : Except Mismatch WorkspaceLayout :=
  WorkspaceLayout.mk <$> WorkspaceLayout.record.readOnlyField format (stacksOfData format) [] d

/-! ## Writing -/

/-- The record of a field of a row. -/
def FieldSpec.toData (f : FieldSpec) : Data :=
  .table [("name", .string f.name), ("editable", .bool f.editable)]

mutual

/-- The record of a block.  The label is left out when there is none. -/
def BlockLayout.toData : BlockLayout → Data
  | ⟨label, kind, previous, next, output, inputs⟩ =>
    .table ((label.toList.map fun l => ("label", Data.string l)) ++
      [("type", .string kind), ("previous", .bool previous), ("next", .bool next),
        ("output", .bool output), ("inputs", .list (inputsToData inputs))])

/-- The records of inputs. -/
def inputsToData : List InputLayout → List Data
  | [] => []
  | i :: rest => i.toData :: inputsToData rest

/-- The record of an input. -/
def InputLayout.toData : InputLayout → Data
  | ⟨name, kind, fields, blocks⟩ =>
    .table [("name", .string name), ("kind", .string kind.name),
      ("fields", .list (fields.map FieldSpec.toData)), ("blocks", .list (blocksToData blocks))]

/-- The records of blocks. -/
def blocksToData : List BlockLayout → List Data
  | [] => []
  | b :: rest => b.toData :: blocksToData rest

end

/-- The record of a stack. -/
def StackLayout.toData (s : StackLayout) : Data :=
  .table [("blocks", .list (blocksToData s.blocks))]

/-- The record of a workspace. -/
def WorkspaceLayout.toData (w : WorkspaceLayout) : Data :=
  .table [("stacks", .list (w.stackLayouts.map StackLayout.toData))]

end BlockCursor
