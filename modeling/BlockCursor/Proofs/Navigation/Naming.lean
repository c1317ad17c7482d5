import BlockCursor.Navigation.Describe
import BlockCursor.Proofs.Navigation.Locations
import BlockCursor.Proofs.Workspace.Labels

/-!
# Start locations and descriptions

A start location is read by cutting a text and looking for what the parts name; a description is
written from the object, by its owners and their names.  The two agree: the object that is found for
a name is the first of that name under its owner, and it is called by that name again.

* `Start.blockName_eq` — a labelled block is called by its label.
* `Start.Names.name_eq` — a node is called what it is named by, stacks apart.
* **`Reachable.describe_resolved`** — the description of a start location's node is the start
  location, with a blank for its colon.
-/

namespace BlockCursor

open Workspace

variable {ws : Workspace} {n : Node} {b : BlockId} {c : ConnectionId} {i : InputId} {f : FieldId}
  {spec reference label name : String}

namespace Start

/-! ## The text of a start location -/

/-- What is before the first colon of a start location. -/
def word (spec : String) : String :=
  String.ofList (spec.toList.takeWhile (· != ':'))

/-- What is behind the first colon of a start location. -/
def behindColon (spec : String) : String :=
  String.ofList ((spec.toList.dropWhile (· != ':')).drop 1)

/-- The start location with a blank for its first colon. -/
def spaced (spec : String) : String :=
  String.ofList (spec.toList.replace ':' ' ')

/-- What the three readings of a start location make of a kind and a reference. -/
lemma parts_of_spec (k : NodeKind) (reference : String) :
    word (k.name ++ ":" ++ reference) = k.name ∧
      behindColon (k.name ++ ":" ++ reference) = reference ∧
      spaced (k.name ++ ":" ++ reference) = k.name ++ " " ++ reference := by
  have hnot := k.colon_not_mem_name
  have hcolon : ∀ c ∈ k.name.toList, (c != ':') = true := by
    intro c hc
    rw [bne_iff_ne]
    rintro rfl
    exact hnot hc
  refine ⟨?_, ?_, ?_⟩
  · simp [word, List.takeWhile_append_of_pos hcolon]
  · simp [behindColon, List.dropWhile_append_of_pos hcolon]
  · apply String.toList_inj.mp
    simp [spaced, List.replace_append_right hnot]

/-! ## What the named nodes are called -/

variable (h : ws.Reachable)
include h

/-- A labelled block is called by its label. -/
lemma blockName_eq (hb : ws.labelled? label = some b) : ws.blockName b = label := by
  have hlabel := h.paired.labelOf?_iff.mpr (h.paired.labelled?_iff.mp hb)
  simp [blockName, hlabel]

/-- One of a labelled block's own three connections is called by the label. -/
lemma connectionName_eq {r : Role} (hb : ws.labelled? label = some b) (hr : r.input? = none)
    (hc : ws.place? c = some (b, r)) : ws.connectionName c = label := by
  simp [connectionName, ownerName, owner?_of_place hc, parentInput?_eq, hc, hr,
    blockName_eq h hb]

/-- The input that is found for a name has that name, and belongs to the block. -/
lemma inputNamed?_eq (hi : ws.inputNamed? b name = some i) :
    ws.inputBlock? i = some b ∧ ws.inputName? i = some name := by
  rw [inputNamed?] at hi
  have hname := List.find?_some hi
  exact ⟨(h.forest.input_iff b i).mp (List.mem_of_find?_eq_some hi), by simpa using hname⟩

/-- The field that is found for a name has that name, and belongs to the input. -/
lemma fieldNamed?_eq {field : String} (hf : ws.fieldNamed? i field = some f) :
    ws.fieldInput? f = some i ∧ ws.fieldName? f = some field := by
  rw [fieldNamed?] at hf
  have hname := List.find?_some hf
  exact ⟨(h.forest.field_iff i f).mp (List.mem_of_find?_eq_some hf), by simpa using hname⟩

/-- **A node is called what it is named by**, unless it is a point or a stack. -/
theorem Names.name_eq (hnames : Names ws reference n) (hpoint : n.kind ≠ .workspace)
    (hstack : n.kind ≠ .stack) : n.name ws = reference := by
  cases n with
  | workspace p => exact absurd rfl hpoint
  | stack t => exact absurd rfl hstack
  | block b => exact blockName_eq h hnames
  | previous c =>
      obtain ⟨b, hb, hc⟩ := hnames
      exact connectionName_eq h hb rfl (h.forest.place_of_previous hc)
  | next c =>
      obtain ⟨b, hb, hc⟩ := hnames
      exact connectionName_eq h hb rfl (h.forest.place_of_next hc)
  | output c =>
      obtain ⟨b, hb, hc⟩ := hnames
      exact connectionName_eq h hb rfl (h.forest.place_of_output hc)
  | input c =>
      obtain ⟨label, name, b, i, rfl, -, hb, hi, hc⟩ := hnames
      obtain ⟨hblock, hname⟩ := inputNamed?_eq h hi
      obtain ⟨a, ha, hplace⟩ := h.forest.place_of_socket hc
      obtain rfl : b = a := Option.some.inj (hblock.symm.trans ha)
      have hparent := parentInput?_eq_some_iff.mpr ⟨b, hplace⟩
      simp [Node.name, connectionName, ownerName, owner?_of_place hplace, hparent, hname,
        blockName_eq h hb, toString]
  | field f =>
      obtain ⟨label, name, field, b, i, rfl, -, -, hb, hi, hf⟩ := hnames
      obtain ⟨hblock, hname⟩ := inputNamed?_eq h hi
      obtain ⟨hinput, hfield⟩ := fieldNamed?_eq h hf
      simp [Node.name, fieldPath, ownerName, hinput, hblock, hname, hfield, blockName_eq h hb,
        toString]

end Start

/-! ## Descriptions of start locations -/

lemma Node.describe_of_isLive (hlive : n.isLive ws = true) :
    n.describe ws = n.kind.name ++ " " ++ n.name ws := by
  rw [Node.describe, if_pos hlive]
  rfl

/-- **Start locations and descriptions agree.**  A start location for anything but a point leads to
a live node of the kind in front of the colon, and the description of that node is the start
location with a blank for its first colon.  Of a stack, the description names the top block instead
of the block that was asked for. -/
theorem Workspace.Reachable.describe_resolved (h : ws.Reachable)
    (hok : Start.resolve ws spec = .ok n) (hword : Start.word spec ≠ "workspace") :
    n.isLive ws = true ∧ n.kind.name = Start.word spec ∧
      (Start.word spec ≠ "stack" → n.describe ws = Start.spaced spec) ∧
      (Start.word spec = "stack" → ∃ b t, ws.labelled? (Start.behindColon spec) = some b ∧
        ws.root? b = some t ∧ n = .stack t ∧ n.describe ws = "stack " ++ ws.blockName t) := by
  have hlive := (Start.resolve_agrees h hok).isLive
  obtain ⟨reference, rfl, hnames⟩ := Start.resolve_eq_ok_iff.mp hok
  obtain ⟨hfirst, hbehind, hspaced⟩ := Start.parts_of_spec n.kind reference
  rw [hfirst] at hword ⊢
  refine ⟨hlive, rfl, fun hstack => ?_, fun hstack => ?_⟩
  · have hname := hnames.name_eq h (fun hk => hword (by rw [hk]; rfl))
      (fun hk => hstack (by rw [hk]; rfl))
    rw [hspaced, Node.describe_of_isLive hlive, hname]
  · cases n with
    | stack t =>
        obtain ⟨b, hb, hroot⟩ := hnames
        obtain ⟨t', ht'⟩ := h.forest.exists_root (h.hasBlock_of_label hb)
        rw [ht', Option.getD_some] at hroot
        refine ⟨b, t, by rw [hbehind, hb], by rw [ht', hroot], rfl, ?_⟩
        rw [Node.describe_of_isLive hlive]
        rfl
    | workspace | block | input | field | output | previous | next =>
        simp [Node.kind, NodeKind.name] at hstack

/-- A loop in the body of another, with dots and colons in the names of everything. -/
def dottedEdits : List Edit :=
  [.insert ⟨"loop", false, true, false,
      [⟨"x.y", .statement, []⟩, ⟨"row", .dummy, [⟨"f.g:h", true⟩]⟩]⟩,
    .insert ⟨"loop", true, true, false, []⟩, .setLabel ⟨0⟩ "a:b", .setLabel ⟨1⟩ "c.d",
    .connect ⟨1⟩ ⟨2⟩]

/-- The socket and the field are described as they were asked for, and the stack of the inner loop
by the outer one. -/
theorem describe_dotted :
    (∃ n, Start.resolve (applyAll empty dottedEdits) "input:a:b.x.y" = .ok n ∧
      n.describe (applyAll empty dottedEdits) = "input a:b.x.y") ∧
    (∃ n, Start.resolve (applyAll empty dottedEdits) "field:a:b.row.f.g:h" = .ok n ∧
      n.describe (applyAll empty dottedEdits) = "field a:b.row.f.g:h") ∧
    ∃ n, Start.resolve (applyAll empty dottedEdits) "stack:c.d" = .ok n ∧
      n.describe (applyAll empty dottedEdits) = "stack a:b" := by
  have hreach : (applyAll empty dottedEdits).Reachable := ⟨dottedEdits, rfl⟩
  have hinput : Start.resolve (applyAll empty dottedEdits) "input:a:b.x.y" = .ok (.input ⟨1⟩) := rfl
  have hfield : Start.resolve (applyAll empty dottedEdits) "field:a:b.row.f.g:h" =
      .ok (.field ⟨0⟩) := rfl
  have hstack : Start.resolve (applyAll empty dottedEdits) "stack:c.d" = .ok (.stack ⟨0⟩) := rfl
  refine ⟨⟨_, hinput, ?_⟩, ⟨_, hfield, ?_⟩, ⟨_, hstack, ?_⟩⟩
  · exact (hreach.describe_resolved hinput (by decide)).2.2.1 (by decide)
  · exact (hreach.describe_resolved hfield (by decide)).2.2.1 (by decide)
  · obtain ⟨b, t, -, -, ht, hdescribe⟩ :=
      (hreach.describe_resolved hstack (by decide)).2.2.2 (by decide)
    cases ht
    exact hdescribe

end BlockCursor
