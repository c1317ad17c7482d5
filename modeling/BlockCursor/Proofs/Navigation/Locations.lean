import BlockCursor.Navigation.Start
import BlockCursor.Proofs.Navigation.Agreement
import BlockCursor.Proofs.Workspace.Lifetime

/-!
# The table of start locations

A start location is cut at its first colon and at as many dots as its kind asks for, and each part
is looked up below the one before.  The table says the same of what is found, without the looking.

* `Start.split?_eq_some_iff` — a cut loses nothing but the separator.
* `Start.Names` — the table: which references name a node.
* **`Start.resolve_eq_ok_iff`** — the nodes that start locations lead to are those of the table.
* **`Start.Names.agrees`** — they agree with what they refer to.
-/

namespace BlockCursor

open Workspace

variable {ws : Workspace} {n : Node} {b : BlockId} {c : ConnectionId} {i : InputId} {f : FieldId}
  {spec reference label name : String}

lemma NodeKind.ofName?_eq_some_iff {word : String} {k : NodeKind} :
    ofName? word = some k ↔ word = k.name := by
  constructor
  · intro hfind
    rw [ofName?] at hfind
    have hname := List.find?_some hfind
    simp only [beq_iff_eq] at hname
    exact hname.symm
  · rintro rfl
    exact ofName?_name k

lemma NodeKind.colon_not_mem_name (k : NodeKind) : ':' ∉ k.name.toList := by
  cases k <;> decide

namespace Start

/-! ## What start locations name -/

/-- **The table of start locations**: the references that name a node. -/
def Names (ws : Workspace) (reference : String) : Node → Prop
  | .workspace p => point reference = .ok p
  | .stack t => ∃ b, ws.labelled? reference = some b ∧ (ws.root? b).getD b = t
  | .block b => ws.labelled? reference = some b
  | .previous c => ∃ b, ws.labelled? reference = some b ∧ ws.previous? b = some c
  | .next c => ∃ b, ws.labelled? reference = some b ∧ ws.next? b = some c
  | .output c => ∃ b, ws.labelled? reference = some b ∧ ws.output? b = some c
  | .input c => ∃ label name b i, reference = label ++ "." ++ name ∧ '.' ∉ label.toList ∧
      ws.labelled? label = some b ∧ ws.inputNamed? b name = some i ∧ ws.socket? i = some c
  | .field f => ∃ label name field b i, reference = label ++ "." ++ name ++ "." ++ field ∧
      '.' ∉ label.toList ∧ '.' ∉ name.toList ∧ ws.labelled? label = some b ∧
      ws.inputNamed? b name = some i ∧ ws.fieldNamed? i field = some f

lemma orError_eq_ok_iff {α : Type} {x : Option α} {e : StartError} {a : α} :
    orError x e = .ok a ↔ x = some a := by
  cases x <;> simp [orError]

/-- A text is cut around the first separator, and nothing else is lost. -/
lemma split?_eq_some_iff {sep : Char} {s before after : String} :
    split? sep s = some (before, after) ↔
      s = before ++ String.singleton sep ++ after ∧ sep ∉ before.toList := by
  rw [split?, Option.map_eq_some_iff]
  constructor
  · rintro ⟨⟨x, y⟩, hcut, hparts⟩
    obtain ⟨hs, hsep⟩ := Text.cut?_eq_some_iff.mp hcut
    obtain ⟨rfl, rfl⟩ := Prod.mk.inj hparts
    refine ⟨?_, by simpa using hsep⟩
    apply String.toList_inj.mp
    simp [hs]
  · rintro ⟨rfl, hsep⟩
    exact ⟨(before.toList, after.toList), Text.cut?_eq_some_iff.mpr ⟨by simp, hsep⟩, by simp⟩

lemma map_eq_ok_iff {α : Type} {x : Except StartError α} {g : α → Node} :
    g <$> x = .ok n ↔ ∃ a, x = .ok a ∧ g a = n := by
  cases x <;> simp [Functor.map, Except.map]

lemma input_eq_ok_iff : input ws label name = .ok i ↔
    ∃ b, ws.labelled? label = some b ∧ ws.inputNamed? b name = some i := by
  simp [input, block, bind_eq_ok_iff, orError_eq_ok_iff]

lemma connection_eq_ok_iff {kind : ConnectionKind} {find : BlockId → Option ConnectionId} :
    connection ws label kind find = .ok c ↔ ∃ b, ws.labelled? label = some b ∧ find b = some c := by
  simp [connection, block, bind_eq_ok_iff, orError_eq_ok_iff]

lemma nodeOfKind_eq_ok_iff (kind : NodeKind) :
    nodeOfKind ws reference kind = .ok n ↔ n.kind = kind ∧ Names ws reference n := by
  cases kind with
  | workspace => cases n <;> simp [nodeOfKind, map_eq_ok_iff, Node.kind, Names]
  | stack =>
      cases n <;> simp [nodeOfKind, block, bind_eq_ok_iff, orError_eq_ok_iff, Node.kind, Names,
        pure, Except.pure]
  | block =>
      cases n <;> simp [nodeOfKind, block, map_eq_ok_iff, orError_eq_ok_iff, Node.kind, Names]
  | previous | next | output =>
      cases n <;> simp [nodeOfKind, map_eq_ok_iff, connection_eq_ok_iff, Node.kind, Names]
  | input =>
      simp only [nodeOfKind, bind_eq_ok_iff, orError_eq_ok_iff, input_eq_ok_iff, Prod.exists,
        split?_eq_some_iff, pure, Except.pure, Except.ok.injEq]
      constructor
      · rintro ⟨label, name, ⟨rfl, hdot⟩, i, ⟨b, hb, hi⟩, c, hc, rfl⟩
        exact ⟨rfl, label, name, b, i, rfl, hdot, hb, hi, hc⟩
      · rintro ⟨hkind, hnames⟩
        cases n with
        | input c =>
            obtain ⟨label, name, b, i, rfl, hdot, hb, hi, hc⟩ := hnames
            exact ⟨label, name, ⟨rfl, hdot⟩, i, ⟨b, hb, hi⟩, c, hc, rfl⟩
        | _ => cases hkind
  | field =>
      simp only [nodeOfKind, bind_eq_ok_iff, orError_eq_ok_iff, input_eq_ok_iff, Prod.exists,
        split?_eq_some_iff, pure, Except.pure, Except.ok.injEq]
      constructor
      · rintro ⟨label, _, ⟨rfl, hlabel⟩, name, field, ⟨rfl, hname⟩, i, ⟨b, hb, hi⟩, f, hf, rfl⟩
        refine ⟨rfl, label, name, field, b, i, ?_, hlabel, hname, hb, hi, hf⟩
        simp only [String.append_assoc]
        rfl
      · rintro ⟨hkind, hnames⟩
        cases n with
        | field f =>
            obtain ⟨label, name, field, b, i, rfl, hlabel, hname, hb, hi, hf⟩ := hnames
            refine ⟨label, name ++ "." ++ field, ⟨?_, hlabel⟩, name, field, ⟨rfl, hname⟩, i,
              ⟨b, hb, hi⟩, f, hf, rfl⟩
            simp only [String.append_assoc]
            rfl
        | _ => cases hkind

/-- **Start locations lead to the nodes of the table**, and to no others. -/
theorem resolve_eq_ok_iff : resolve ws spec = .ok n ↔
    ∃ reference, spec = n.kind.name ++ ":" ++ reference ∧ Names ws reference n := by
  simp only [resolve, bind_eq_ok_iff, orError_eq_ok_iff, Prod.exists, split?_eq_some_iff,
    NodeKind.ofName?_eq_some_iff, nodeOfKind_eq_ok_iff]
  constructor
  · rintro ⟨word, reference, ⟨rfl, -⟩, kind, rfl, rfl, hnames⟩
    exact ⟨reference, rfl, hnames⟩
  · rintro ⟨reference, rfl, hnames⟩
    exact ⟨_, reference, ⟨rfl, n.kind.colon_not_mem_name⟩, _, rfl, rfl, hnames⟩

/-- **Start locations name nodes that agree.** -/
theorem Names.agrees (h : ws.Reachable) (hnames : Names ws reference n) : n.Agrees ws := by
  have howned := h.forest.toOwned
  cases n with
  | workspace p => exact trivial
  | stack t =>
      obtain ⟨b, hb, ht⟩ := hnames
      obtain ⟨u, hu⟩ := h.forest.exists_root (h.hasBlock_of_label hb)
      rw [hu, Option.getD_some] at ht
      exact h.forest.hasBlock_of_mem_tops (ht ▸ h.forest.root_mem_tops hu)
  | block b => exact h.hasBlock_of_label hnames
  | previous c =>
      obtain ⟨b, -, hc⟩ := hnames
      exact kind?_of_place (howned.place_of_previous hc)
  | next c =>
      obtain ⟨b, -, hc⟩ := hnames
      exact Or.inl (kind?_of_place (howned.place_of_next hc))
  | output c =>
      obtain ⟨b, -, hc⟩ := hnames
      exact kind?_of_place (howned.place_of_output hc)
  | input c =>
      obtain ⟨label, name, b, i, -, -, -, -, hc⟩ := hnames
      obtain ⟨a, -, hplace⟩ := howned.place_of_socket hc
      exact kind?_of_place hplace
  | field f =>
      obtain ⟨label, name, field, b, i, -, -, -, -, -, hf⟩ := hnames
      exact hasField_of_fieldInput ((howned.field_iff i f).mp (List.mem_of_find?_eq_some hf))

lemma resolve_agrees (h : ws.Reachable) (hok : resolve ws spec = .ok n) : n.Agrees ws := by
  obtain ⟨reference, -, hnames⟩ := resolve_eq_ok_iff.mp hok
  exact hnames.agrees h

end Start

end BlockCursor
