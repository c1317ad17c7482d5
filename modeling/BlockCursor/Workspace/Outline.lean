import BlockCursor.Text.Blank
import BlockCursor.Workspace.Basic

/-!
# Outlines

An outline shows every stack of a workspace as indented lines: a line per block with its kind, label
and id, a line per input with its name, kind and row of fields, and what hangs in an input's socket
further in.  Editable fields are marked with a star.

* `OutlineEntry` — one line, before it is written.
* `Workspace.outlineEntries` — all entries in order: a block comes before what its inputs hold, and
  that before the block that follows it.
* `Workspace.outline` — the text.
-/

namespace BlockCursor

/-- One line of an outline. -/
inductive OutlineEntry
  | stack (number : Nat)
  | block (indent : Nat) (id : BlockId) (kind : String) (label : Option String)
  | input (indent : Nat) (id : InputId) (name : String) (kind : String)
      (fields : List (String × Bool))
deriving DecidableEq, Repr

namespace OutlineEntry

/-- The blanks of an indented line, two for each level. -/
def indentation (levels : Nat) : String :=
  String.ofList (List.replicate (2 * levels) ' ')

/-- A field in a row, with a star if it is editable. -/
def fieldText : String × Bool → String
  | (name, true) => name ++ "*"
  | (name, false) => name

/-- A line of an outline. -/
def text : OutlineEntry → String
  | .stack number => s!"stack {number}"
  | .block indent id kind label =>
    let tag := match label with
      | some l => s!" [{l}]"
      | none => ""
    s!"{indentation indent}{kind}{tag} {id.text}"
  | .input indent _ name kind fields =>
    let row := if fields.isEmpty then ""
      else ": " ++ String.intercalate ", " (fields.map fieldText)
    s!"{indentation indent}{name} ({kind}){row}"

end OutlineEntry

namespace Workspace

variable (ws : Workspace)

/-- The entry for a block. -/
def blockEntry (indent : Nat) (b : BlockId) : OutlineEntry :=
  .block indent b ((ws.blockKind? b).getD "?") (ws.labelOf? b)

/-- The entry for an input. -/
def inputEntry (indent : Nat) (i : InputId) : OutlineEntry :=
  .input indent i ((ws.inputName? i).getD "?") (((ws.inputKind? i).map InputKind.name).getD "")
    ((ws.fieldsOf i).map fun f => ((ws.fieldName? f).getD "?", ws.isEditable f))

/-- The entries for a block and what hangs below it, at most `bound` levels deep.  What an input
holds stands two levels further in than its block, and a following block on the same level. -/
def chainEntries : (bound : Nat) → (indent : Nat) → BlockId → List OutlineEntry
  | 0, _, _ => []
  | bound + 1, indent, b =>
    let held := (ws.inputsOf b).flatMap fun i =>
      ws.inputEntry (indent + 1) i ::
        (((ws.socket? i).bind ws.targetBlock?).toList.flatMap (chainEntries bound (indent + 2)))
    let following := ((ws.next? b).bind ws.targetBlock?).toList.flatMap (chainEntries bound indent)
    ws.blockEntry indent b :: (held ++ following)

/-- The entries for all stacks. -/
def outlineEntries : List OutlineEntry :=
  ws.tops.zipIdx.flatMap fun (top, number) =>
    .stack number :: ws.chainEntries ws.blocks.size 1 top

/-- The outline of a workspace: one line for each entry, with no blanks at the very end. -/
def outline : String :=
  Text.trimEnd (String.join (ws.outlineEntries.map fun entry => entry.text ++ "\n"))

end Workspace

end BlockCursor
