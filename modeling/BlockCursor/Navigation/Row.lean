import BlockCursor.Navigation.Node

/-!
# Stops inside a block

Inside a block the cursor stops on editable fields and on sockets, in display order: each input's
row of fields first, then its socket.  Fields that are not editable are passed over.

* `firstEditable?`, `lastEditable?`, `editableAfter?`, `editableBefore?` — within one row.
* `afterSocket?`, `beforeSocket?`, `afterField?`, `beforeField?` — the steps of a cursor.
* `stops` — all the stops of a block in display order.

Going forward a cursor meets an input's fields before its socket, and going back it meets a socket
before the fields.  Going back from a field looks only at the socket just before its row.
-/

namespace BlockCursor.Workspace

variable (ws : Workspace)

/-! ## Within a row -/

/-- The first editable field of an input. -/
def firstEditable? (i : InputId) : Option FieldId :=
  (ws.fieldsOf i).find? ws.isEditable

/-- The last editable field of an input. -/
def lastEditable? (i : InputId) : Option FieldId :=
  (ws.fieldsOf i).reverse.find? ws.isEditable

/-- The first editable field of an input after one of its fields. -/
def editableAfter? (i : InputId) (f : FieldId) : Option FieldId :=
  (((ws.fieldsOf i).dropWhile (· != f)).drop 1).find? ws.isEditable

/-- The last editable field of an input before one of its fields. -/
def editableBefore? (i : InputId) (f : FieldId) : Option FieldId :=
  let row := ws.fieldsOf i
  if row.contains f then (row.takeWhile (· != f)).reverse.find? ws.isEditable else none

/-! ## Steps within a block -/

/-- The inputs of the same block that stand after an input. -/
def inputsAfter (i : InputId) : List InputId :=
  match ws.inputBlock? i with
  | none => []
  | some b => ((ws.inputsOf b).dropWhile (· != i)).drop 1

/-- The inputs of the same block that stand before an input, the nearest first. -/
def inputsBefore (i : InputId) : List InputId :=
  match ws.inputBlock? i with
  | none => []
  | some b =>
    let inputs := ws.inputsOf b
    if inputs.contains i then (inputs.takeWhile (· != i)).reverse else []

/-- Where an input is entered from before it: at its first editable field, else at its socket. -/
def enterForward? (i : InputId) : Option Node :=
  ((ws.firstEditable? i).map Node.field).or ((ws.socket? i).map Node.input)

/-- Where an input is entered from behind it: at its socket, else at its last editable field. -/
def enterBackward? (i : InputId) : Option Node :=
  ((ws.socket? i).map Node.input).or ((ws.lastEditable? i).map Node.field)

/-- The stop after a socket: where the first later input that has any is entered. -/
def afterSocket? (c : ConnectionId) : Option Node :=
  (ws.parentInput? c).bind fun i => (ws.inputsAfter i).findSome? ws.enterForward?

/-- The stop before a socket: the last editable field of its own row, else where the nearest earlier
input that has any is entered. -/
def beforeSocket? (c : ConnectionId) : Option Node :=
  (ws.parentInput? c).bind fun i =>
    ((ws.lastEditable? i).map Node.field).or ((ws.inputsBefore i).findSome? ws.enterBackward?)

/-- The stop after a field: the next editable field of its row, else the socket of the row. -/
def afterField? (f : FieldId) : Option Node :=
  (ws.fieldInput? f).bind fun i =>
    ((ws.editableAfter? i f).map Node.field).or ((ws.socket? i).map Node.input)

/-- The stop before a field: the previous editable field of its row, else the socket of the input
just before. -/
def beforeField? (f : FieldId) : Option Node :=
  (ws.fieldInput? f).bind fun i =>
    ((ws.editableBefore? i f).map Node.field).or
      ((ws.inputsBefore i).head?.bind fun before => (ws.socket? before).map Node.input)

/-! ## All stops -/

/-- The stops of an input in display order. -/
def inputStops (i : InputId) : List Node :=
  ((ws.fieldsOf i).filter ws.isEditable).map Node.field ++ (ws.socket? i).toList.map Node.input

/-- The stops of a block in display order. -/
def stops (b : BlockId) : List Node :=
  (ws.inputsOf b).flatMap ws.inputStops

end BlockCursor.Workspace
