import BlockCursor.Workspace.Id

/-!
# Kinds of inputs and connections

* `InputKind` — what an input can hold.
* `Role` — what a connection is to its block.  A socket belongs to one of the block's inputs, so
  its role says which; the other roles have no input.
* `ConnectionKind` — a role without that input, as messages name it.
-/

namespace BlockCursor

/-- What an input can hold besides its row of fields. -/
inductive InputKind
  /-- One block, plugged in by its output connection. -/
  | value
  /-- A chain of blocks, plugged in by the previous connection of the first. -/
  | statement
  /-- Nothing: it has no socket. -/
  | dummy
deriving DecidableEq, Repr, Inhabited

namespace InputKind

/-- The word for a kind, in layouts and outlines. -/
def name : InputKind → String
  | .value => "value"
  | .statement => "statement"
  | .dummy => "dummy"

/-- All kinds, in the order in which messages list them. -/
def all : List InputKind := [.value, .statement, .dummy]

/-- The kind a word stands for. -/
def ofName? (word : String) : Option InputKind :=
  all.find? fun k => k.name == word

theorem ofName?_name (k : InputKind) : ofName? k.name = some k := by
  cases k <;> decide

/-- The word for a kind with a capital letter, as one message writes it. -/
def title : InputKind → String
  | .value => "Value"
  | .statement => "Statement"
  | .dummy => "Dummy"

/-- Whether inputs of this kind have a socket. -/
def hasSocket : InputKind → Bool
  | .value | .statement => true
  | .dummy => false

end InputKind

/-- The four kinds of connections. -/
inductive ConnectionKind
  /-- The top of a block, which plugs into what stands above it. -/
  | previous
  /-- The bottom of a block, where the following block hangs. -/
  | next
  /-- The side of a block, which plugs into a value socket. -/
  | output
  /-- The socket of an input. -/
  | input
deriving DecidableEq, Repr, Inhabited

/-- The word for a kind of connection. -/
def ConnectionKind.name : ConnectionKind → String
  | .previous => "previous"
  | .next => "next"
  | .output => "output"
  | .input => "input"

/-- What a connection is to its block; a socket names its input. -/
inductive Role
  | previous
  | next
  | output
  | socket (input : InputId)
deriving DecidableEq, Repr

namespace Role

/-- The kind of a connection in this role. -/
def kind : Role → ConnectionKind
  | .previous => .previous
  | .next => .next
  | .output => .output
  | .socket _ => .input

/-- The input that a socket sits in. -/
def input? : Role → Option InputId
  | .socket i => some i
  | .previous | .next | .output => none

end Role

end BlockCursor
