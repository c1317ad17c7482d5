/-!
# Ids

Blocks, inputs, connections and fields are each numbered from zero in the order in which they are
made.  An id is such a number with the kind of object it numbers; its text is the number behind the
first letter of the kind.
-/

namespace BlockCursor

/-- The number of a block. -/
structure BlockId where
  index : Nat
deriving DecidableEq, Repr, Inhabited

/-- The number of an input of some block. -/
structure InputId where
  index : Nat
deriving DecidableEq, Repr, Inhabited

/-- The number of a connection: a block's top, bottom or side, or the socket of an input. -/
structure ConnectionId where
  index : Nat
deriving DecidableEq, Repr, Inhabited

/-- The number of a field in the row of some input. -/
structure FieldId where
  index : Nat
deriving DecidableEq, Repr, Inhabited

/-- The text of a block's id, such as `b3`. -/
def BlockId.text (b : BlockId) : String := s!"b{b.index}"

/-- The text of an input's id, such as `i2`. -/
def InputId.text (i : InputId) : String := s!"i{i.index}"

/-- The text of a connection's id, such as `c5`. -/
def ConnectionId.text (c : ConnectionId) : String := s!"c{c.index}"

/-- The text of a field's id, such as `f1`. -/
def FieldId.text (f : FieldId) : String := s!"f{f.index}"

end BlockCursor
