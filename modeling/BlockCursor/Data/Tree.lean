/-!
# Data trees

What a document in a data format says, apart from how it is written.  The entries of a table keep
the order of the document.
-/

namespace BlockCursor

/-- A value in a document. -/
inductive Data
  | null
  | bool (value : Bool)
  | integer (value : Int)
  | float (value : Float)
  | string (value : String)
  /-- A date, a time of day or both, as written. -/
  | datetime (written : String)
  /-- A list; `bySections` if each of its entries is a table with a section of its own. -/
  | list (items : List Data) (bySections : Bool := false)
  | table (entries : List (String × Data))
deriving Repr, Inhabited

end BlockCursor
