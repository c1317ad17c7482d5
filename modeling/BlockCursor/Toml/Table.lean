import BlockCursor.Data.Tree

/-!
# Tables under construction

A TOML document says its tables bit by bit: dotted keys and headers bring tables into being on the
way, and later lines add to them.  What may be added where depends on how a table came about.

* A pair with a dotted key adds only to tables that dotted keys made.
* A header `[a.b]` opens a table that is new, or that only headers of tables inside it have
  mentioned.  An opened table is the last entry of the table around it.
* A header `[[a.b]]` appends a table to a list that such headers made.
* On its way a header passes through any table, and through the last table of a list.

A document that adds anything anywhere else is refused.

* `Item`, `Table` — what stands under a key, and a table with its marks.
* `Table.put` — a pair.
* `Table.openTable`, `Table.appendTable` — a header with the pairs below it.
* `Table.toData` — the finished table.
-/

namespace BlockCursor.Toml

mutual

/-- What stands under a key. -/
inductive Item
  | value (data : Data)
  | table (table : Table)
  | tables (tables : List Table)

/-- A table under construction.  `implicit` tables have only been mentioned, and `dotted` ones were
mentioned by a dotted key. -/
inductive Table
  | mk (isImplicit dotted : Bool) (entries : List (String × Item))

end

/-- A key with the keys in front of it, and the value beside it. -/
structure Pair where
  path : List String
  key : String
  value : Data

namespace Table

/-- A table that a header or a value opens. -/
def opened : Table := .mk false false []

/-- A table that has only been mentioned. -/
def mentioned (dotted : Bool) : Table := .mk true dotted []

/-- Whether a table has only been mentioned. -/
def isImplicit : Table → Bool
  | .mk isImplicit _ _ => isImplicit

/-- Whether a table was made by a dotted key. -/
def isDotted : Table → Bool
  | .mk _ dotted _ => dotted

/-- The entries of a table, in order. -/
def entries : Table → List (String × Item)
  | .mk _ _ es => es

/-- The table with other entries. -/
def withEntries (t : Table) (es : List (String × Item)) : Table :=
  .mk t.isImplicit t.isDotted es

/-- What stands under a key. -/
def find? (t : Table) (key : String) : Option Item :=
  (t.entries.find? fun e => e.1 == key).map Prod.snd

/-- The table with an item under a key: in place of what stands there, else at the end. -/
def set (t : Table) (key : String) (item : Item) : Table :=
  if (t.find? key).isSome then
    t.withEntries (t.entries.map fun e => if e.1 == key then (key, item) else e)
  else t.withEntries (t.entries ++ [(key, item)])

/-- The table with an item under a key, as the last entry. -/
def setLast (t : Table) (key : String) (item : Item) : Table :=
  t.withEntries (t.entries.filter (fun e => e.1 != key) ++ [(key, item)])

/-- Changes the table at the end of a path of keys.  Tables that are missing on the way are made,
and a dotted key goes only through tables that have not been opened. -/
def along (dotted : Bool) (f : Table → Option Table) : (path : List String) → Table → Option Table
  | [], t => f t
  | key :: path, t => do
    let item ← match t.find? key with
      | none => Item.table <$> along dotted f path (mentioned dotted)
      | some (.value _) => none
      | some (.tables ts) => do
        let last ← along dotted f path (← ts.getLast?)
        some (.tables (ts.dropLast ++ [last]))
      | some (.table u) =>
        if dotted && !u.isImplicit then none else Item.table <$> along dotted f path u
    return t.set key item

/-- Puts a pair into a table.  The key has to be new, and the table it goes into has to be one that
dotted keys made exactly if the key is dotted. -/
def put (t : Table) (p : Pair) : Option Table :=
  t.along true (fun u =>
    if u.isDotted == p.path.isEmpty || (u.find? p.key).isSome then none
    else some (u.set p.key (.value p.value))) p.path

/-- Puts pairs into a table one after the other. -/
def putAll (t : Table) (pairs : List Pair) : Option Table :=
  pairs.foldlM put t

/-- Opens the table at a path and puts pairs into it. -/
def openTable (path : List String) (key : String) (pairs : List Pair) (root : Table) :
    Option Table :=
  root.along false (fun parent => do
    let t ← match parent.find? key with
      | none => some opened
      | some (.table u) => if u.isImplicit && !u.isDotted then some u else none
      | some _ => none
    let t ← (Table.mk false false t.entries).putAll pairs
    return parent.setLast key (.table t)) path

/-- Appends a table with pairs to the list of tables at a path. -/
def appendTable (path : List String) (key : String) (pairs : List Pair) (root : Table) :
    Option Table :=
  root.along false (fun parent => do
    let before ← match parent.find? key with
      | none => some []
      | some (.tables ts) => some ts
      | some _ => none
    let t ← opened.putAll pairs
    return parent.set key (.tables (before ++ [t]))) path

end Table

/-! ## Finished tables -/

mutual

/-- What stands under a key, as data. -/
def Item.toData : Item → Data
  | .value d => d
  | .table t => t.toData
  | .tables ts => .list (tablesToData ts) true

/-- A table, as data. -/
def Table.toData : Table → Data
  | .mk _ _ es => .table (entriesToData es)

/-- The entries of a table, as data. -/
def entriesToData : List (String × Item) → List (String × Data)
  | [] => []
  | (key, item) :: rest => (key, item.toData) :: entriesToData rest

/-- Tables, as data. -/
def tablesToData : List Table → List Data
  | [] => []
  | t :: rest => t.toData :: tablesToData rest

end

end BlockCursor.Toml
