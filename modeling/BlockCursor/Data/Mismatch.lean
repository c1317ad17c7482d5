import BlockCursor.Data.Tree
import BlockCursor.Decimal.Text
import BlockCursor.Text.Quoted

/-!
# Reading data as something

A data tree is read as numbers, words and records, and the first thing in it that does not fit is
reported as a `Mismatch`.  What is reported names what was expected and what was found.

* `DataFormat` — the format a tree comes from; a few refusals are told differently in each.
* `Record` — the name of a record and of its fields.
* `Mismatch`, `Mismatch.message` — what does not fit.
* `Data.asString`, `Data.asBool`, … — a tree read as a simple value.
-/

namespace BlockCursor

/-- The format that a data tree comes from. -/
inductive DataFormat
  | toml
  | json
deriving DecidableEq, Repr, Inhabited

/-- A record type: its name, and its fields in order. -/
structure Record where
  name : String
  fields : List String
deriving DecidableEq, Repr

/-- How a message calls the record. -/
def Record.expectation (r : Record) : String :=
  s!"struct {r.name}"

/-- What in a data tree does not fit what it is read as. -/
inductive Mismatch
  /-- A value of another type. -/
  | wrongType (found expected : String)
  /-- A key that the record does not have. -/
  | unknownField (key : String) (known : List String)
  /-- A field that has to be there. -/
  | missingField (key : String)
  /-- A list that ends before a field that has to be there. -/
  | shortList (length : Nat) (record : Record)
  /-- A list with more entries than the record has fields. -/
  | longList (length : Nat)
  /-- A word that is none of those allowed. -/
  | unknownWord (word : String) (known : List String)
  /-- Neither a word nor a table around one. -/
  | notWord (expected : String)
  /-- A table around a word has to have one entry. -/
  | notSingleton (entries : Nat)
  /-- A table of several entries, where it has to have one key. -/
  | notSingleKey
  /-- The value beside a word has to be empty. -/
  | notEmpty (expected : String)
deriving DecidableEq, Repr

/-- A name in a message. -/
def tick (name : String) : String := s!"`{name}`"

/-- Names to choose from. -/
def choices : List String → String
  | [] => ""
  | [a] => tick a
  | [a, b] => s!"{tick a} or {tick b}"
  | names => "one of " ++ String.intercalate ", " (names.map tick)

/-- The message of a mismatch. -/
def Mismatch.message : Mismatch → String
  | .wrongType found expected => s!"invalid type: {found}, expected {expected}"
  | .unknownField key [] => s!"unknown field {tick key}, there are no fields"
  | .unknownField key known => s!"unknown field {tick key}, expected {choices known}"
  | .missingField key => s!"missing field {tick key}"
  | .shortList length record =>
    let count := record.fields.length
    let noun := if count = 1 then "element" else "elements"
    s!"invalid length {length}, expected {record.expectation} with {count} {noun}"
  | .longList length => s!"invalid length {length}, expected fewer elements in array"
  | .unknownWord word known => s!"unknown variant {tick word}, expected {choices known}"
  | .notWord expected => s!"wanted {expected}"
  | .notSingleton entries =>
    let found := if entries = 0 then "found 0 elements" else "more than 1 element"
    s!"wanted exactly 1 element, {found}"
  | .notSingleKey => "invalid value: map, expected map with a single key"
  | .notEmpty expected => s!"expected {expected}"

/-! ## Records -/

/-- What a record is read from: a table, or a list of its fields. -/
inductive RecordSource
  | table
  | list
deriving DecidableEq, Repr

/-- The field number `i` of a record, which has to be there. -/
def RecordSource.require {α : Type} (source : RecordSource) (r : Record) (i : Nat) (x : Option α) :
    Except Mismatch α :=
  match x, source with
  | some a, _ => .ok a
  | none, .table => .error (.missingField (r.fields.getD i ""))
  | none, .list => .error (.shortList i r)

/-- Whether a list may have more entries than the record has fields. -/
def DataFormat.checkLength (format : DataFormat) (r : Record) (length : Nat) :
    Except Mismatch Unit :=
  match format with
  | .toml => .ok ()
  | .json => if r.fields.length < length then .error (.longList length) else .ok ()

/-! ## Simple values -/

/-- How a number that is not whole is told. -/
def DataFormat.floatText (format : DataFormat) (x : Float) : String :=
  match format with
  | .toml => Decimal.pointed x
  | .json => Decimal.compact x

namespace Data

/-- The key under which a date stands where tables are expected. -/
def datetimeKey : String := "$__toml_private_datetime"

/-- What a message says was found. -/
def found (format : DataFormat) : Data → String
  | .null => "null"
  | .bool b => "boolean " ++ tick (if b then "true" else "false")
  | .integer n => s!"integer {tick (toString n)}"
  | .float x => s!"floating point {tick (format.floatText x)}"
  | .string s => s!"string {Text.quoted s}"
  | .datetime _ => "map"
  | .list _ _ => "sequence"
  | .table _ => "map"

variable (format : DataFormat)

/-- What is wrong with a tree that stands where a record is expected and is neither a table nor a
list.  A date counts as a table with one key of its own. -/
def notRecord (r : Record) : Data → Mismatch
  | .datetime _ => .unknownField datetimeKey r.fields
  | d => .wrongType (d.found format) r.expectation

/-- A tree read as a text. -/
def asString : Data → Except Mismatch String
  | .string s => .ok s
  | d => .error (.wrongType (d.found format) "a string")

/-- A tree read as a text or nothing. -/
def asOptionalString : Data → Except Mismatch (Option String)
  | .null => .ok none
  | d => some <$> d.asString format

/-- A tree read as a truth value. -/
def asBool : Data → Except Mismatch Bool
  | .bool b => .ok b
  | d => .error (.wrongType (d.found format) "a boolean")

/-- A tree read as a list. -/
def asList : Data → Except Mismatch (List Data)
  | .list items _ => .ok items
  | d => .error (.wrongType (d.found format) "a sequence")

/-- A tree read as a number; whole numbers are numbers too. -/
def asFloat : Data → Except Mismatch Float
  | .float x => .ok x
  | .integer n => .ok (Decimal.Binary64.nearest (n < 0) n.natAbs 1)
  | d => .error (.wrongType (d.found format) "f64")

/-- What a message calls the type of a value. -/
def typeName : Data → String
  | .null => "null"
  | .bool _ => "boolean"
  | .integer _ => "integer"
  | .float _ => "float"
  | .string _ => "string"
  | .datetime _ => "datetime"
  | .list _ false => "array"
  | .list _ true => "array of tables"
  | .table _ => "table"

/-- Checks that the value beside a word is empty. -/
def checkEmpty (d : Data) : Except Mismatch Unit :=
  match format, d with
  | .toml, .list [] _ | .toml, .table [] | .json, .null => .ok ()
  | .toml, .list _ true => .error (.notEmpty "empty array")
  | .toml, .list _ false | .toml, .table _ => .error (.notEmpty "empty table")
  | .toml, d => .error (.notEmpty s!"table, found {d.typeName}")
  | .json, d => .error (.wrongType (d.found format) "unit")

/-- A tree read as one of a few words.  A word may also stand as the only key of a table, beside an
empty value. -/
def asChoice {α : Type} (choose : String → Option α) (known : List String) (d : Data) :
    Except Mismatch α :=
  let pick (word : String) : Except Mismatch α :=
    match choose word with
    | some a => .ok a
    | none => .error (.unknownWord word known)
  match d with
  | .string word => pick word
  | .table [(word, value)] => do
    let a ← pick word
    value.checkEmpty format
    return a
  | .table es =>
    match format with
    | .toml => .error (.notSingleton es.length)
    | .json => .error .notSingleKey
  | d =>
    match format with
    | .toml => .error (.notWord "string or table")
    | .json => .error (.wrongType (d.found format) "string or map")

end Data

/-! ## Records with one field -/

/-- Reads the only field of a record with one field, if it is there. -/
def Record.readOnlyField {α : Type} (record : Record) (format : DataFormat)
    (read : Data → Except Mismatch α) (default : α) :
    Data → Except Mismatch α
  | .table es =>
    es.foldlM (fun _ (key, d) =>
      if record.fields.contains key then read d
      else .error (.unknownField key record.fields)) default
  | .list items _ => do
    let a ← match items with
      | [] => .ok default
      | d :: _ => read d
    format.checkLength record items.length
    return a
  | d => .error (d.notRecord format record)

end BlockCursor
