import BlockCursor.Toml.Scalar
import BlockCursor.Toml.Table

/-!
# Keys and values of TOML

A key is a row of simple keys with dots between them; a simple key is a row of letters, digits,
hyphens and underscores, or a quoted line.  A value is quoted or unquoted, or it is a list in
brackets or a table in braces.  Lists may run over several lines and end with a comma, tables may
not.

Lists and tables may stand inside each other, and keys may have dots, below a fixed limit.

* `keyPath` — a key at the start of a text.
* `value` — a value at the start of a text.
-/

namespace BlockCursor.Toml

/-- How deep values may stand inside each other, and how many simple keys a key may have. -/
def nestingLimit : Nat := 79

/-! ## Keys -/

/-- A character of a key that is not quoted. -/
def isKeyChar (c : Char) : Bool :=
  c.isAlphanum || c == '-' || c == '_'

/-- A simple key. -/
def simpleKey (cs : List Char) : Option (String × List Char) :=
  let (word, rest) := cs.span isKeyChar
  if word.isEmpty then quotedLine cs else some (String.ofList word, rest)

/-- Simple keys with dots between them, and blanks around each, past the blanks behind them. -/
def simpleKeys (cs : List Char) : Option (List String × List Char) :=
  match simpleKey (skipBlanks cs) with
  | none => none
  | some (key, rest) =>
    match skipBlanks rest with
    | '.' :: more =>
      if more.length < cs.length then
        (simpleKeys more).map fun (keys, rest) => (key :: keys, rest)
      else none
    | rest => some ([key], rest)
termination_by cs.length

/-- A key: the simple keys before the last, and the last. -/
def keyPath (cs : List Char) : Option (List String × String × List Char) := do
  let (keys, rest) ← simpleKeys cs
  if nestingLimit < keys.length then none
  else return (keys.dropLast, ← keys.getLast?, rest)

/-! ## Values -/

/-- A key and a value with an equals sign between them. -/
def pair (value : List Char → Option (Data × List Char)) (cs : List Char) :
    Option (Pair × List Char) := do
  let (path, key, rest) ← keyPath cs
  match rest with
  | '=' :: rest =>
    let (data, rest) ← value (skipBlanks rest)
    return (⟨path, key, data⟩, rest)
  | _ => none

/-- The values of a list up to its closing bracket. -/
def items (value : List Char → Option (Data × List Char)) (cs : List Char) :
    Option (List Data × List Char) :=
  match skipLines cs with
  | none => none
  | some (']' :: rest) => some ([], rest)
  | some start =>
    match value start with
    | none => none
    | some (d, rest) =>
      match skipLines rest with
      | some (']' :: rest) => some ([d], rest)
      | some (',' :: rest) =>
        if rest.length < cs.length then
          (items value rest).map fun (ds, rest) => (d :: ds, rest)
        else none
      | _ => none
termination_by cs.length

/-- The pairs of a table in braces, at least one, up to its closing brace. -/
def pairs (value : List Char → Option (Data × List Char)) (cs : List Char) :
    Option (List Pair × List Char) :=
  match pair value cs with
  | none => none
  | some (p, rest) =>
    match skipBlanks rest with
    | '\x7d' :: rest => some ([p], rest)
    | ',' :: rest =>
      if rest.length < cs.length then
        (pairs value rest).map fun (ps, rest) => (p :: ps, rest)
      else none
    | _ => none
termination_by cs.length

/-- The pairs of a table in braces, which may be empty. -/
def pairsIfAny (value : List Char → Option (Data × List Char)) (cs : List Char) :
    Option (List Pair × List Char) :=
  match skipBlanks cs with
  | '\x7d' :: rest => some ([], rest)
  | _ => pairs value cs

/-- A value with at most `depth` levels of lists and tables. -/
def valueWithin : (depth : Nat) → List Char → Option (Data × List Char)
  | depth + 1, '[' :: cs =>
    (items (valueWithin depth) cs).map fun (ds, rest) => (.list ds, rest)
  | depth + 1, '\x7b' :: cs => do
    let (ps, rest) ← pairsIfAny (valueWithin depth) cs
    let t ← Table.opened.putAll ps
    return (t.toData, rest)
  | _, cs =>
    ((quotedText cs).map fun (s, rest) => (Data.string s, rest)).or (scalar cs)

/-- A value. -/
def value (cs : List Char) : Option (Data × List Char) :=
  valueWithin nestingLimit cs

end BlockCursor.Toml
