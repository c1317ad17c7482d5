import BlockCursor.Text.Alphanumeric

/-!
# Patterns

The value of a field in a log filter may be written as a regular expression.  No event here is
compared with one, but a filter with a value that is no expression is refused.

An expression is a row of pieces, with bars between alternatives.  A piece is a character, an escape
behind a backslash, a class in brackets or a group in parentheses.  The signs `*`, `+` and `?`
repeat the piece in front of them, so there has to be one; a count in braces is never complete, as a
filter has no room for its closing brace.

* `Pattern.isComplete` — whether a text is an expression.
-/

namespace BlockCursor.Log.Pattern

/-! ## Escapes -/

/-- Whether a character stands for itself behind a backslash. -/
def isEscapable (c : Char) : Bool :=
  0x20 ≤ c.toNat && c.toNat < 0x7F && !c.isAlphanum

/-- Whether a letter has a meaning behind a backslash. -/
def isEscapeLetter (c : Char) : Bool :=
  "aftnrvdswDSWAzbB".contains c

/-- Whether a character is a hexadecimal digit. -/
def isHexDigit (c : Char) : Bool :=
  c.isDigit || ('a' ≤ c && c ≤ 'f') || ('A' ≤ c && c ≤ 'F')

/-- How many hexadecimal digits follow a letter behind a backslash. -/
def hexLength? : Char → Option Nat
  | 'x' => some 2
  | 'u' => some 4
  | 'U' => some 8
  | _ => none

/-- What follows an escape, which is read behind its backslash. -/
def afterEscape? : List Char → Option (List Char)
  | [] => none
  | c :: cs =>
    match hexLength? c with
    | some n =>
      if n ≤ cs.length && (cs.take n).all isHexDigit then some (cs.drop n) else none
    | none => if isEscapable c || isEscapeLetter c then some cs else none

/-! ## Classes -/

/-- A class behind its opening bracket, up to its members: a hat and hyphens stand in front, and
without hyphens also a closing bracket that is a member. -/
def classMembers (cs : List Char) : List Char :=
  let cs := match cs with
    | '^' :: cs => cs
    | cs => cs
  match cs with
  | '-' :: _ => cs.dropWhile (· == '-')
  | ']' :: cs => cs
  | cs => cs

/-- What follows a class, of which `depth` brackets are open.  Classes may stand inside each other,
and the ends of a range are in order. -/
def afterClass? : (fuel depth : Nat) → List Char → Option (List Char)
  | 0, _, _ | _, _, [] => none
  | _, 0, cs => some cs
  | fuel + 1, depth + 1, c :: cs =>
    match c, cs with
    | ']', _ => if depth = 0 then some cs else afterClass? fuel depth cs
    | '[', _ => afterClass? fuel (depth + 2) (classMembers cs)
    | '\\', _ => do afterClass? fuel (depth + 1) (← afterEscape? cs)
    | _, '-' :: d :: rest =>
      if d == ']' || d == '-' || d == '\\' then afterClass? fuel (depth + 1) cs
      else if d < c then none
      else afterClass? fuel (depth + 1) rest
    | _, _ => afterClass? fuel (depth + 1) cs

/-! ## Groups -/

/-- Whether the name of a group is one. -/
def isGroupName : List Char → Bool
  | [] => false
  | c :: cs =>
    (c == '_' || (Text.isAlphanumeric c && !c.isDigit)) &&
      cs.all fun c => "_.[]".contains c || Text.isAlphanumeric c

/-- Whether a row of flags is one: each stands once, and something stands behind a minus. -/
def areFlags (cs : List Char) : Bool :=
  (cs.all fun c => "imsUuRx-".contains c) && cs.eraseDups == cs && cs.getLast? != some '-'

/-- What follows the opening of a group, which is read behind its parenthesis, and whether a group
has been opened: flags may also stand alone. -/
def afterOpening? : List Char → Option (Bool × List Char)
  | '?' :: 'P' :: '<' :: cs | '?' :: '<' :: cs =>
    let (name, rest) := cs.span (· != '>')
    if isGroupName name && !rest.isEmpty then some (true, rest.drop 1) else none
  | '?' :: cs =>
    let (flags, rest) := cs.span fun c => c != ':' && c != ')'
    match areFlags flags, rest with
    | true, ':' :: rest => some (true, rest)
    | true, ')' :: rest => if flags.isEmpty then none else some (false, rest)
    | _, _ => none
  | cs => some (true, cs)

/-! ## Expressions -/

/-- Whether the rest of an expression completes it, when `depth` groups are open; `piece` says
whether there is a piece that can be repeated. -/
def completes : (fuel depth : Nat) → (piece : Bool) → List Char → Bool
  | 0, _, _, _ => false
  | _, depth, _, [] => depth = 0
  | fuel + 1, depth, piece, c :: cs =>
    match c with
    | '(' =>
      match afterOpening? cs with
      | some (true, rest) => completes fuel (depth + 1) false rest
      | some (false, rest) => completes fuel depth false rest
      | none => false
    | ')' => if depth = 0 then false else completes fuel (depth - 1) true cs
    | '|' => completes fuel depth false cs
    | '[' =>
      match afterClass? cs.length 1 (classMembers cs) with
      | some rest => completes fuel depth true rest
      | none => false
    | '*' | '+' | '?' => piece && completes fuel depth true cs
    | '\x7b' => false
    | '\\' =>
      match afterEscape? cs with
      | some rest => completes fuel depth true rest
      | none => false
    | _ => completes fuel depth true cs

/-- Whether a text is an expression. -/
def isComplete (text : List Char) : Bool :=
  completes (text.length + 1) 0 false text

end BlockCursor.Log.Pattern
