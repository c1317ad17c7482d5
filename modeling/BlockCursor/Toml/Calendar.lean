/-!
# Dates and times of TOML

A date is written `1979-05-27` and a time of day `07:32:00`, with an optional fraction of a second.
Both may stand together, with `T` or a blank between them, and then an offset may follow: `Z`, or
hours and minutes behind a sign.

* `isDate` — whether a text is a date.
* `isMoment` — whether a text is a date, a time, or both.
-/

namespace BlockCursor.Toml

/-- A number of `count` digits within bounds at the start of a text, and what follows. -/
def numeral? (count low high : Nat) (cs : List Char) : Option (Nat × List Char) :=
  let digits := cs.take count
  let value := digits.foldl (fun n c => 10 * n + (c.toNat - '0'.toNat)) 0
  if digits.length = count && digits.all Char.isDigit && low ≤ value && value ≤ high then
    some (value, cs.drop count)
  else none

/-- What follows a given character. -/
def after? (c : Char) : List Char → Option (List Char)
  | d :: cs => if c == d then some cs else none
  | [] => none

/-- The number of days of a month. -/
def daysOfMonth (year month : Nat) : Nat :=
  if month = 2 then
    if year % 4 = 0 ∧ (year % 100 ≠ 0 ∨ year % 400 = 0) then 29 else 28
  else if month = 4 ∨ month = 6 ∨ month = 9 ∨ month = 11 then 30
  else 31

/-- What follows a date. -/
def afterDate? (cs : List Char) : Option (List Char) := do
  let (year, cs) ← numeral? 4 0 9999 cs
  let (month, cs) ← numeral? 2 1 12 (← after? '-' cs)
  let (_, cs) ← numeral? 2 1 (daysOfMonth year month) (← after? '-' cs)
  return cs

/-- What follows the fraction of a second, if there is one. -/
def afterFraction (cs : List Char) : List Char :=
  match cs with
  | '.' :: d :: more => if d.isDigit then more.dropWhile Char.isDigit else cs
  | _ => cs

/-- What follows a time of day. -/
def afterTime? (cs : List Char) : Option (List Char) := do
  let (_, cs) ← numeral? 2 0 23 cs
  let (_, cs) ← numeral? 2 0 59 (← after? ':' cs)
  let (_, cs) ← numeral? 2 0 60 (← after? ':' cs)
  return afterFraction cs

/-- Whether a text is an offset or empty. -/
def isOffset : List Char → Bool
  | [] => true
  | ['Z'] | ['z'] => true
  | sign :: cs =>
    (sign == '+' || sign == '-') && (do
      let (_, cs) ← numeral? 2 0 23 cs
      let (_, cs) ← numeral? 2 0 59 (← after? ':' cs)
      return cs) == some []

/-- Whether a text is a date. -/
def isDate (cs : List Char) : Bool :=
  afterDate? cs == some []

/-- Whether a text is a date, a time, or both. -/
def isMoment (cs : List Char) : Bool :=
  match afterDate? cs with
  | none => afterTime? cs == some []
  | some [] => true
  | some (sep :: rest) =>
    (sep == 'T' || sep == 't' || sep == ' ') && ((afterTime? rest).map isOffset).getD false

end BlockCursor.Toml
