import BlockCursor.Decimal.Binary64

/-!
# Reading doubles

A number is written with an optional sign, digits with an optional point among them or at either
end, and an optional exponent; or it is one of the words `inf`, `infinity` and `nan`, in any case.
The double read is the one nearest to the number written, however long the number is.

* `read` — the double that a text writes, or why there is none.
-/

namespace BlockCursor.Decimal

/-- Why a text is not a number. -/
inductive ReadError
  | empty
  | invalid
deriving DecidableEq, Repr

/-- The message of a failed reading. -/
def ReadError.message : ReadError → String
  | .empty => "cannot parse float from empty string"
  | .invalid => "invalid float literal"

/-- The number that a row of digits writes. -/
def natOfDigits (cs : List Char) : Nat :=
  cs.foldl (fun n c => 10 * n + (c.toNat - '0'.toNat)) 0

/-- A sign and what follows it. -/
def splitSign : List Char → Bool × List Char
  | '-' :: cs => (true, cs)
  | '+' :: cs => (false, cs)
  | cs => (false, cs)

/-- The exponent that a text begins with, `e` and digits behind an optional sign; no text is the
exponent zero. -/
def readExponent : List Char → Option Int
  | [] => some 0
  | c :: cs =>
    if c == 'e' || c == 'E' then
      let (negative, digits) := splitSign cs
      if digits.isEmpty || !digits.all Char.isDigit then none
      else
        let n : Int := natOfDigits digits
        some (if negative then -n else n)
    else none

/-- The double nearest to `digits · 10 ^ power`.  Numbers far outside the range of doubles are
decided by their size alone. -/
def ofScientific (negative : Bool) (digits : Nat) (power : Int) : Float :=
  let size := power + (Nat.log2 digits : Int) * 30103 / 100000
  if digits = 0 || size < -400 then Binary64.nearest negative 0 1
  else if 400 < size then Binary64.nearest negative (Nat.pow 2 1100) 1
  else if 0 ≤ power then Binary64.nearest negative (digits * Nat.pow 10 power.toNat) 1
  else Binary64.nearest negative digits (Nat.pow 10 (-power).toNat)

/-- Reads digits, point and exponent. -/
def readNumber (negative : Bool) (cs : List Char) : Option Float :=
  let whole := cs.takeWhile Char.isDigit
  let rest := cs.dropWhile Char.isDigit
  let fraction := match rest with
    | '.' :: more => more.takeWhile Char.isDigit
    | _ => []
  let rest := match rest with
    | '.' :: more => more.dropWhile Char.isDigit
    | _ => rest
  if whole.isEmpty && fraction.isEmpty then none
  else
    (readExponent rest).map fun exponent =>
      ofScientific negative (natOfDigits (whole ++ fraction)) (exponent - fraction.length)

/-- The words for what is not a finite number. -/
def readWord (negative : Bool) (cs : List Char) : Option Float :=
  let word := String.ofList (cs.map Char.toLower)
  let infinity := Binary64.nearest negative (Nat.pow 2 1100) 1
  if word == "inf" || word == "infinity" then some infinity
  else if word == "nan" then some (0.0 / 0.0)
  else none

/-- The double that a text writes. -/
def read (text : String) : Except ReadError Float :=
  match text.toList with
  | [] => .error .empty
  | cs =>
    let (negative, rest) := splitSign cs
    match (readWord negative rest).or (readNumber negative rest) with
    | some x => .ok x
    | none => .error .invalid

end BlockCursor.Decimal
