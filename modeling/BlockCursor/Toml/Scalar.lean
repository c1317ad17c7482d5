import BlockCursor.Data.Tree
import BlockCursor.Decimal.Reading
import BlockCursor.Toml.Calendar
import BlockCursor.Toml.Quoted

/-!
# Unquoted values of TOML

Truth values, whole numbers, other numbers, and dates and times are written without quotes.  Such a
value is the longest row of characters that can stand in one; a blank ends it unless it stands
between a date and a time.

Single underscores may separate digits.  A whole number lies in the range of 64-bit integers and has
no leading zero; behind `0x`, `0o` or `0b` it is written to another base and without a sign.

* `scalar` — an unquoted value at the start of a text.
-/

namespace BlockCursor.Toml

/-- Digits without the underscores that separate them. -/
def digits? (isDigit : Char → Bool) : List Char → Option (List Char)
  | [] => none
  | [d] => if isDigit d then some [d] else none
  | d :: '_' :: rest => if isDigit d then (digits? isDigit rest).map (d :: ·) else none
  | d :: rest => if isDigit d then (digits? isDigit rest).map (d :: ·) else none

/-- The digits of a whole number, which do not begin with a needless zero. -/
def wholeDigits? : List Char → Option (List Char)
  | '0' :: _ :: _ => none
  | cs => digits? Char.isDigit cs

/-- The least number above the range of whole numbers. -/
def integerBound : Int := 9223372036854775808

/-- A whole number to the base ten. -/
def decimalInteger? (cs : List Char) : Option Int := do
  let (negative, cs) := Decimal.splitSign cs
  let n : Int := Decimal.natOfDigits (← wholeDigits? cs)
  let n := if negative then -n else n
  if -integerBound ≤ n ∧ n < integerBound then some n else none

/-- A whole number to another base. -/
def integerToBase? (base : Nat) (cs : List Char) : Option Int := do
  let inBase (c : Char) := ((Quote.hexDigit? c).map (decide <| · < base)).getD false
  let digits ← digits? inBase cs
  let n : Int := digits.foldl (fun n c => base * n + (Quote.hexDigit? c).getD 0) (0 : Nat)
  if n < integerBound then some n else none

/-- A whole number. -/
def integer? : List Char → Option Int
  | '0' :: 'x' :: cs => integerToBase? 16 cs
  | '0' :: 'o' :: cs => integerToBase? 8 cs
  | '0' :: 'b' :: cs => integerToBase? 2 cs
  | cs => decimalInteger? cs

/-- The exponent of a number; no text is the exponent zero. -/
def exponent? : List Char → Option Int
  | [] => some 0
  | e :: cs =>
    if e == 'e' || e == 'E' then do
      let (negative, cs) := Decimal.splitSign cs
      let n : Int := Decimal.natOfDigits (← digits? Char.isDigit cs)
      return if negative then -n else n
    else none

/-- A number with a point or an exponent, or one of the words for what is not finite.  A number that
is too large is refused unless it is negative. -/
def float? (cs : List Char) : Option Float := do
  let (negative, cs) := Decimal.splitSign cs
  let inRow (c : Char) := c.isDigit || c == '_'
  let (written, rest) := cs.span inRow
  if cs == "inf".toList || cs == "nan".toList then Decimal.readWord negative cs
  else
    let whole ← wholeDigits? written
    let (fraction, rest) ← match rest with
      | '.' :: more => (digits? Char.isDigit (more.takeWhile inRow)).map (·, more.dropWhile inRow)
      | [] => none
      | _ => some ([], rest)
    let power := (← exponent? rest) - fraction.length
    let x := Decimal.ofScientific negative (Decimal.natOfDigits (whole ++ fraction)) power
    if x.isInf && !negative then none else some x

/-- The value that a whole row of characters writes. -/
def scalarOf? (cs : List Char) : Option Data :=
  if cs == "true".toList then some (.bool true)
  else if cs == "false".toList then some (.bool false)
  else if isMoment cs then some (.datetime (String.ofList cs))
  else ((integer? cs).map Data.integer).or ((float? cs).map Data.float)

/-- A character that can stand in an unquoted value. -/
def isScalarChar (c : Char) : Bool :=
  c.isAlphanum || "+-._:".contains c

/-- The characters of the unquoted value at the start of a text, and what follows it. -/
def scalarChars (cs : List Char) : List Char × List Char :=
  let (word, rest) := cs.span isScalarChar
  match rest with
  | ' ' :: d :: _ =>
    if isDate word && d.isDigit then
      let (time, rest) := (rest.drop 1).span isScalarChar
      (word ++ ' ' :: time, rest)
    else (word, rest)
  | _ => (word, rest)

/-- An unquoted value at the start of a text. -/
def scalar (cs : List Char) : Option (Data × List Char) :=
  let (word, rest) := scalarChars cs
  (scalarOf? word).map (·, rest)

end BlockCursor.Toml
