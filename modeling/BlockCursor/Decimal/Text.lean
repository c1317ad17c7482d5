import BlockCursor.Decimal.Shortest

/-!
# Doubles as text

How a double is written: its shortest digits, with a point among them or zeros around them, and in
some places with an exponent.  What the places differ in is a `Style`.

* `plain` — coordinates and steps in messages: never an exponent, and whole numbers bare.
* `literal` — settings in the log: always a point or an exponent, and an exponent from `1e16` on and
  below `1e-4`.
* `pointed`, `compact` — numbers found in a document where something else was expected.
-/

namespace BlockCursor.Decimal

/-- What is left open in writing a double. -/
structure Style where
  /-- The powers of ten of the first digit that are written without an exponent. -/
  positional : Int → Bool
  /-- Whether a whole number without an exponent ends in `.0`. -/
  keepPoint : Bool
  /-- Whether an exponent that is not negative has a plus sign. -/
  plusSign : Bool := false

/-- A row of zeros. -/
def zeros (n : Nat) : String :=
  String.ofList (List.replicate n '0')

/-- The digits with the point that `power` asks for, and `.0` after a whole number if wanted. -/
def writePositional (keepPoint : Bool) (x : Scientific) : String :=
  let digits := toString x.digits
  if 0 ≤ x.power then digits ++ zeros x.power.toNat ++ (if keepPoint then ".0" else "")
  else
    let places := (-x.power).toNat
    let cs := digits.toList
    if places < cs.length then
      let whole := cs.length - places
      String.ofList (cs.take whole) ++ "." ++ String.ofList (cs.drop whole)
    else "0." ++ zeros (places - cs.length) ++ digits

/-- The first digit, a point before the others if there are any, and the exponent, with a plus sign
if that is wanted. -/
def writeExponential (plusSign : Bool) (x : Scientific) : String :=
  let digits := toString x.digits
  let rest := digits.toList.drop 1
  let exponent := x.power + rest.length
  String.ofList (digits.toList.take 1) ++
    (if rest.isEmpty then "" else "." ++ String.ofList rest) ++
    (if plusSign && 0 ≤ exponent then "e+" else "e") ++ toString exponent

/-- The same number without zeros at the end of its digits. -/
def Scientific.stripZeros : (tries : Nat) → Scientific → Scientific
  | 0, x => x
  | tries + 1, x =>
    if x.digits ≠ 0 ∧ x.digits % 10 = 0 then
      stripZeros tries ⟨x.digits / 10, x.power + 1⟩
    else x

/-- Writes a double. -/
def write (style : Style) (x : Float) : String :=
  if x.isNaN then "NaN"
  else
    let sign := if (Binary64.ofFloat x).negative then "-" else ""
    if x.isInf then sign ++ "inf"
    else
      let parts := Binary64.ofFloat x
      if parts.significand = 0 then sign ++ writePositional style.keepPoint ⟨0, 0⟩
      else
        let s := (shortest parts.significand parts.exponent).stripZeros 20
        let first := s.power + (toString s.digits).length - 1
        sign ++
          if style.positional first then writePositional style.keepPoint s
          else writeExponential style.plusSign s

/-- Without an exponent and without a needless point: `60`, `0.0000001`, `-0`. -/
def plain (x : Float) : String :=
  write { positional := fun _ => true, keepPoint := false } x

/-- With a point or an exponent always: `10.0`, `0.25`, `1e16`, `1e-7`. -/
def literal (x : Float) : String :=
  write { positional := fun first => -4 ≤ first && first < 16, keepPoint := true } x

/-- Without an exponent, and with a point always: `10.0`, `0.0000001`. -/
def pointed (x : Float) : String :=
  write { positional := fun _ => true, keepPoint := true } x

/-- With a point or an exponent always, and an exponent from `1e+16` on and below `1e-5`. -/
def compact (x : Float) : String :=
  write
    { positional := fun first => -5 ≤ first && first < 16, keepPoint := true, plusSign := true } x

end BlockCursor.Decimal
