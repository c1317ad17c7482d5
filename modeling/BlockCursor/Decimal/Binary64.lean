/-!
# Doubles as exact numbers

A finite double is `significand · 2 ^ exponent` up to its sign.  This file takes a double apart into
these numbers and finds the double nearest to a quotient of natural numbers, both in exact
arithmetic.

* `Binary64.ofFloat` — sign, significand and exponent of a finite double.
* `Binary64.nearest` — the double nearest to a quotient; ties go to the even significand, and what
  is too large becomes infinite.
-/

namespace BlockCursor.Decimal

/-- The exact value of a finite double, `± significand · 2 ^ exponent`. -/
structure Binary64 where
  negative : Bool
  significand : Nat
  exponent : Int
deriving DecidableEq, Repr

namespace Binary64

/-- The exponent of the smallest doubles. -/
def leastExponent : Int := -1074

/-- Takes a finite double apart.  Its 64 bits are a sign, an exponent of 11 bits and a fraction of
52 bits; unless the exponent is zero the significand has one more bit, which is not stored. -/
def ofFloat (x : Float) : Binary64 :=
  let bits := x.toBits.toNat
  let fraction : Nat := bits % Nat.pow 2 52
  let exponent : Nat := bits / Nat.pow 2 52 % Nat.pow 2 11
  let negative := bits / Nat.pow 2 63 = 1
  if exponent = 0 then ⟨negative, fraction, leastExponent⟩
  else ⟨negative, fraction + Nat.pow 2 52, (exponent : Int) + leastExponent - 1⟩

/-- The numerator and denominator of `n / d · 2 ^ e`. -/
def scale (n d : Nat) (e : Int) : Nat × Nat :=
  if 0 ≤ e then (n * Nat.pow 2 e.toNat, d) else (n, d * Nat.pow 2 (-e).toNat)

/-- The quotient rounded to the nearest natural number, ties to the even one. -/
def roundDiv (n d : Nat) : Nat :=
  let q := n / d
  let r := n % d
  if 2 * r < d then q
  else if d < 2 * r then q + 1
  else q + q % 2

/-- The greatest `e` with `2 ^ e ≤ n / d`, for positive `n` and `d`. -/
def log2Div (n d : Nat) : Int :=
  let e : Int := (n.log2 : Int) - d.log2
  let (a, b) := scale n d (-e)
  if b ≤ a then e else e - 1

/-- The bits of the double nearest to `n / d`, for a positive `d`.  The significand is carried into
the exponent field by plain addition. -/
def nearestBits (n d : Nat) : Nat :=
  if n = 0 then 0
  else
    let e := max (log2Div n d - 52) leastExponent
    let (a, b) := scale n d (-e)
    min ((e - leastExponent).toNat * Nat.pow 2 52 + roundDiv a b) (2047 * Nat.pow 2 52)

/-- The double nearest to `n / d`, with a sign. -/
def nearest (negative : Bool) (n d : Nat) : Float :=
  let x := Float.ofBits (UInt64.ofNat (nearestBits n d))
  if negative then -x else x

end Binary64

end BlockCursor.Decimal
