import BlockCursor.Decimal.Binary64

/-!
# The shortest digits of a double

Among the decimal numbers that read back as a given double, `shortest` finds one with the fewest
digits, and among those the nearest to the double; of two that are equally near it takes the larger.

The decimal numbers that read back fill an interval around the double, which contains its ends just
when the significand is even.  The search goes through the grids of multiples of `10 ^ k` from
coarse to fine and looks, on each, at the two neighbours of the double: if any point of a grid lies
in the interval, one of these does.
-/

namespace BlockCursor.Decimal

/-- The number `digits · 10 ^ power`. -/
structure Scientific where
  digits : Nat
  power : Int
deriving DecidableEq, Repr

/-- The numbers that round to a double: the double itself and the ends of the interval, all
numerators over one denominator. -/
structure Interval where
  low : Nat
  value : Nat
  high : Nat
  denominator : Nat
  /-- Whether the ends belong to the interval. -/
  closed : Bool
deriving Repr

/-- The interval of the positive double `m · 2 ^ e`.  Below a power of two the doubles lie twice as
dense, so the lower end is then twice as near. -/
def Interval.of (m : Nat) (e : Int) : Interval :=
  let below := if m = Nat.pow 2 52 ∧ e ≠ Binary64.leastExponent then 1 else 2
  let unit := Binary64.scale 1 1 (e - 2)
  { low := (4 * m - below) * unit.1
    value := 4 * m * unit.1
    high := (4 * m + 2) * unit.1
    denominator := unit.2
    closed := m % 2 = 0 }

/-- Whether `c / d` times the denominator lies in the interval, where `c` and `d` are scaled. -/
def Interval.contains (i : Interval) (c d : Nat) : Bool :=
  if i.closed then i.low * d ≤ c && c ≤ i.high * d
  else i.low * d < c && c < i.high * d

/-- The point of the grid of multiples of `10 ^ k` that reads back as the double, if there is one,
as a number of grid steps. -/
def onGrid? (i : Interval) (k : Int) : Option Nat :=
  -- one step is `step / d` when measured in the interval's numerators
  let (step, d) := if 0 ≤ k then (Nat.pow 10 k.toNat * i.denominator, 1)
    else (i.denominator, Nat.pow 10 (-k).toNat)
  let below := i.value * d / step
  let above := below + 1
  let hitBelow := i.contains (below * step) d
  let hitAbove := i.contains (above * step) d
  let gap := i.value * d - below * step
  if hitBelow && (!hitAbove || 2 * gap < step) then some below
  else if hitAbove then some above
  else none

/-- Searches the grids from `10 ^ k` downward. -/
def searchGrids (i : Interval) (k : Int) : (tries : Nat) → Scientific
  | 0 => ⟨i.value, 0⟩
  | tries + 1 =>
    match onGrid? i k with
    | some n => ⟨n, k⟩
    | none => searchGrids i (k - 1) tries

/-- The shortest digits of the positive double `m · 2 ^ e`.  The first grid is too coarse for the
double, and no double needs more than seventeen digits. -/
def shortest (m : Nat) (e : Int) : Scientific :=
  let start := ((m.log2 : Int) + 1 + e) * 30103 / 100000 + 2
  searchGrids (Interval.of m e) start 24

end BlockCursor.Decimal
