/-
# The fewest digits that read back

* A double stands for every real that rounds to it: an interval around the magnitude, reaching
  half way to the neighbours, its ends included exactly if the mantissa is even.
* The decimal grids get coarser with their exponent.  The coarsest grid that has a point in the
  interval gives the fewest digits, and of two points there the nearer one is taken, of two
  equally near ones the upper.
* All of it is compared in whole numbers: the interval and the grid are brought to a common
  unit, so no rounding takes place on the way.
-/
import Spreadsheet.Decimal.Binary

namespace Spreadsheet.Decimal

/-! ## 1. The interval -/

/-- **The reals that round to a magnitude,** in quarters of its last place: the value is
`value * 2 ^ unit` and the interval runs from `low` to `high`. -/
structure Interval where
  low : Nat
  value : Nat
  high : Nat
  unit : Int
  closed : Bool

/-- The interval of a magnitude.  Just above a power of two the neighbour below is nearer. -/
def Interval.of (m : Magnitude) : Interval where
  low := if m.mantissa = fullMantissa ∧ -1074 < m.exponent then 4 * m.mantissa - 1 else 4 * m.mantissa - 2
  value := 4 * m.mantissa
  high := 4 * m.mantissa + 2
  unit := m.exponent - 2
  closed := m.mantissa % 2 == 0

/-! ## 2. Grids -/

/-- `base ^ e` for a non-negative exponent, and one otherwise. -/
def upPower (base : Nat) (e : Int) : Nat := Nat.pow base e.toNat

/-- Factors that bring quarters and points of the grid `10 ^ e` to a common unit. -/
def commonFactors (unit e : Int) : Nat × Nat :=
  (upPower 2 unit * upPower 10 (-e), upPower 10 e * upPower 2 (-unit))

/-- Whether the point `n * 10 ^ e` rounds to the magnitude. -/
def Interval.holds (i : Interval) (e : Int) (n : Nat) : Bool :=
  let (quarter, step) := commonFactors i.unit e
  if i.closed then
    i.low * quarter ≤ n * step && n * step ≤ i.high * quarter
  else
    i.low * quarter < n * step && n * step < i.high * quarter

/-- **The best point of a grid:** of the two points around the value, the nearer one that lies in
the interval. -/
def Interval.nearest? (i : Interval) (e : Int) : Option Nat :=
  let (quarter, step) := commonFactors i.unit e
  let below := i.value * quarter / step
  let above := below + 1
  match i.holds e below, i.holds e above with
  | false, false => none
  | true, false => some below
  | false, true => some above
  | true, true =>
    if above * step - i.value * quarter ≤ i.value * quarter - below * step then some above
    else some below

/-- An exponent above that of every point in the interval. -/
def Interval.topExponent (i : Interval) : Int :=
  let bits := (Nat.log2 i.high : Int) + 1 + i.unit
  if 0 ≤ bits then bits / 3 + 1 else bits * 3 / 10 + 1

/-! ## 3. The search -/

/-- **Decimal digits:** the number `digits * 10 ^ exponent`. -/
structure Digits where
  digits : Nat
  exponent : Int
deriving DecidableEq, Repr

/-- The first hit among `count` grids, each one step finer than the one before it. -/
def Interval.search (i : Interval) : Nat → Int → Digits
  | 0, e => ⟨i.value, e⟩
  | count + 1, e =>
    match i.nearest? e with
    | some n => ⟨n, e⟩
    | none => i.search count (e - 1)

/-- **The fewest digits of a magnitude.**  The grid of the unit itself has the value as a point, so
the search ends there at the latest. -/
def shortest (m : Magnitude) : Digits :=
  let i := Interval.of m
  i.search (i.topExponent - min i.unit 0 + 1).toNat i.topExponent

/-- A hit rounds to the magnitude. -/
theorem Interval.holds_of_nearest? {i : Interval} {e : Int} {n : Nat}
    (h : i.nearest? e = some n) : i.holds e n = true := by
  unfold nearest? at h
  simp only at h
  split at h
  · simp at h
  · rename_i h1 _; simp only [Option.some.injEq] at h; rw [← h]; exact h1
  · rename_i _ h2; simp only [Option.some.injEq] at h; rw [← h]; exact h2
  · rename_i h1 h2
    split at h
    · simp only [Option.some.injEq] at h; rw [← h]; exact h2
    · simp only [Option.some.injEq] at h; rw [← h]; exact h1

end Spreadsheet.Decimal
