/-
# Series

* A list of values to be continued is taken for a *linear* series if all values are numbers, for a
  *counter* if all are texts with one stem and a number behind it that grows by even steps, and for
  a *cycle* otherwise.
* A series has a value at every index; the values it was made from stand at the indices from zero
  on.
* A counter keeps the width of its first number, and stops at zero when it counts down.
-/
import Spreadsheet.Decimal.Reading
import Spreadsheet.Text.Digit
import Spreadsheet.Value

namespace Spreadsheet

/-! ## 1. The type -/

/-- **A series of values.** -/
inductive Series where
  | linear (start step : Float)
  | counter (stem : String) (start step : Int) (width : Nat)
  | cycle (values : List Value)
deriving Repr

namespace Series

/-! ## 2. Linear series -/

/-- Up to which difference steps count as even. -/
def stepTolerance : Float := 0.000000001

/-- The steps between neighbours. -/
def steps (xs : List Float) : List Float := List.zipWith (fun x y => y - x) xs (xs.drop 1)

/-- **The linear series of numbers:** by their first step if all steps are even, by the mean step
otherwise. -/
def linearOf (first : Float) (rest : List Float) : Series :=
  match steps (first :: rest) with
  | [] => .linear first 0.0
  | step :: more =>
    if (step :: more).all fun d => (d - step).abs ≤ stepTolerance then .linear first step
    else .linear first ((rest.getLastD first - first) / Float.ofNat rest.length)

/-! ## 3. Counters -/

/-- A text with a number behind it. -/
structure Numbered where
  stem : String
  number : Nat
  width : Nat
deriving DecidableEq, Repr

/-- The largest number that a counter counts to. -/
def maxNumber : Int := 0x7fffffffffffffff

/-- The least number that a counter steps by. -/
def minNumber : Int := -0x8000000000000000

/-- **A text as a stem and a number.**  The number is all the digits at the end; digits of other
scripts belong to it too, but make it no number.  The stem is on one line. -/
def Numbered.read? (text : String) : Option Numbered :=
  let reversed := text.toList.reverse
  let digits := (reversed.takeWhile Text.isDecimalDigit).reverse
  let stem := (reversed.dropWhile Text.isDecimalDigit).reverse
  let number := Decimal.digitsValue digits
  if digits.isEmpty || !digits.all Char.isDigit || stem.contains '\n' || maxNumber < (number : Int) then
    none
  else
    some ⟨String.ofList stem, number, digits.length⟩

/-- The steps between neighbours of a counter. -/
def jumps (ns : List Numbered) : List Int :=
  List.zipWith (fun a b => (b.number : Int) - a.number) ns (ns.drop 1)

/-- **The counter of texts,** if they have one stem and even steps. -/
def counterOf? (values : List Value) : Option Series := do
  let ns ← values.mapM fun v => v.text?.bind Numbered.read?
  let first ← ns.head?
  let step := (jumps ns).headD 1
  if ns.all (·.stem == first.stem) && (jumps ns).all (· == step) then
    return .counter first.stem first.number step first.width
  else
    none

/-! ## 4. Detection and values -/

/-- **The series that values begin.** -/
def detect (values : List Value) : Series :=
  match values.mapM Value.number? with
  | some (first :: rest) => linearOf first rest
  | _ => (counterOf? values).getD (.cycle values)

/-- A number kept within those that counters know. -/
def clamped (n : Int) : Int := max minNumber (min n maxNumber)

/-- A number with zeros in front, at least that wide. -/
def padded (width n : Nat) : List Char :=
  let digits := Nat.toDigits 10 n
  List.replicate (width - digits.length) '0' ++ digits

/-- **The value of a series at an index.** -/
def value (s : Series) (index : Int) : Value :=
  match s with
  | .linear start step => .number (start + step * Float.ofInt index)
  | .counter stem start step width =>
    let n := max 0 (clamped (start + clamped (step * index)))
    .text (stem ++ String.ofList (padded width n.toNat))
  | .cycle values => (values[(index % values.length).toNat]?).getD .empty

end Series

end Spreadsheet
