/-
# Comparing a cell with the operands of a rule

* A rule compares numbers up to a tolerance: values nearer to each other than the tolerance count
  as equal, so *greater* means greater and not equal.
* *Between* takes its bounds in either order.  A value that is no number is no bound: the other
  bound then stands for both.
* Nothing here depends on the kind of number, only on its difference and its order.
-/
import Spreadsheet.Decimal.Bounds

namespace Spreadsheet.Conditional

/-! ## 1. The comparisons -/

/-- **How a rule compares a cell with its operands.** -/
inductive Comparison where
  | between
  | notBetween
  | equal
  | notEqual
  | greater
  | less
  | greaterOrEqual
  | lessOrEqual
deriving DecidableEq, Repr

/-- Whether the comparison takes two operands. -/
def Comparison.takesTwo : Comparison → Bool
  | .between | .notBetween => true
  | _ => false

/-! ## 2. Their meaning -/

section

variable {α : Type} [Sub α] [LT α] [DecidableLT α] [LE α] [DecidableLE α]

/-- Whether two numbers are nearer to each other than the tolerance. -/
def near (tolerance a b : α) : Bool := a - b < tolerance && b - a < tolerance

/-- Whether a number lies between two bounds, the tolerance added at both ends. -/
def liesBetween (tolerance value a b : α) : Bool :=
  let low := Decimal.smaller a b
  let high := Decimal.larger a b
  (low < value || near tolerance value low) && (value < high || near tolerance value high)

/-- **Whether a comparison holds.**  One of two operands that is missing fails it. -/
def Comparison.holds (c : Comparison) (tolerance value first : α) (second : Option α) : Bool :=
  match c with
  | .equal => near tolerance value first
  | .notEqual => !near tolerance value first
  | .greater => first < value && !near tolerance value first
  | .greaterOrEqual => first < value || near tolerance value first
  | .less => value < first && !near tolerance value first
  | .lessOrEqual => value < first || near tolerance value first
  | .between => second.any fun other => liesBetween tolerance value first other
  | .notBetween => second.any fun other => !liesBetween tolerance value first other

end

end Spreadsheet.Conditional
