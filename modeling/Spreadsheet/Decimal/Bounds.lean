/-
# The smaller and the larger of two numbers

A value that is not even comparable to itself is no number; of a number and such a value, either
choice gives the number.  The definitions need no more than the order, so they serve doubles and
exact numbers alike.
-/

namespace Spreadsheet.Decimal

variable {α : Type} [LT α] [DecidableLT α] [LE α] [DecidableLE α]

/-- The smaller of two numbers. -/
def smaller (a b : α) : α := if a ≤ a then (if b < a then b else a) else b

/-- The larger of two numbers. -/
def larger (a b : α) : α := if a ≤ a then (if a < b then b else a) else b

/-- The smallest of several numbers. -/
def smallest? : List α → Option α
  | [] => none
  | x :: rest => some (rest.foldl smaller x)

/-- The largest of several numbers. -/
def largest? : List α → Option α
  | [] => none
  | x :: rest => some (rest.foldl larger x)

end Spreadsheet.Decimal
