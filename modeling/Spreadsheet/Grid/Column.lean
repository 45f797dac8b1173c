/-
# Column letters

* Columns are numbered in base twenty-six without a zero: `A` to `Z`, then `AA`, `AB`, …, so every
  number from one on has exactly one spelling.
* Reading accepts letters of either case and stops at the first value beyond the grid, however
  many letters follow.
-/
import Spreadsheet.Grid.Spot

namespace Spreadsheet.Grid

/-! ## 1. Writing -/

/-- The letter of a digit from zero to twenty-five. -/
def columnLetter (digit : Nat) : Char := Char.ofNat ('A'.toNat + digit)

/-- The letters of a column number, counted from one. -/
def numberLetters (n : Nat) : List Char :=
  if n = 0 then [] else numberLetters ((n - 1) / 26) ++ [columnLetter ((n - 1) % 26)]
termination_by n
decreasing_by omega

/-- **The letters of a column,** counted from zero. -/
def columnLetters (col : Nat) : List Char := numberLetters (col + 1)

/-! ## 2. Reading -/

/-- Why letters name no column. -/
inductive ColumnFault where
  | noLetters
  | notALetter (c : Char)
  | beyondGrid
deriving DecidableEq, Repr

/-- The digit from one to twenty-six that a letter stands for. -/
def letterDigit (c : Char) : Nat := c.toUpper.toNat - 'A'.toNat + 1

/-- The number that letters spell, read onto the number of those before them. -/
def numberOnto (number : Nat) : List Char → Except ColumnFault Nat
  | [] => .ok number
  | c :: rest =>
    if c.isAlpha then
      let number := number * 26 + letterDigit c
      if maxColumns < number then .error .beyondGrid else numberOnto number rest
    else
      .error (.notALetter c)

/-- **The column that letters name.** -/
def readColumn : List Char → Except ColumnFault Nat
  | [] => .error .noLetters
  | cs => (numberOnto 0 cs).map (· - 1)

end Spreadsheet.Grid
