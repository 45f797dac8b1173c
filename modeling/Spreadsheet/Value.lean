/-
# What a cell holds

* A cell is empty or holds a truth value, a number, a text or one of seven error codes.
* Each value has one text that the grid shows; a number is shown with the fewest digits that read
  back.
-/
import Spreadsheet.Decimal.Layout
import Spreadsheet.Text.Case

namespace Spreadsheet

/-! ## 1. Error codes -/

/-- **The error codes of a sheet.** -/
inductive ErrorCode where
  | null
  | div0
  | value
  | ref
  | name
  | num
  | na
deriving DecidableEq, Repr

/-- An error code as the grid and formulas write it. -/
def ErrorCode.text : ErrorCode → String
  | .null => "#NULL!"
  | .div0 => "#DIV/0!"
  | .value => "#VALUE!"
  | .ref => "#REF!"
  | .name => "#NAME?"
  | .num => "#NUM!"
  | .na => "#N/A"

/-- All error codes. -/
def ErrorCode.all : List ErrorCode := [.null, .div0, .value, .ref, .name, .num, .na]

/-- The error code that a text writes, whatever the case of its letters. -/
def ErrorCode.read? (text : String) : Option ErrorCode :=
  ErrorCode.all.find? fun code => code.text == Text.asciiCapital text

/-! ## 2. Values -/

/-- **The content of a cell as data.** -/
inductive Value where
  | empty
  | bool (b : Bool)
  | number (x : Float)
  | text (s : String)
  | error (code : ErrorCode)
deriving DecidableEq, Repr

instance : Inhabited Value := ⟨.empty⟩

namespace Value

/-- A truth value as the grid writes it. -/
def boolText (b : Bool) : String := if b then "TRUE" else "FALSE"

/-- **The text that the grid shows.** -/
def display : Value → String
  | .empty => ""
  | .bool b => boolText b
  | .number x => Decimal.numberText x
  | .text s => s
  | .error code => code.text

/-- Whether there is nothing. -/
def isEmpty : Value → Bool
  | .empty => true
  | _ => false

/-- The number, if it is one. -/
def number? : Value → Option Float
  | .number x => some x
  | _ => none

/-- The text, if it is one. -/
def text? : Value → Option String
  | .text s => some s
  | _ => none

/-- The truth value, if it is one. -/
def bool? : Value → Option Bool
  | .bool b => some b
  | _ => none

end Value

end Spreadsheet
