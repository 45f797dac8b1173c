/-
# Why a formula has no value

An error code is a value like any other and flows through a formula.  A *fault* is no value: it
ends the evaluation, and its kind decides the status of the cell.
-/
import Spreadsheet.Formula.Parser

namespace Spreadsheet.Formula

/-- **Why a formula has no value.** -/
inductive Fault where
  | parse (detail : String)
  | typeMismatch (detail : String)
  | nameNotFound (name : String)
  | wrongCount (function expected : String) (actual : Nat)
  | unknownFunction (name : String)
  | invalidReference (detail : String)
  | evaluation (detail : String)
deriving DecidableEq, Repr

namespace Fault

/-- What is said about a formula without a value. -/
def message : Fault → String
  | .parse detail => "Parse error: " ++ detail
  | .typeMismatch detail => "Type mismatch: " ++ detail
  | .nameNotFound name => "Name not found: " ++ name
  | .wrongCount function expected actual =>
    "Wrong number of arguments for " ++ function ++ ": expected " ++ expected ++ ", got " ++
      toString actual
  | .unknownFunction name => "Unknown function: " ++ name
  | .invalidReference detail => "Invalid reference: " ++ detail
  | .evaluation detail => "Evaluation error: " ++ detail

/-- The text was no formula. -/
def ofParse (fault : ParseFault) : Fault := .parse fault.message

/-- A value stands where a number is needed. -/
def notANumber (shown : String) : Fault := .typeMismatch s!"cannot convert {shown} to a number"

/-- A value stands where a truth value is needed. -/
def notABool (shown : String) : Fault := .typeMismatch s!"cannot convert {shown} to a boolean"

/-- A range stands where an operator needs one value. -/
def rangeAsOperand : Fault := .typeMismatch "range used where a single value is expected"

/-- A range stands where a text is needed. -/
def rangeAsText : Fault := .typeMismatch "range used where text is expected"

/-- A range stands among texts to be joined. -/
def rangeInConcatenation : Fault := .typeMismatch "CONCATENATE does not accept ranges"

/-- A formula stands where a reference is needed. -/
def notAReference (e : Expr) : Fault := .typeMismatch s!"{e.print} is not a reference"

end Fault

/-- **The text as a formula,** or the fault of a text that is none. -/
def read (text : String) : Except Fault Expr := (parse text).mapError .ofParse

end Spreadsheet.Formula
