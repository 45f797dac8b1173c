/-
# How the formula of a cell fares

* A formula that was evaluated has a value or a failure.  A failure is what is left of a fault
  when its wording is dropped; it decides the status of the cell and the error code shown in it.
* Two results with the same status and the same value are the same result.
-/
import Spreadsheet.Formula.Operand

namespace Spreadsheet

open Formula

/-! ## 1. Statuses -/

/-- **The status of a cell.** -/
inductive Status where
  | normal
  | syntaxError
  | circularReference
  | invalidValue
  | nameNotFound
  | mismatchedParameter
  | unspecified
deriving DecidableEq, Repr

instance : Inhabited Status := ⟨.normal⟩

/-- A status in words. -/
def Status.text : Status → String
  | .normal => "normal"
  | .syntaxError => "syntax error"
  | .circularReference => "circular reference"
  | .invalidValue => "invalid value"
  | .nameNotFound => "name not found"
  | .mismatchedParameter => "mismatched parameter"
  | .unspecified => "unspecified error"

/-- Whether a cell of this status is never evaluated. -/
def Status.blocksEvaluation : Status → Bool
  | .syntaxError | .circularReference => true
  | _ => false

/-! ## 2. Failures -/

/-- **Why the formula of a cell has no value.** -/
inductive Failure where
  | typeMismatch
  | nameNotFound
  | wrongCount
  | unknownFunction
  | invalidReference
  | unspecified
deriving DecidableEq, Repr

namespace Failure

/-- The failure that a fault is. -/
def ofFault : Fault → Failure
  | .typeMismatch _ => .typeMismatch
  | .nameNotFound _ => .nameNotFound
  | .wrongCount _ _ _ => .wrongCount
  | .unknownFunction _ => .unknownFunction
  | .invalidReference _ => .invalidReference
  | .parse _ | .evaluation _ => .unspecified

/-- The status of a cell with a failure. -/
def status : Failure → Status
  | .typeMismatch => .invalidValue
  | .nameNotFound => .nameNotFound
  | .wrongCount | .unknownFunction => .mismatchedParameter
  | .invalidReference | .unspecified => .unspecified

/-- The error code that a cell with a failure shows. -/
def code : Failure → ErrorCode
  | .nameNotFound | .unknownFunction => .name
  | .invalidReference => .ref
  | .typeMismatch | .wrongCount | .unspecified => .value

end Failure

/-! ## 3. Results -/

/-- **What became of the formula of a cell.** -/
inductive Result where
  | value (v : Value)
  | failed (why : Failure)
deriving DecidableEq, Repr

namespace Result

/-- The status of a cell with the result. -/
def status : Result → Status
  | .value _ => .normal
  | .failed why => why.status

/-- No result keeps a cell from being evaluated. -/
theorem blocksEvaluation_status (result : Result) : result.status.blocksEvaluation = false := by
  cases result with
  | value v => rfl
  | failed why => cases why <;> rfl

/-- The value of a cell with the result. -/
def shown : Result → Value
  | .value v => v
  | .failed why => .error why.code

/-- **The result of an evaluation.**  A formula that reads only empty cells has the value zero. -/
def ofOutcome : Except Fault Operand → Result
  | .ok .empty => .value (.number 0.0)
  | .ok v => .value v.toValue
  | .error fault => .failed (.ofFault fault)

/-- Status and value tell results apart. -/
theorem ext_shown {r s : Result} (hstatus : r.status = s.status) (hshown : r.shown = s.shown) :
    r = s := by
  cases r <;> cases s
  case value.value => exact congrArg _ hshown
  case value.failed v w => cases w <;> cases hstatus
  case failed.value w v => cases w <;> cases hstatus
  case failed.failed w w' =>
    cases w <;> cases w' <;>
      simp_all [status, shown, Failure.status, Failure.code]

end Result

end Spreadsheet
