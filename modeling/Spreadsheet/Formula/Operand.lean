/-
# What operators and functions work on

* An operand is a single value or the values of a range, row by row.
* Operands are read as numbers, truth values or texts as far as they can be; text is read as a
  number if all of it, up to blanks around it, is one.
* Single values are ordered by kind - numbers, texts, truth values, the rest - and within a kind
  by value, texts by their small letters.  An empty cell is the number zero among numbers and the
  empty text among texts.
-/
import Spreadsheet.Formula.Fault

namespace Spreadsheet.Formula

/-! ## 1. The type -/

/-- **A value under evaluation.** -/
inductive Operand where
  | empty
  | bool (b : Bool)
  | number (x : Float)
  | text (s : String)
  | error (code : ErrorCode)
  | array (rows : List (List Operand))

instance : Inhabited Operand := ⟨.empty⟩

namespace Operand

/-- The content of a cell as an operand. -/
def ofValue : Value → Operand
  | .empty => .empty
  | .bool b => .bool b
  | .number x => .number x
  | .text s => .text s
  | .error code => .error code

/-- **An operand as the content of a cell.**  A cell holds neither ranges nor numbers that are not
finite. -/
def toValue : Operand → Value
  | .empty => .empty
  | .bool b => .bool b
  | .number x => if x.isFinite then .number x else .error .num
  | .text s => .text s
  | .error code => .error code
  | .array _ => .error .value

/-! ## 2. Readings -/

/-- The operand as a number. -/
def number? : Operand → Option Float
  | .number x => some x
  | .bool b => some (if b then 1.0 else 0.0)
  | .text s => Decimal.read? (Text.trimChars s.toList)
  | .empty => some 0.0
  | .error _ | .array _ => none

/-- The operand as a truth value. -/
def bool? : Operand → Option Bool
  | .bool b => some b
  | .number x => some (x != 0.0)
  | .empty => some false
  | .text s =>
    if Text.sameLetters s "TRUE" then some true
    else if Text.sameLetters s "FALSE" then some false
    else none
  | .error _ | .array _ => none

/-- The operand as a text. -/
def shown : Operand → String
  | .number x => Decimal.numberText x
  | .text s => s
  | .bool b => Value.boolText b
  | .error code => code.text
  | .empty => ""
  | .array _ => ErrorCode.value.text

/-- The error code, if the operand is one. -/
def error? : Operand → Option ErrorCode
  | .error code => some code
  | _ => none

/-- The operand as a number, or the fault of one that is none. -/
def toNumber (v : Operand) : Except Fault Float :=
  match v.number? with
  | some x => .ok x
  | none => .error (.notANumber v.shown)

/-- The operand as a truth value, or the fault of one that is none. -/
def toBool (v : Operand) : Except Fault Bool :=
  match v.bool? with
  | some b => .ok b
  | none => .error (.notABool v.shown)

/-- The operand itself, unless it is a range. -/
def single (v : Operand) : Except Fault Operand :=
  match v with
  | .array _ => .error .rangeAsOperand
  | v => .ok v

/-- The values of the operand in order. -/
def flatten : Operand → List Operand
  | .array rows => rows.flatten
  | v => [v]

/-! ## 3. Order -/

/-- Numbers in order; a value that is no number is beside every number. -/
def compareNumbers (x y : Float) : Ordering := if x < y then .lt else if y < x then .gt else .eq

/-- The place of an operand's kind in the order of kinds. -/
def kindRank : Operand → Nat
  | .number _ | .empty => 0
  | .text _ => 1
  | .bool _ => 2
  | .error _ | .array _ => 3

/-- **The order of operands.** -/
def order (v w : Operand) : Ordering :=
  match v, w with
  | .empty, .text s => compare "" (Text.small s)
  | .text s, .empty => compare (Text.small s) ""
  | .text s, .text t => compare (Text.small s) (Text.small t)
  | .bool b, .bool c => compare b.toNat c.toNat
  | v, w =>
    if v.kindRank = 0 ∧ w.kindRank = 0 then
      compareNumbers (v.number?.getD 0.0) (w.number?.getD 0.0)
    else
      compare v.kindRank w.kindRank

end Operand

end Spreadsheet.Formula
