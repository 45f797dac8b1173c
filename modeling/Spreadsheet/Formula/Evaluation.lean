/-
# The value of a formula

* A formula is evaluated at a cell, against a *source* that knows the sheets, the values of the
  cells and the names.  Nothing else is read, so two sources that agree on what a formula reads
  give it the same value.
* An operator takes single values.  Its operands are evaluated from left to right; an error code
  among them is the result.
* A reference to a sheet that is not there has the value `#REF!`, a name that is not given has no
  value at all.
-/
import Spreadsheet.Decimal.Bounds
import Spreadsheet.Formula.Function

namespace Spreadsheet.Formula

open Grid

/-! ## 1. Sources -/

/-- **What formulas read from.** -/
structure Source where
  sheet? : String → Option SheetId
  value : Key → Value
  name? : SheetId → String → Option Range

/-- **Where a formula is evaluated:** at a cell of a source. -/
structure Context where
  source : Source
  home : Key

namespace Context

/-- The sheet that a formula names, or its own. -/
def sheet? (ctx : Context) : Option String → Option SheetId
  | none => some ctx.home.sheet
  | some name => ctx.source.sheet? name

/-- The value of a cell as an operand. -/
def cell (ctx : Context) (sheet : SheetId) (spot : Spot) : Operand :=
  .ofValue (ctx.source.value ⟨sheet, spot⟩)

/-- **The values of a range.**  A range of one cell is a single value. -/
def values (ctx : Context) (sheet : SheetId) (range : Range) : Operand :=
  if range.isSingle then ctx.cell sheet range.first
  else
    .array <| (range.rows.lines Axis.rows.words).map fun row =>
      (range.cols.lines Axis.columns.words).map fun col => ctx.cell sheet ⟨row, col⟩

/-- The value of a reference. -/
def reference (ctx : Context) (sheet : Option String) (target : Reference) : Operand :=
  match ctx.sheet? sheet with
  | none => .error .ref
  | some id =>
    match target with
    | .cell pos => ctx.cell id pos.spot
    | .area _ _ => ctx.values id target.range

/-- The range that a name stands for at the formula's sheet. -/
def name? (ctx : Context) (name : String) : Option Range := ctx.source.name? ctx.home.sheet name

end Context

/-- **The outcome of an evaluation.** -/
abbrev Outcome := Except Fault Operand

/-! ## 2. Operators -/

/-- A number that an operator computed; one that is not finite is an error code. -/
def computed (x : Float) : Operand := if x.isFinite then .number x else .error .num

/-- A computation on the numbers of two operands. -/
def onNumbers (v w : Operand) (f : Float → Float → Operand) : Outcome := do
  let x ← v.toNumber
  let y ← w.toNumber
  return f x y

/-- What an operator makes of two single values that are no error codes. -/
def combine (op : BinaryOp) (v w : Operand) : Outcome :=
  match op with
  | .add => onNumbers v w fun x y => computed (x + y)
  | .subtract => onNumbers v w fun x y => computed (x - y)
  | .multiply => onNumbers v w fun x y => computed (x * y)
  | .divide => onNumbers v w fun x y => if y == 0.0 then .error .div0 else .number (x / y)
  | .power => onNumbers v w fun x y => computed (Float.pow x y)
  | .equal => .ok (.bool (v.order w).isEq)
  | .notEqual => .ok (.bool (v.order w).isNe)
  | .less => .ok (.bool (v.order w).isLT)
  | .lessOrEqual => .ok (.bool (v.order w).isLE)
  | .greater => .ok (.bool (v.order w).isGT)
  | .greaterOrEqual => .ok (.bool (v.order w).isGE)
  | .join => .ok (.text (v.shown ++ w.shown))

/-- **What an operator makes of its operands.** -/
def applyBinary (op : BinaryOp) (left right : Outcome) : Outcome := do
  let v ← (← left).single
  let w ← (← right).single
  match v.error?, w.error? with
  | some code, _ => return .error code
  | none, some code => return .error code
  | none, none => combine op v w

/-- What a sign makes of its operand. -/
def applySign (operand : Outcome) (f : Float → Float) : Outcome := do
  let v ← (← operand).single
  match v.error? with
  | some code => return .error code
  | none => return .number (f (← v.toNumber))

/-! ## 3. Lazy functions -/

/-- The range that an argument names, whatever its cells hold. -/
def namedRange (ctx : Context) : Expr → Except Fault Range
  | .ref _ target => .ok target.range
  | .name name =>
    match ctx.name? name with
    | some range => .ok range
    | none => .error (.nameNotFound name)
  | .group inner => namedRange ctx inner
  | e => .error (.notAReference e)

/-- A line of the first argument, or of the cell itself, counted from one. -/
def lineNumber (ctx : Context) (args : List Expr) (line : Spot → Nat) : Outcome :=
  match args with
  | [] => .ok (.number (Float.ofNat (line ctx.home.spot) + 1.0))
  | e :: _ => (namedRange ctx e).map fun range => .number (Float.ofNat (line range.first) + 1.0)

/-- **A choice.**  Only the branch that is taken matters; one that is missing is the truth value
itself. -/
def chooseBranch (outcomes : List (Thunk Outcome)) : Outcome :=
  match outcomes with
  | [] => .ok (.error .value)
  | condition :: branches => do
    let v ← condition.get
    match v.error? with
    | some code => return .error code
    | none =>
      let b ← v.toBool
      match branches[if b then 0 else 1]? with
      | some branch => branch.get
      | none => return .bool b

/-- **A fall-back** for an argument that is an error code or has no value, unless that is because
a function was called with a wrong number of arguments. -/
def orFallback (outcomes : List (Thunk Outcome)) : Outcome :=
  match outcomes with
  | first :: fallback :: _ =>
    match first.get with
    | .ok v => if v.error?.isSome then fallback.get else .ok v
    | .error (.wrongCount function expected actual) =>
      .error (.wrongCount function expected actual)
    | .error _ => fallback.get
  | _ => .ok (.error .value)

/-- **The value of a reference given as text.**  Text that is none gives `#REF!`. -/
def indirectly (ctx : Context) (args : List Operand) : Outcome :=
  match args with
  | .error code :: _ => .ok (.error code)
  | .text s :: more => do
    let inLetters ← (more.head?.map Operand.toBool).getD (.ok true)
    if !inLetters then return .error .ref
    match parse s with
    | .ok (.ref sheet target) => return ctx.reference sheet target
    | .ok (.name name) =>
      match ctx.name? name with
      | some range => return ctx.values ctx.home.sheet range
      | none => return .error .ref
    | _ => return .error .ref
  | _ => .ok (.error .ref)

/-! ## 4. Calls -/

/-- What a function makes of the values of its arguments. -/
def applyToValues (ctx : Context) (f : Function) (args : List Operand) : Outcome :=
  match f, args with
  | .sum, args => .ok (aggregate args fun xs => .number (total xs))
  | .average, args => .ok (aggregate args mean)
  | .minimum, args => .ok (aggregate args fun xs => .number ((Decimal.smallest? xs).getD 0.0))
  | .maximum, args => .ok (aggregate args fun xs => .number ((Decimal.largest? xs).getD 0.0))
  | .count, args => .ok (.number (Float.ofNat (countNumbers args)))
  | .absolute, v :: _ => onNumber v fun x => .ok (.number x.abs)
  | .round, [v] => onNumber v fun x => .ok (.number (roundAt x 0))
  | .round, v :: w :: _ => onNumber v fun x => onNumber w fun y =>
      .ok (.number (roundAt x (Decimal.clampedWhole (-2147483648) 2147483647 y)))
  | .all, args => decideAll args (·.all id)
  | .any, args => decideAll args (·.any id)
  | .negation, .error code :: _ => .ok (.error code)
  | .negation, v :: _ => v.toBool.map fun b => .bool !b
  | .concatenate, args => joinTexts "" args
  | .length, v :: _ => onText v fun s => .number (Float.ofNat s.length)
  | .upper, v :: _ => onText v fun s => .text (Text.capital s)
  | .lower, v :: _ => onText v fun s => .text (Text.small s)
  | .isBlank, .empty :: _ => .ok (.bool true)
  | .isBlank, _ => .ok (.bool false)
  | .address, args => addressOf args
  | .indirect, args => indirectly ctx args
  | _, _ => .ok (.error .value)

/-- **What a function makes of its arguments,** given as formulas and by their outcomes.  An
outcome that the function does not need is not computed. -/
def applyFunction (ctx : Context) (f : Function) (args : List Expr)
    (outcomes : List (Thunk Outcome)) : Outcome :=
  match f with
  | .choose => chooseBranch outcomes
  | .fallback => orFallback outcomes
  | .row => lineNumber ctx args (·.row)
  | .column => lineNumber ctx args (·.col)
  | f => do applyToValues ctx f (← outcomes.mapM Thunk.get)

/-- The outcome of a call. -/
def applyCall (ctx : Context) (called : String) (args : List Expr)
    (outcomes : List (Thunk Outcome)) : Outcome :=
  match Function.find? called with
  | none => .error (.unknownFunction called)
  | some f => do
    f.checkCount called args.length
    applyFunction ctx f args outcomes

/-! ## 5. Formulas -/

mutual

/-- **The value of a formula.** -/
def evaluate (ctx : Context) : Expr → Outcome
  | .number x => .ok (.number x)
  | .text s => .ok (.text s)
  | .bool b => .ok (.bool b)
  | .error code => .ok (.error code)
  | .ref sheet target => .ok (ctx.reference sheet target)
  | .name name =>
    match ctx.name? name with
    | some range => .ok (ctx.values ctx.home.sheet range)
    | none => .error (.nameNotFound name)
  | .binary op left right => applyBinary op (evaluate ctx left) (evaluate ctx right)
  | .negate operand => applySign (evaluate ctx operand) fun x => -x
  | .percent operand => applySign (evaluate ctx operand) fun x => x / 100.0
  | .group inner => evaluate ctx inner
  | .call called args => applyCall ctx called args (evaluateAll ctx args)

/-- The outcomes of several formulas. -/
def evaluateAll (ctx : Context) : List Expr → List (Thunk Outcome)
  | [] => []
  | e :: rest => Thunk.mk (fun _ => evaluate ctx e) :: evaluateAll ctx rest

end

end Spreadsheet.Formula
