/-
# The functions of formulas

* A function is found by its name in any case, and takes a number of arguments between two
  bounds.
* Most functions work on the values of their arguments; the first argument without a value decides
  then.  The *lazy* ones do not: a choice looks only at the branch it takes, a fall-back looks at
  why its argument has no value, and a position is asked of the argument itself.
* Aggregates take numbers, truth values and numeric text given directly, but only numbers out of
  a range.
-/
import Spreadsheet.Formula.Operand

namespace Spreadsheet.Formula

open Grid

/-! ## 1. The catalogue -/

/-- **The built-in functions.** -/
inductive Function where
  | sum
  | average
  | minimum
  | maximum
  | count
  | absolute
  | round
  | choose
  | fallback
  | all
  | any
  | negation
  | concatenate
  | length
  | upper
  | lower
  | isBlank
  | row
  | column
  | address
  | indirect
deriving DecidableEq, Repr

namespace Function

/-- All functions. -/
def catalogue : List Function :=
  [.sum, .average, .minimum, .maximum, .count, .absolute, .round, .choose, .fallback, .all, .any,
    .negation, .concatenate, .length, .upper, .lower, .isBlank, .row, .column, .address, .indirect]

/-- The name of a function. -/
def name : Function → String
  | .sum => "SUM"
  | .average => "AVERAGE"
  | .minimum => "MIN"
  | .maximum => "MAX"
  | .count => "COUNT"
  | .absolute => "ABS"
  | .round => "ROUND"
  | .choose => "IF"
  | .fallback => "IFERROR"
  | .all => "AND"
  | .any => "OR"
  | .negation => "NOT"
  | .concatenate => "CONCATENATE"
  | .length => "LEN"
  | .upper => "UPPER"
  | .lower => "LOWER"
  | .isBlank => "ISBLANK"
  | .row => "ROW"
  | .column => "COLUMN"
  | .address => "ADDRESS"
  | .indirect => "INDIRECT"

/-- The function of a name, in any case. -/
def find? (name : String) : Option Function :=
  catalogue.find? fun f => f.name == Text.asciiCapital name

/-- The least number of arguments. -/
def fewest : Function → Nat
  | .row | .column => 0
  | .fallback | .address => 2
  | _ => 1

/-- The largest number of arguments, if there is one. -/
def most? : Function → Option Nat
  | .absolute | .negation | .length | .upper | .lower | .isBlank | .row | .column => some 1
  | .round | .fallback | .indirect => some 2
  | .choose => some 3
  | .address => some 5
  | .sum | .average | .minimum | .maximum | .count | .all | .any | .concatenate => none

/-- Whether the function does not work on the values of all its arguments. -/
def isLazy : Function → Bool
  | .choose | .fallback | .row | .column => true
  | _ => false

/-- Accepts a number of arguments. -/
def checkCount (f : Function) (called : String) (count : Nat) : Except Fault Unit :=
  if count < f.fewest then .error (.wrongCount called s!"at least {f.fewest}" count)
  else
    match f.most? with
    | some most => if most < count then .error (.wrongCount called s!"at most {most}" count) else .ok ()
    | none => .ok ()

end Function

/-! ## 2. Aggregates -/

/-- The numbers that a value inside a range adds to an aggregate. -/
def numbersInRange : Operand → Except ErrorCode (List Float)
  | .number x => .ok [x]
  | .error code => .error code
  | _ => .ok []

/-- The numbers that an argument adds to an aggregate. -/
def numbersOf (v : Operand) : Except ErrorCode (List Float) :=
  match v with
  | .array rows => return (← rows.flatten.mapM numbersInRange).flatten
  | .error code => .error code
  | .empty => .ok []
  | v =>
    match v.number? with
    | some x => .ok [x]
    | none => .error .value

/-- **The numbers of an aggregate.**  The first error code met takes their place. -/
def collectNumbers (args : List Operand) : Except ErrorCode (List Float) :=
  return (← args.mapM numbersOf).flatten

/-- An error code, or what becomes of the numbers. -/
def aggregate (args : List Operand) (f : List Float → Operand) : Operand :=
  match collectNumbers args with
  | .ok xs => f xs
  | .error code => .error code

/-- The sum of numbers, added up from left to right. -/
def total (xs : List Float) : Float := xs.foldl (· + ·) 0.0

/-- The mean of numbers; of none there is no mean. -/
def mean (xs : List Float) : Operand :=
  if xs.isEmpty then .error .div0 else .number (total xs / Float.ofNat xs.length)

/-- Whether a value inside a range is counted. -/
def countsInRange : Operand → Bool
  | .number _ => true
  | _ => false

/-- How many numbers an argument counts for. -/
def countOf (v : Operand) : Nat :=
  match v with
  | .array rows => rows.flatten.countP countsInRange
  | .number _ | .bool _ => 1
  | .text s => if (Decimal.read? (Text.trimChars s.toList)).isSome then 1 else 0
  | _ => 0

/-- Number of numbers among the arguments; whatever is no number is passed over. -/
def countNumbers (args : List Operand) : Nat := (args.map countOf).foldl (· + ·) 0

/-! ## 3. Logic -/

/-- The truth values that a value inside a range adds. -/
def boolsInRange : Operand → Except ErrorCode (List Bool)
  | .bool b => .ok [b]
  | .number x => .ok [x != 0.0]
  | .error code => .error code
  | _ => .ok []

/-- The truth values of an argument: an error code, or a fault, may take their place. -/
def boolsOf (v : Operand) : Except Fault (Except ErrorCode (List Bool)) :=
  match v with
  | .array rows => .ok (return (← rows.flatten.mapM boolsInRange).flatten)
  | .error code => .ok (.error code)
  | .empty => .ok (.ok [])
  | v => v.toBool.map fun b => .ok [b]

/-- The truth values of all arguments.  The arguments behind an error code are not looked at. -/
def collectBools : List Operand → Except Fault (Except ErrorCode (List Bool))
  | [] => .ok (.ok [])
  | v :: rest =>
    match boolsOf v with
    | .error fault => .error fault
    | .ok (.error code) => .ok (.error code)
    | .ok (.ok bs) => (collectBools rest).map fun more => more.map (bs ++ ·)

/-- What becomes of the truth values; of none nothing can be said. -/
def decideAll (args : List Operand) (f : List Bool → Bool) : Except Fault Operand :=
  (collectBools args).map fun
    | .ok bs => if bs.isEmpty then .error .value else .bool (f bs)
    | .error code => .error code

/-! ## 4. Texts -/

/-- What becomes of the text of an argument. -/
def onText (v : Operand) (f : String → Operand) : Except Fault Operand :=
  match v with
  | .error code => .ok (.error code)
  | .array _ => .error .rangeAsText
  | v => .ok (f v.shown)

/-- Joins the texts of the arguments behind `done`. -/
def joinTexts (done : String) : List Operand → Except Fault Operand
  | [] => .ok (.text done)
  | .error code :: _ => .ok (.error code)
  | .array _ :: _ => .error .rangeInConcatenation
  | v :: rest => joinTexts (done ++ v.shown) rest

/-! ## 5. Numbers -/

/-- The number rounded at a decimal place, halves away from zero. -/
def roundAt (x : Float) (places : Int) : Float :=
  let power := Decimal.wholePower 10.0 places
  Decimal.roundHalfAway (x * power) / power

/-- What becomes of the number of an argument. -/
def onNumber (v : Operand) (f : Float → Except Fault Operand) : Except Fault Operand :=
  match v with
  | .error code => .ok (.error code)
  | v => v.toNumber.bind f

/-! ## 6. Addresses -/

/-- The number of an argument without its fraction; `absent` stands for one that is not given. -/
def wholeArg (args : List Operand) (index : Nat) (absent : Float) : Except Fault Float :=
  match args[index]? with
  | some v => v.toNumber.map Decimal.truncate
  | none => .ok (Decimal.truncate absent)

/-- One axis of an address in numbers. -/
def numberedAxis (letter : Char) (number : Nat) (fixed : Bool) : List Char :=
  letter :: if fixed then Nat.toDigits 10 number else '[' :: Nat.toDigits 10 number ++ [']']

/-- **The address of a cell as text.**  Row and column count from one; the numbers are cut to
words of 32 and 16 bits. -/
def addressChars (row col : Float) (rowFixed colFixed inLetters : Bool) : List Char :=
  if inLetters then
    fixedMark colFixed ++ columnLetters (col.toUInt16 - 1).toNat ++
      (fixedMark rowFixed ++ Nat.toDigits 10 row.toUInt32.toNat)
  else
    numberedAxis 'R' row.toUInt32.toNat rowFixed ++ numberedAxis 'C' col.toUInt32.toNat colFixed

/-- The marks of row and column that a number from one to four stands for. -/
def marksOf (kind : Nat) : Bool × Bool :=
  match kind with
  | 1 => (true, true)
  | 2 => (true, false)
  | 3 => (false, true)
  | _ => (false, false)

/-- The address of a cell on a sheet. -/
def addressOf (args : List Operand) : Except Fault Operand :=
  match args.findSome? Operand.error? with
  | some code => .ok (.error code)
  | none => do
    let row ← wholeArg args 0 0.0
    let col ← wholeArg args 1 0.0
    let kind ← wholeArg args 2 1.0
    let inLetters ← (args[3]?.map Operand.toBool).getD (.ok true)
    if row < 1.0 || col < 1.0 || Float.ofNat maxRows < row || Float.ofNat maxColumns < col ||
        !(1.0 ≤ kind && kind ≤ 4.0) then
      return .error .value
    let (rowFixed, colFixed) := marksOf kind.toUInt8.toNat
    let sheet := (args[4]?.map Operand.shown).getD ""
    let front := if sheet.isEmpty then [] else sheetMark (some sheet)
    return .text (String.ofList (front ++ addressChars row col rowFixed colFixed inLetters))

end Spreadsheet.Formula
