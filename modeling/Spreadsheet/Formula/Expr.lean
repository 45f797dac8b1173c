/-
# Formulas

* A formula is a tree of constants, references, names, operators, groups and calls.  Groups are
  nodes of their own, so the text of a formula is the text that was written, up to blanks and the
  case of keywords.
* Binary operators fall into five levels from loose to tight.  All associate to the left but
  powers, and a sign binds tighter than a power.
* Writing adds neither blanks nor groups.
-/
import Spreadsheet.Formula.Reference
import Spreadsheet.Value

namespace Spreadsheet.Formula

open Grid

/-! ## 1. Operators -/

/-- **Operators between two operands.** -/
inductive BinaryOp where
  | add
  | subtract
  | multiply
  | divide
  | power
  | equal
  | notEqual
  | less
  | lessOrEqual
  | greater
  | greaterOrEqual
  | join
deriving DecidableEq, Repr

/-- An operator as it is written. -/
def BinaryOp.symbol : BinaryOp → String
  | .add => "+"
  | .subtract => "-"
  | .multiply => "*"
  | .divide => "/"
  | .power => "^"
  | .equal => "="
  | .notEqual => "<>"
  | .less => "<"
  | .lessOrEqual => "<="
  | .greater => ">"
  | .greaterOrEqual => ">="
  | .join => "&"

/-- **How tightly an operator binds.** -/
inductive Level where
  | comparison
  | joining
  | sum
  | product
  | power
deriving DecidableEq, Repr

/-- The level of an operator. -/
def BinaryOp.level : BinaryOp → Level
  | .equal | .notEqual | .less | .lessOrEqual | .greater | .greaterOrEqual => .comparison
  | .join => .joining
  | .add | .subtract => .sum
  | .multiply | .divide => .product
  | .power => .power

/-- The next tighter level. -/
def Level.tighter? : Level → Option Level
  | .comparison => some .joining
  | .joining => some .sum
  | .sum => some .product
  | .product => some .power
  | .power => none

/-- Number of tighter levels. -/
def Level.rank : Level → Nat
  | .comparison => 4
  | .joining => 3
  | .sum => 2
  | .product => 1
  | .power => 0

theorem Level.rank_of_tighter? {l m : Level} (h : l.tighter? = some m) : l.rank = m.rank + 1 := by
  cases l <;> cases m <;> simp_all [tighter?, rank]

/-! ## 2. Trees -/

/-- **A formula.** -/
inductive Expr where
  | number (x : Float)
  | text (s : String)
  | bool (b : Bool)
  | error (code : ErrorCode)
  | ref (sheet : Option String) (target : Reference)
  | name (s : String)
  | binary (op : BinaryOp) (left right : Expr)
  | negate (operand : Expr)
  | percent (operand : Expr)
  | group (inner : Expr)
  | call (function : String) (args : List Expr)
deriving Repr

instance : Inhabited Expr := ⟨.text ""⟩

mutual

/-- Whether two formulas are the same tree, numbers being compared as numbers. -/
def Expr.same : Expr → Expr → Bool
  | .number x, .number y => x == y
  | .text s, .text t => s == t
  | .bool b, .bool c => b == c
  | .error c, .error d => c == d
  | .ref s r, .ref t q => s == t && r == q
  | .name s, .name t => s == t
  | .binary o l r, .binary p m q => o == p && l.same m && r.same q
  | .negate e, .negate f => e.same f
  | .percent e, .percent f => e.same f
  | .group e, .group f => e.same f
  | .call f as, .call g bs => f == g && sameAll as bs
  | _, _ => false

/-- Whether two lists of formulas are the same trees. -/
def sameAll : List Expr → List Expr → Bool
  | [], [] => true
  | e :: es, f :: fs => e.same f && sameAll es fs
  | _, _ => false

end

/-! ## 3. Writing -/

mutual

/-- **A formula as it is written,** without the equals sign in front. -/
def Expr.chars : Expr → List Char
  | .number x => (Decimal.numberText x).toList
  | .text s => Text.delimited '"' s.toList
  | .bool b => (Value.boolText b).toList
  | .error code => code.text.toList
  | .ref sheet target => sheetMark sheet ++ target.chars
  | .name s => s.toList
  | .binary op left right => left.chars ++ op.symbol.toList ++ right.chars
  | .negate operand => '-' :: operand.chars
  | .percent operand => operand.chars ++ ['%']
  | .group inner => '(' :: inner.chars ++ [')']
  | .call function args => function.toList ++ '(' :: argsChars args ++ [')']

/-- The arguments of a call, separated by commas. -/
def argsChars : List Expr → List Char
  | [] => []
  | [e] => e.chars
  | e :: rest => e.chars ++ ',' :: argsChars rest

end

/-- A formula as it is written. -/
def Expr.print (e : Expr) : String := String.ofList e.chars

/-- The text that a cell stores for a formula. -/
def Expr.source (e : Expr) : String := String.ofList ('=' :: e.chars)

/-! ## 4. Changing references -/

mutual

/-- Replaces every reference; all else stays. -/
def Expr.mapRefs (f : Option String → Reference → Expr) : Expr → Expr
  | .ref sheet target => f sheet target
  | .binary op left right => .binary op (left.mapRefs f) (right.mapRefs f)
  | .negate operand => .negate (operand.mapRefs f)
  | .percent operand => .percent (operand.mapRefs f)
  | .group inner => .group (inner.mapRefs f)
  | .call function args => .call function (mapRefsAll f args)
  | .number x => .number x
  | .text s => .text s
  | .bool b => .bool b
  | .error code => .error code
  | .name s => .name s

/-- Replaces every reference in every formula. -/
def mapRefsAll (f : Option String → Reference → Expr) : List Expr → List Expr
  | [] => []
  | e :: rest => e.mapRefs f :: mapRefsAll f rest

end

/-- The formula `#REF!` where nothing is left to refer to. -/
def refOrError (sheet : Option String) : Option Reference → Expr
  | some target => .ref sheet target
  | none => .error .ref

/-- **The formula as a copy reads that stands `rows` and `columns` away.** -/
def Expr.moved (e : Expr) (rows columns : Int) : Expr :=
  if rows = 0 ∧ columns = 0 then e
  else e.mapRefs fun sheet target => refOrError sheet (target.move? rows columns)

/-- **The formula after `count` lines from `start` on were removed.**  Only references that point
at the sheet that lost the lines are touched. -/
def Expr.without (e : Expr) (pointsThere : Option String → Bool) (axis : Axis)
    (start count : Nat) : Expr :=
  if h : 0 < count then
    e.mapRefs fun sheet target =>
      if pointsThere sheet then refOrError sheet (target.without? axis ⟨start, count, h⟩)
      else .ref sheet target
  else
    e

end Spreadsheet.Formula
