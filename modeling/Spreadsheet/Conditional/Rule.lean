/-
# Conditional formats

* A format belongs to a range and has rules.  A rule has a condition, a priority and the change of
  style that it makes wherever its condition holds.
* The formulas of a condition are written for the first cell of the range and move with the cell
  they are asked for.  A text that is no formula never holds.
* Rules are applied by falling priority number, those of one number in the order they are given,
  so the change of the smallest number is made last and wins.
-/
import Spreadsheet.Conditional.Comparison
import Spreadsheet.Formula.Parser
import Spreadsheet.Style

namespace Spreadsheet.Conditional

open Grid Formula

/-! ## 1. Conditions -/

/-- **A formula of a condition:** its text, and the formula if the text is one. -/
structure RuleFormula where
  text : String
  parsed : Option Expr

/-- The formula of a text. -/
def RuleFormula.ofText (text : String) : RuleFormula := ⟨text, (parse text).toOption⟩

/-- Changes the formula and its text; a text that is no formula stays. -/
def RuleFormula.mapExpr (f : RuleFormula) (change : Expr → Expr) : RuleFormula :=
  match f.parsed with
  | some e => ⟨(change e).source, some (change e)⟩
  | none => f

/-- **When a rule holds for a cell:** when a formula is true there, or when the number in the cell
compares with the values of formulas. -/
inductive Condition where
  | expression (formula : RuleFormula)
  | comparison (how : Comparison) (first : RuleFormula) (second : Option RuleFormula)

namespace Condition

/-- The formulas of a condition in order. -/
def formulas : Condition → List RuleFormula
  | .expression f => [f]
  | .comparison _ first second => first :: second.toList

/-- Whether the formulas may not read the first cell of the range. -/
def checksSelf : Condition → Bool
  | .expression _ => true
  | .comparison _ _ _ => false

/-- Changes the formulas of a condition. -/
def mapExpr (change : Expr → Expr) : Condition → Condition
  | .expression f => .expression (f.mapExpr change)
  | .comparison how first second =>
    .comparison how (first.mapExpr change) (second.map (·.mapExpr change))

end Condition

/-! ## 2. Rules -/

/-- **A rule.** -/
structure Rule where
  condition : Condition
  priority : Nat
  change : StyleChange

/-- Changes the formulas of a rule. -/
def Rule.mapExpr (rule : Rule) (change : Expr → Expr) : Rule :=
  { rule with condition := rule.condition.mapExpr change }

/-- **The rules in the order in which they are applied,** each with its place in the list. -/
def applicationOrder (rules : List Rule) : List (Rule × Nat) :=
  rules.zipIdx.mergeSort fun a b => b.1.priority ≤ a.1.priority

/-- Every rule is applied once. -/
theorem applicationOrder_perm (rules : List Rule) :
    (applicationOrder rules).Perm rules.zipIdx :=
  List.mergeSort_perm _ _

/-! ## 3. Formats -/

/-- **A format:** its range, its rules, and the ranges whose cells it has to be applied again for
when they change. -/
structure Format where
  range : Range
  rules : List Rule
  triggers : List Target

/-- Changes the formulas of a format. -/
def Format.mapExpr (format : Format) (change : Expr → Expr) : Format :=
  { format with rules := format.rules.map (·.mapExpr change) }

/-- Whether the format has to be applied again after the cells changed. -/
def Format.isTriggeredBy (format : Format) (changed : List Key) : Bool :=
  format.triggers.any fun t => changed.any t.covers

end Spreadsheet.Conditional
