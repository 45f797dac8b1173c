/-
# The order of operands

* Comparing two operands the other way round turns the result round (`order_swap`), whatever they
  are.  So every operand is beside itself.
* Operands are ordered by their kinds, numbers then by their places on the line from minus to plus
  infinity, texts by their small letters, and truth values with the false one first (`byKind`).
  Such an order is transitive.  It is the order of operands (`order_eq_byKind`) as long as none is
  empty and none is a value that is no number: an empty cell is beside zero and beside the empty
  text though zero is below it, and what is no number is beside every number.
* An operator that compares two single values asks their order and nothing else, so the six
  operators answer as the three outcomes of one comparison (`evaluate_comparison`).
-/
import Mathlib
import Spreadsheet.Formula.Evaluation
import Spreadsheet.Proofs.WholeDoubles

namespace Spreadsheet.Decimal

open Float.Model (UnpackedFloat)
open Float.Model.UnpackedFloat (Sign)

/-! ## 1. Doubles on a line -/

/-- **The place of a double,** taken apart, on the line of fractions with both infinities. -/
def place : UnpackedFloat → WithBot (WithTop ℚ)
  | .infinity .negative => ⊥
  | .infinity .positive => ⊤
  | u => ((fraction? u).getD 0 : ℚ)

/-- Compared the other way round, doubles have the opposite order. -/
theorem compare_swap (u v : UnpackedFloat) : u.compare v = (v.compare u).map Ordering.swap := by
  have hmagnitudes (m n : Nat) (e f : Int) :
      (compare e f).then (compare m n) = ((compare f e).then (compare n m)).swap := by
    rw [Ordering.swap_then, ← Std.OrientedCmp.eq_swap, ← Std.OrientedCmp.eq_swap]
  cases u with
  | notANumber => cases v <;> rfl
  | infinity s =>
    cases v with
    | infinity t => cases s <;> cases t <;> rfl
    | _ => cases s <;> rfl
  | zero s =>
    cases v with
    | infinity t => cases t <;> rfl
    | finite t => cases t <;> rfl
    | _ => rfl
  | finite s m e hm =>
    cases v with
    | notANumber => rfl
    | infinity t => cases t <;> rfl
    | zero t => cases s <;> rfl
    | finite t n f hn =>
      cases s <;> cases t
      case positive.negative | negative.positive => rfl
      case negative.negative => exact congrArg (some ·.swap) (hmagnitudes m n e f)
      case positive.positive => exact congrArg some (hmagnitudes m n e f)

/-- An infinity is at its end of the line. -/
theorem compare_infinity (s : Sign) {v : UnpackedFloat} (hv : v.isNaN = false) :
    (UnpackedFloat.infinity s).compare v = some (compare (place (.infinity s)) (place v)) := by
  have hends : (⊥ : WithBot (WithTop ℚ)) < ⊤ := bot_lt_top
  have hlow (p : ℚ) : (⊥ : WithBot (WithTop ℚ)) < ((p : WithTop ℚ) : WithBot (WithTop ℚ)) :=
    WithBot.bot_lt_coe _
  have hhigh (p : ℚ) : ((p : WithTop ℚ) : WithBot (WithTop ℚ)) < ⊤ :=
    WithBot.coe_lt_coe.mpr (WithTop.coe_lt_top p)
  cases s with
  | negative =>
    cases v with
    | notANumber => cases hv
    | infinity t =>
      cases t
      · exact congrArg some (compare_eq_iff_eq.mpr rfl).symm
      · exact congrArg some (compare_lt_iff_lt.mpr hends).symm
    | zero t => exact congrArg some (compare_lt_iff_lt.mpr (hlow _)).symm
    | finite t n f hn => exact congrArg some (compare_lt_iff_lt.mpr (hlow _)).symm
  | positive =>
    cases v with
    | notANumber => cases hv
    | infinity t =>
      cases t
      · exact congrArg some (compare_gt_iff_gt.mpr hends).symm
      · exact congrArg some (compare_eq_iff_eq.mpr rfl).symm
    | zero t => exact congrArg some (compare_gt_iff_gt.mpr (hhigh _)).symm
    | finite t n f hn => exact congrArg some (compare_gt_iff_gt.mpr (hhigh _)).symm

/-- Fractions keep their order on the line. -/
theorem compare_coe (p q : ℚ) : compare ((p : WithTop ℚ) : WithBot (WithTop ℚ))
    ((q : WithTop ℚ) : WithBot (WithTop ℚ)) = cmp p q := by
  rcases lt_trichotomy p q with h | rfl | h
  · rw [(cmp_eq_lt_iff ..).mpr h, compare_lt_iff_lt, WithBot.coe_lt_coe, WithTop.coe_lt_coe]
    exact h
  · rw [cmp_self_eq_eq, compare_eq_iff_eq]
  · rw [(cmp_eq_gt_iff ..).mpr h, compare_gt_iff_gt, WithBot.coe_lt_coe, WithTop.coe_lt_coe]
    exact h

/-- **Doubles that are numbers are ordered by their places.** -/
theorem compare_places {u v : UnpackedFloat} (hu : Canonical u) (hv : Canonical v)
    (hnu : u.isNaN = false) (hnv : v.isNaN = false) :
    u.compare v = some (compare (place u) (place v)) := by
  have hfractions {p q : ℚ} (hp : fraction? u = some p) (hq : fraction? v = some q)
      (hplaces : compare (place u) (place v) = cmp p q) :
      u.compare v = some (compare (place u) (place v)) := by
    rw [compare_fractions hu hv hp hq, hplaces]
  -- An infinity on the right is met from the other side.
  have hbeyond (s : Sign) (h : v = .infinity s) :
      u.compare v = some (compare (place u) (place v)) := by
    rw [compare_swap, h, compare_infinity s hnu, Option.map_some, ← Std.OrientedCmp.eq_swap]
  cases u with
  | notANumber => cases hnu
  | infinity s => exact compare_infinity s hnv
  | zero s =>
    cases v with
    | notANumber => cases hnv
    | infinity t => exact hbeyond t rfl
    | zero t => exact hfractions rfl rfl (compare_coe _ _)
    | finite t n f hn => exact hfractions rfl rfl (compare_coe _ _)
  | finite s m e hm =>
    cases v with
    | notANumber => cases hnv
    | infinity t => exact hbeyond t rfl
    | zero t => exact hfractions rfl rfl (compare_coe _ _)
    | finite t n f hn => exact hfractions rfl rfl (compare_coe _ _)

end Spreadsheet.Decimal

namespace Spreadsheet.Formula.Operand

open Decimal (Canonical canonical_unpack place compare_places compare_swap lt_iff_compare)

/-! ## 2. The order both ways -/

/-- Numbers are in the order of their doubles; what is no number is beside every number. -/
theorem compareNumbers_eq (x y : Float) :
    compareNumbers x y = (x.toModel.unpack.compare y.toModel.unpack).getD .eq := by
  unfold compareNumbers
  simp only [lt_iff_compare]
  rw [compare_swap y.toModel.unpack]
  rcases x.toModel.unpack.compare y.toModel.unpack with _ | _ | _ | _ <;> rfl

theorem compareNumbers_swap (x y : Float) : compareNumbers x y = (compareNumbers y x).swap := by
  rw [compareNumbers_eq, compareNumbers_eq, compare_swap]
  cases y.toModel.unpack.compare x.toModel.unpack <;> rfl

/-- **Comparing the other way round turns the result round.** -/
theorem order_swap (v w : Operand) : v.order w = (w.order v).swap := by
  cases v <;> cases w
  case text.text | text.empty | empty.text | bool.bool => exact Std.OrientedOrd.eq_swap
  case number.number x y => exact compareNumbers_swap x y
  case number.empty x => exact compareNumbers_swap x 0.0
  case empty.number y => exact compareNumbers_swap 0.0 y
  all_goals rfl

/-! ## 3. The order by kinds -/

/-- **An operand with a place among all others:** it is not empty, and a number if it is meant for
one. -/
def Placed : Operand → Prop
  | .empty => False
  | .number x => x.isNaN = false
  | _ => True

/-- The place of a number. -/
def line : Operand → WithBot (WithTop ℚ)
  | .number x => place x.toModel.unpack
  | _ => ⊥

/-- The small letters of a text. -/
def letters : Operand → String
  | .text s => Text.small s
  | _ => ""

/-- Whether the operand is true. -/
def truth : Operand → Nat
  | .bool b => b.toNat
  | _ => 0

/-- **The order by kinds,** and by value within a kind. -/
def byKind : Operand → Operand → Ordering :=
  compareLex (compareOn kindRank)
    (compareLex (compareOn line) (compareLex (compareOn letters) (compareOn truth)))

instance : Std.TransCmp byKind :=
  inferInstanceAs (Std.TransCmp (compareLex (compareOn kindRank)
    (compareLex (compareOn line) (compareLex (compareOn letters) (compareOn truth)))))

/-- **Placed operands are ordered by their kinds.** -/
theorem order_eq_byKind {v w : Operand} (hv : v.Placed) (hw : w.Placed) :
    v.order w = byKind v w := by
  cases v <;> cases w
  case number.number x y =>
    have hx : Canonical x.toModel.unpack := canonical_unpack _
    have hy : Canonical y.toModel.unpack := canonical_unpack _
    change compareNumbers x y = _
    rw [compareNumbers_eq, compare_places hx hy hv hw]
    simp [byKind, compareLex, compareOn, kindRank, line, letters, truth]
  case text.text | bool.bool | error.error | array.array | error.array | array.error =>
    simp [order, byKind, compareLex, compareOn, kindRank, line, letters, truth]
  -- The rest are empty, or of different kinds, and then their ranks alone decide.
  all_goals first | cases hv; done | cases hw; done | rfl

/-- **Placed operands are in order:** one that comes no later than a second, which comes no later
than a third, comes no later than the third. -/
theorem order_trans {u v w : Operand} (hu : u.Placed) (hv : v.Placed) (hw : w.Placed)
    (huv : (u.order v).isLE = true) (hvw : (v.order w).isLE = true) :
    (u.order w).isLE = true := by
  rw [order_eq_byKind hu hv] at huv
  rw [order_eq_byKind hv hw] at hvw
  rw [order_eq_byKind hu hw]
  exact Std.TransCmp.isLE_trans huv hvw

/-- Between the empty text and the number zero an empty cell is beside both. -/
example : (order (.text "") .empty, order .empty (.number 0), order (.text "") (.number 0)) =
    (.eq, .eq, .gt) := by decide +kernel

end Spreadsheet.Formula.Operand

namespace Spreadsheet.Formula

/-! ## 4. The operators -/

/-- What an operator that compares asks of the order of its operands. -/
def BinaryOp.question? : BinaryOp → Option (Ordering → Bool)
  | .equal => some (·.isEq)
  | .notEqual => some (·.isNe)
  | .less => some (·.isLT)
  | .lessOrEqual => some (·.isLE)
  | .greater => some (·.isGT)
  | .greaterOrEqual => some (·.isGE)
  | _ => none

/-- **A comparison of two single values that are no error codes** asks their order and nothing
else. -/
theorem evaluate_comparison {ctx : Context} {left right : Expr} {v w : Operand}
    (hleft : evaluate ctx left = .ok v) (hright : evaluate ctx right = .ok w)
    (hv : v.single = .ok v) (hw : w.single = .ok w) (hverror : v.error? = none)
    (hwerror : w.error? = none) {op : BinaryOp} {question : Ordering → Bool}
    (hop : op.question? = some question) :
    evaluate ctx (.binary op left right) = .ok (.bool (question (v.order w))) := by
  have hcombine : combine op v w = .ok (.bool (question (v.order w))) := by
    cases op <;> cases hop <;> rfl
  rw [evaluate, hleft, hright, applyBinary]
  simp only [bind, Except.bind, hv, hw, hverror, hwerror]
  exact hcombine

/-- **Comparison operators form an order.**  Turned round, a comparison has the opposite result.
Any two operands are in order one way or the other, each is beside itself, and placed operands are
in order throughout.  Of two single values that are no error codes exactly one of `=`, `<` and `>`
is true, and `<=`, `>=` and `<>` are their unions. -/
theorem comparison_operators_order :
    (∀ v w : Operand, v.order w = (w.order v).swap) ∧
    (∀ v : Operand, v.order v = .eq) ∧
    (∀ v w : Operand, (v.order w).isLE = true ∨ (w.order v).isLE = true) ∧
    (∀ u v w : Operand, u.Placed → v.Placed → w.Placed → (u.order v).isLE = true →
      (v.order w).isLE = true → (u.order w).isLE = true) ∧
    (∀ (ctx : Context) (left right : Expr) (v w : Operand), evaluate ctx left = .ok v →
      evaluate ctx right = .ok w → v.single = .ok v → w.single = .ok w → v.error? = none →
      w.error? = none → ∃ equal less greater : Bool,
        evaluate ctx (.binary .equal left right) = .ok (.bool equal) ∧
        evaluate ctx (.binary .less left right) = .ok (.bool less) ∧
        evaluate ctx (.binary .greater left right) = .ok (.bool greater) ∧
        [equal, less, greater].count true = 1 ∧
        evaluate ctx (.binary .lessOrEqual left right) = .ok (.bool (less || equal)) ∧
        evaluate ctx (.binary .greaterOrEqual left right) = .ok (.bool (greater || equal)) ∧
        evaluate ctx (.binary .notEqual left right) = .ok (.bool (less || greater))) := by
  refine ⟨Operand.order_swap, fun v => ?_, fun v w => ?_, fun _ _ _ => Operand.order_trans, ?_⟩
  · have hself := Operand.order_swap v v
    cases h : v.order v <;> rw [h] at hself <;> first | rfl | cases hself
  · rw [Operand.order_swap w v]
    cases v.order w <;> simp
  · intro ctx left right v w hleft hright hv hw hverror hwerror
    have hask {op : BinaryOp} {question : Ordering → Bool} (hop : op.question? = some question) :=
      evaluate_comparison hleft hright hv hw hverror hwerror hop
    refine ⟨_, _, _, hask rfl, hask rfl, hask rfl, ?_, ?_, ?_, ?_⟩
    · cases v.order w <;> rfl
    all_goals
      rw [hask rfl]
      cases v.order w <;> rfl

/-- A number, a text and a truth value, and two texts that differ in their letters. -/
theorem comparison_operators_order_mixed :
    let ctx : Context := ⟨⟨fun _ => none, fun _ => .empty, fun _ _ => none⟩, ⟨⟨0⟩, ⟨0, 0⟩⟩⟩
    ((Operand.number 2).order (.bool false)).isLE = true ∧
      ∃ equal less greater : Bool,
        evaluate ctx (.binary .equal (.text "B") (.text "a")) = .ok (.bool equal) ∧
        evaluate ctx (.binary .less (.text "B") (.text "a")) = .ok (.bool less) ∧
        evaluate ctx (.binary .greater (.text "B") (.text "a")) = .ok (.bool greater) ∧
        [equal, less, greater].count true = 1 ∧
        evaluate ctx (.binary .lessOrEqual (.text "B") (.text "a")) =
          .ok (.bool (less || equal)) ∧
        evaluate ctx (.binary .greaterOrEqual (.text "B") (.text "a")) =
          .ok (.bool (greater || equal)) ∧
        evaluate ctx (.binary .notEqual (.text "B") (.text "a")) =
          .ok (.bool (less || greater)) := by
  intro ctx
  have htwo : (2 : Float).isNaN = false := by decide +kernel
  exact ⟨comparison_operators_order.2.2.2.1 (.number 2) (.text "a") (.bool false) htwo trivial
      trivial (by decide +kernel) (by decide +kernel),
    comparison_operators_order.2.2.2.2 ctx _ _ (.text "B") (.text "a") rfl rfl rfl rfl rfl rfl⟩

end Spreadsheet.Formula
