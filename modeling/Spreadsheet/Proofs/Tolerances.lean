/-
# Comparisons up to a tolerance

* The comparisons of a rule use three things of the numbers they are given: which of two is the
  smaller, whether two of them are near, and whether a number is near to an equal one.  A *reading*
  of numbers as fractions (`Reading`) answers the three from the fractions alone.  Exact numbers
  have one (`reading_exact`), and so have finite doubles (`reading_doubles`): equal doubles differ
  by a zero, and the sign of a zero is never asked for.
* From a reading the comparisons are coherent (`Reading.coherent`): *less*, *equal* and *greater*
  exclude each other, *not equal* is the negation of *equal*, *at least* and *at most* are unions,
  and *between* takes its bounds in either order.
* What hangs on the tolerance is whether a number equals itself.  The test for nearness is strict,
  so under a tolerance of zero it does not: then *at least* and *at most* fail at their own bound
  (`own_bound_missed_without_tolerance`).
-/
import Mathlib
import Spreadsheet.Session
import Spreadsheet.Proofs.WholeDoubles

namespace Spreadsheet.Decimal

open Float.Model (UnpackedFloat Format)
open Float.Model.UnpackedFloat (Sign pack unpack)

/-! ## 1. Differences of doubles -/

/-- **Doubles, taken apart, that are equal as numbers:** they are the same, or both are zeros. -/
def Alike (u v : UnpackedFloat) : Prop := u = v ∨ ∃ s t, u = .zero s ∧ v = .zero t

/-- Alike doubles stay alike through their bits. -/
theorem Alike.unpack_pack {u v : UnpackedFloat} (h : Alike u v) :
    Alike (unpack Format.binary64 (pack Format.binary64 u))
      (unpack Format.binary64 (pack Format.binary64 v)) := by
  obtain rfl | ⟨s, t, rfl, rfl⟩ := h
  · exact .inl rfl
  · exact .inr ⟨s, t, by cases s <;> rfl, by cases t <;> rfl⟩

/-- Comparing does not tell alike doubles apart. -/
theorem Alike.compare_eq {u v : UnpackedFloat} (h : Alike u v) (w : UnpackedFloat) :
    u.compare w = v.compare w := by
  obtain rfl | ⟨s, t, rfl, rfl⟩ := h
  · rfl
  · cases w with
    | notANumber => rfl
    | zero => rfl
    | infinity r => cases r <;> rfl
    | finite r => cases r <;> rfl

/-- Doubles that compare as equal are alike. -/
theorem alike_of_compare {u v : UnpackedFloat} (h : u.compare v = some .eq) : Alike u v := by
  have hsame {m n : Nat} {e f : Int} (h : (compare e f).then (compare m n) = .eq) :
      e = f ∧ m = n := by
    rw [Ordering.then_eq_eq] at h
    exact ⟨Int.compare_eq_eq.mp h.1, Nat.compare_eq_eq.mp h.2⟩
  cases u with
  | notANumber => cases h
  | infinity s =>
    cases v with
    | infinity t => cases s <;> cases t <;> first | exact .inl rfl | cases h
    | _ => cases s <;> cases h
  | zero s =>
    cases v with
    | zero t => exact .inr ⟨s, t, rfl, rfl⟩
    | notANumber => cases h
    | infinity t => cases t <;> cases h
    | finite t => cases t <;> cases h
  | finite s m e hm =>
    cases v with
    | notANumber => cases h
    | infinity t => cases t <;> cases h
    | zero t => cases s <;> cases h
    | finite t n f hn =>
      cases s <;> cases t
      case positive.negative | negative.positive => cases h
      case negative.negative =>
        obtain ⟨rfl, rfl⟩ := hsame (Ordering.swap_eq_eq.mp (Option.some.inj h))
        exact .inl rfl
      case positive.positive =>
        obtain ⟨rfl, rfl⟩ := hsame (Option.some.inj h)
        exact .inl rfl

/-- Doubles that denote the same fraction are alike. -/
theorem Denotes.alike {x y : Float} {p : ℚ} (hx : Denotes x p) (hy : Denotes y p) :
    Alike x.toModel.unpack y.toModel.unpack :=
  alike_of_compare (by rw [hx.compare hy, cmp_self_eq_eq])

theorem unpack_sub (x y : Float) : (x - y).toModel.unpack = unpack Format.binary64
    (pack Format.binary64 (UnpackedFloat.sub Format.binary64 x.toModel.unpack y.toModel.unpack)) :=
  rfl

/-- The differences of alike doubles are alike. -/
theorem Alike.sub {u u' v v' : UnpackedFloat} (hu : Alike u u') (hv : Alike v v') :
    Alike (UnpackedFloat.sub Format.binary64 u v) (UnpackedFloat.sub Format.binary64 u' v') := by
  have hzero (s t : Sign) :
      ∃ r, UnpackedFloat.sub Format.binary64 (.zero s) (.zero t) = .zero r := by
    cases s <;> cases t <;> exact ⟨_, rfl⟩
  -- A zero is absorbed by anything but a zero, so its sign matters for the sign of a zero at most.
  obtain rfl | ⟨s, s', rfl, rfl⟩ := hu <;> obtain rfl | ⟨t, t', rfl, rfl⟩ := hv
  · exact .inl rfl
  · cases u with
    | zero s =>
      obtain ⟨r, hr⟩ := hzero s t
      obtain ⟨r', hr'⟩ := hzero s t'
      exact .inr ⟨r, r', hr, hr'⟩
    | _ => exact .inl rfl
  · cases v with
    | zero t =>
      obtain ⟨r, hr⟩ := hzero s t
      obtain ⟨r', hr'⟩ := hzero s' t
      exact .inr ⟨r, r', hr, hr'⟩
    | _ => exact .inl rfl
  · obtain ⟨r, hr⟩ := hzero s t
    obtain ⟨r', hr'⟩ := hzero s' t'
    exact .inr ⟨r, r', hr, hr'⟩

/-- A finite double less itself is a zero. -/
theorem sub_self_of_fraction? {u : UnpackedFloat} {p : ℚ} (h : fraction? u = some p) :
    ∃ s, UnpackedFloat.sub Format.binary64 u u = .zero s := by
  cases u with
  | notANumber => cases h
  | infinity => cases h
  | zero s => cases s <;> exact ⟨_, rfl⟩
  | finite s m e hm =>
    refine ⟨.positive, ?_⟩
    simp only [UnpackedFloat.sub, sub_self]
    rfl

section Differences

variable {x y z w : Float} {p q : ℚ}

/-- **Whether a difference is less than a double depends on the fractions only.** -/
theorem Denotes.sub_lt_congr (hx : Denotes x p) (hz : Denotes z p) (hy : Denotes y q)
    (hw : Denotes w q) (t : Float) : x - y < t ↔ z - w < t := by
  rw [lt_iff_compare, lt_iff_compare, unpack_sub, unpack_sub,
    ((hx.alike hz).sub (hy.alike hw)).unpack_pack.compare_eq]

/-- **Doubles of one fraction differ by zero.** -/
theorem Denotes.sub_lt_iff (hx : Denotes x p) (hy : Denotes y p) (t : Float) :
    x - y < t ↔ (0 : Float) < t := by
  obtain ⟨s, hs⟩ := sub_self_of_fraction? hx
  have hzero : Alike (unpack Format.binary64 (pack Format.binary64 (.zero s)))
      (0 : Float).toModel.unpack := .inr ⟨s, .positive, by cases s <;> rfl, rfl⟩
  rw [hx.sub_lt_congr hx hy hx, lt_iff_compare, lt_iff_compare, unpack_sub, hs, hzero.compare_eq]

end Differences

end Spreadsheet.Decimal

namespace Spreadsheet.Conditional

open Decimal (Denotes smaller larger)

/-! ## 2. Coherence -/

/-- **The comparisons with two operands are coherent,** where the compared number and the operands
read as the fractions `v`, `a` and `b`, and where a number equals itself exactly if `reflexive`. -/
structure Coherent {α : Type} (holds : Comparison → α → Option α → Bool) (first second : α)
    (v a b : ℚ) (reflexive : Prop) : Prop where
  /-- One of the three holds, unless the number is the operand and does not equal itself. -/
  exactly_one : [Comparison.less, .equal, .greater].countP (holds · first none) = 1 ↔
    v ≠ a ∨ reflexive
  /-- At the operand itself *at least* and *at most* hold exactly if the number equals itself. -/
  at_operand : v = a → (holds .greaterOrEqual first none = true ↔ reflexive) ∧
    (holds .lessOrEqual first none = true ↔ reflexive)
  notEqual_eq : holds .notEqual first none = !holds .equal first none
  greaterOrEqual_eq : holds .greaterOrEqual first none =
    (holds .greater first none || holds .equal first none)
  lessOrEqual_eq : holds .lessOrEqual first none =
    (holds .less first none || holds .equal first none)
  between_comm : holds .between first (some second) = holds .between second (some first)
  between_eq : a ≤ b → holds .between first (some second) =
    (holds .greaterOrEqual first none && holds .lessOrEqual second none)
  notBetween_eq : holds .notBetween first (some second) = !holds .between first (some second)
  /-- A second operand is not asked for where none is needed. -/
  one_operand : ∀ how : Comparison, how.takesTwo = false → ∀ other,
    holds how first other = holds how first none

/-! ## 3. Readings -/

section Reading

variable {α : Type} [Sub α] [LT α] [DecidableLT α] [LE α] [DecidableLE α]

/-- **Numbers are read as fractions:** the order and the nearness of two numbers depend on their
fractions only, and numbers of one fraction are near exactly if `reflexive`. -/
structure Reading (reads : α → ℚ → Prop) (tolerance : α) (reflexive : Prop) : Prop where
  lt_iff : ∀ {x y p q}, reads x p → reads y q → (x < y ↔ p < q)
  le_self : ∀ {x p}, reads x p → x ≤ x
  near_congr : ∀ {x y z p q}, reads x p → reads y q → reads z q →
    near tolerance x y = near tolerance x z
  near_self : ∀ {x y p}, reads x p → reads y p → (near tolerance x y = true ↔ reflexive)

namespace Reading

variable {reads : α → ℚ → Prop} {tolerance : α} {reflexive : Prop}

/-- The smaller of two numbers reads as the smaller fraction. -/
theorem reads_smaller (r : Reading reads tolerance reflexive) {x y : α} {p q : ℚ}
    (hx : reads x p) (hy : reads y q) : reads (smaller x y) (min p q) := by
  rw [smaller, if_pos (r.le_self hx)]
  split
  · rename_i h
    rwa [min_eq_right ((r.lt_iff hy hx).mp h).le]
  · rename_i h
    rwa [min_eq_left (not_lt.mp (mt (r.lt_iff hy hx).mpr h))]

/-- The larger of two numbers reads as the larger fraction. -/
theorem reads_larger (r : Reading reads tolerance reflexive) {x y : α} {p q : ℚ}
    (hx : reads x p) (hy : reads y q) : reads (larger x y) (max p q) := by
  rw [larger, if_pos (r.le_self hx)]
  split
  · rename_i h
    rwa [max_eq_right ((r.lt_iff hx hy).mp h).le]
  · rename_i h
    rwa [max_eq_left (not_lt.mp (mt (r.lt_iff hx hy).mpr h))]

/-- Operands of one fraction pass for each other. -/
theorem holds_congr (r : Reading reads tolerance reflexive) {v x y : α} {s p : ℚ}
    (hv : reads v s) (hx : reads x p) (hy : reads y p) {how : Comparison}
    (hhow : how.takesTwo = false) :
    how.holds tolerance v x none = how.holds tolerance v y none := by
  have hnear := r.near_congr hv hx hy
  have hbelow : decide (x < v) = decide (y < v) :=
    decide_eq_decide.mpr ((r.lt_iff hx hv).trans (r.lt_iff hy hv).symm)
  have habove : decide (v < x) = decide (v < y) :=
    decide_eq_decide.mpr ((r.lt_iff hv hx).trans (r.lt_iff hv hy).symm)
  cases how
  case between | notBetween => cases hhow
  all_goals simp only [Comparison.holds, hnear, hbelow, habove]

/-- A number lies between two bounds exactly if it is at least the smaller and at most the
larger. -/
theorem liesBetween_eq (tolerance v x y : α) :
    liesBetween tolerance v x y = (Comparison.greaterOrEqual.holds tolerance v (smaller x y) none &&
      Comparison.lessOrEqual.holds tolerance v (larger x y) none) := rfl

/-- **Numbers that are read as fractions are compared coherently.** -/
theorem coherent (r : Reading reads tolerance reflexive) {v x y : α} {s p q : ℚ}
    (hv : reads v s) (hx : reads x p) (hy : reads y q) :
    Coherent (fun how first second => how.holds tolerance v first second) x y s p q reflexive where
  exactly_one := by
    have hbelow := r.lt_iff hx hv
    have habove := r.lt_iff hv hx
    -- The order rules out *less* or *greater*, and nearness decides between *equal* and the other.
    rcases lt_trichotomy s p with h | rfl | h
    · simp only [List.countP_cons, List.countP_nil, Comparison.holds, habove.mpr h,
        mt hbelow.mp h.asymm]
      cases near tolerance v x <;> simp [h.ne]
    · simp only [List.countP_cons, List.countP_nil, Comparison.holds, mt habove.mp (lt_irrefl s),
        mt hbelow.mp (lt_irrefl s), ← r.near_self hv hx]
      cases near tolerance v x <;> simp
    · simp only [List.countP_cons, List.countP_nil, Comparison.holds, hbelow.mpr h,
        mt habove.mp h.asymm]
      cases near tolerance v x <;> simp [h.ne']
  at_operand := by
    rintro rfl
    have hself := r.near_self hv hx
    have hbelow : ¬ x < v := mt (r.lt_iff hx hv).mp (lt_irrefl s)
    have habove : ¬ v < x := mt (r.lt_iff hv hx).mp (lt_irrefl s)
    simp only [Comparison.holds, hbelow, habove, decide_false, Bool.false_or, hself, and_self]
  notEqual_eq := rfl
  greaterOrEqual_eq := by
    simp only [Comparison.holds]
    cases near tolerance v x <;> simp
  lessOrEqual_eq := by
    simp only [Comparison.holds]
    cases near tolerance v x <;> simp
  between_comm := by
    have hsmaller := r.reads_smaller hy hx
    have hlarger := r.reads_larger hy hx
    rw [min_comm] at hsmaller
    rw [max_comm] at hlarger
    change liesBetween tolerance v x y = liesBetween tolerance v y x
    rw [liesBetween_eq, liesBetween_eq, r.holds_congr hv (r.reads_smaller hx hy) hsmaller rfl,
      r.holds_congr hv (r.reads_larger hx hy) hlarger rfl]
  between_eq := by
    intro hle
    have hsmaller := r.reads_smaller hx hy
    have hlarger := r.reads_larger hx hy
    rw [min_eq_left hle] at hsmaller
    rw [max_eq_right hle] at hlarger
    change liesBetween tolerance v x y = _
    rw [liesBetween_eq, r.holds_congr hv hsmaller hx rfl, r.holds_congr hv hlarger hy rfl]
  notBetween_eq := rfl
  one_operand := by
    intro how hhow other
    cases how
    case between | notBetween => cases hhow
    all_goals rfl

end Reading

end Reading

/-! ## 4. Exact numbers and doubles -/

/-- Exact numbers are near if their distance is less than the tolerance. -/
theorem near_iff_abs_sub_lt {tolerance a b : ℚ} :
    near tolerance a b = true ↔ |a - b| < tolerance := by
  rw [near, Bool.and_eq_true, decide_eq_true_iff, decide_eq_true_iff, abs_sub_lt_iff]

/-- **Exact numbers read as themselves.** -/
theorem reading_exact (tolerance : ℚ) :
    Reading (fun x p : ℚ => x = p) tolerance (0 < tolerance) where
  lt_iff := by
    rintro x y _ _ rfl rfl
    rfl
  le_self _ := le_rfl
  near_congr := by
    rintro x y z _ _ - rfl rfl
    rfl
  near_self := by
    rintro x y _ rfl rfl
    rw [near_iff_abs_sub_lt, sub_self, abs_zero]

/-- **Finite doubles read as the fractions that they denote,** whatever the tolerance. -/
theorem reading_doubles (tolerance : Float) : Reading Denotes tolerance (0 < tolerance) where
  lt_iff hx hy := hx.lt_iff hy
  le_self hx := (hx.le_iff hx).mpr le_rfl
  near_congr hx hy hz := by
    rw [near, near, decide_eq_decide.mpr (hx.sub_lt_congr hx hy hz tolerance),
      decide_eq_decide.mpr (hy.sub_lt_congr hz hx hx tolerance)]
  near_self hx hy := by
    rw [near, Bool.and_eq_true, decide_eq_true_iff, decide_eq_true_iff, hx.sub_lt_iff hy,
      hy.sub_lt_iff hx, and_self]

/-! ## 5. Rules -/

/-- What is coherent of numbers is coherent of formulas that have them for their values. -/
theorem Coherent.of_values {α β : Type} {holds : Comparison → α → Option α → Bool}
    {holds' : Comparison → β → Option β → Bool} {number : β → Option α} {x y : α} {f g : β}
    {v a b : ℚ} {reflexive : Prop} (hf : number f = some x) (hg : number g = some y)
    (h : ∀ how {e z} other, number e = some z →
      holds' how e other = holds how z (other.bind number))
    (c : Coherent holds x y v a b reflexive) : Coherent holds' f g v a b reflexive := by
  have hfirst (how : Comparison) : holds' how f none = holds how x none := h how none hf
  have hsecond (how : Comparison) : holds' how g none = holds how y none := h how none hg
  have hboth (how : Comparison) : holds' how f (some g) = holds how x (some y) :=
    (h how (some g) hf).trans (congrArg (holds how x) hg)
  have hturned (how : Comparison) : holds' how g (some f) = holds how y (some x) :=
    (h how (some f) hg).trans (congrArg (holds how y) hf)
  exact {
    exactly_one := by simpa only [hfirst] using c.exactly_one
    at_operand := by simpa only [hfirst] using c.at_operand
    notEqual_eq := by simpa only [hfirst] using c.notEqual_eq
    greaterOrEqual_eq := by simpa only [hfirst] using c.greaterOrEqual_eq
    lessOrEqual_eq := by simpa only [hfirst] using c.lessOrEqual_eq
    between_comm := by simpa only [hboth, hturned] using c.between_comm
    between_eq := by simpa only [hboth, hfirst, hsecond] using c.between_eq
    notBetween_eq := by simpa only [hboth] using c.notBetween_eq
    one_operand := fun how hhow other => by rw [h how other hf, hfirst, c.one_operand how hhow] }

end Spreadsheet.Conditional

namespace Spreadsheet.Workbook

open Grid Formula Conditional
open Decimal (Denotes)

/-- The value of a formula of a rule for a cell, if it is a number. -/
def ruleNumber? (wb : Workbook) (home : Key) (rows columns : Nat) (f : RuleFormula) :
    Option Float :=
  asNumber? (wb.ruleValue? home rows columns f)

/-- A rule compares the number in the cell with the values of its formulas, under the tolerance of
the workbook. -/
theorem conditionHolds_comparison {wb : Workbook} {home : Key} {rows columns : Nat} {x y : Float}
    {f : RuleFormula} (hvalue : (wb.value home).number? = some x)
    (hf : wb.ruleNumber? home rows columns f = some y) (how : Comparison)
    (second : Option RuleFormula) :
    wb.conditionHolds home rows columns (.comparison how f second) =
      how.holds wb.settings.tolerance x y (second.bind (wb.ruleNumber? home rows columns)) := by
  have hfirst : asNumber? (wb.ruleValue? home rows columns f) = some y := hf
  simp only [conditionHolds, hvalue, hfirst]
  rfl

/-- **Comparisons up to a tolerance are coherent** for all finite numbers: compared exactly,
compared as doubles, and in the rules of a workbook.  A number equals itself exactly if the
tolerance is above zero. -/
theorem comparisons_coherent {x y z : Float} {v a b : ℚ} (hx : Denotes x v) (hy : Denotes y a)
    (hz : Denotes z b) :
    (∀ tolerance : ℚ, Coherent (fun how first second => how.holds tolerance v first second)
      a b v a b (0 < tolerance)) ∧
    (∀ tolerance : Float, Coherent (fun how first second => how.holds tolerance x first second)
      y z v a b (0 < tolerance)) ∧
    ∀ (wb : Workbook) (home : Key) (rows columns : Nat) (f g : RuleFormula),
      (wb.value home).number? = some x → wb.ruleNumber? home rows columns f = some y →
      wb.ruleNumber? home rows columns g = some z →
      Coherent (fun how first second => wb.conditionHolds home rows columns
        (.comparison how first second)) f g v a b (0 < wb.settings.tolerance) := by
  refine ⟨fun tolerance => (reading_exact tolerance).coherent rfl rfl rfl,
    fun tolerance => (reading_doubles tolerance).coherent hx hy hz, ?_⟩
  intro wb home rows columns f g hvalue hf hg
  exact ((reading_doubles wb.settings.tolerance).coherent hx hy hz).of_values hf hg
    fun how _ _ other he => conditionHolds_comparison hvalue he how other

/-- A cell with five, compared with the bounds five and three. -/
theorem comparisons_coherent_five :
    let wb := ((Session.start {}).run [.setValue ⟨⟨0⟩, ⟨0, 0⟩⟩ (.number 5)]).workbook
    let home : Key := ⟨⟨0⟩, ⟨0, 0⟩⟩
    Denotes 5 5 ∧ Denotes 3 3 ∧
      Coherent (fun how first second => how.holds (0.5 : Float) 5 first second) 5 3 5 5 3
        ((0 : Float) < 0.5) ∧
      Coherent (fun how first second => wb.conditionHolds home 0 0 (.comparison how first second))
        (.ofText "=5") (.ofText "=3") 5 5 3 (0 < wb.settings.tolerance) := by
  intro wb home
  have hfive : Denotes 5 5 := Decimal.denotes_ofNat (n := 5) (by decide)
  have hthree : Denotes 3 3 := Decimal.denotes_ofNat (n := 3) (by decide)
  have hvalue : (wb.value home).number? = some 5 := by decide +kernel
  have hfirst : wb.ruleNumber? home 0 0 (.ofText "=5") = some 5 := by decide +kernel
  have hsecond : wb.ruleNumber? home 0 0 (.ofText "=3") = some 3 := by decide +kernel
  obtain ⟨-, hdoubles, hrules⟩ := comparisons_coherent hfive hfive hthree
  exact ⟨hfive, hthree, hdoubles 0.5, hrules wb home 0 0 _ _ hvalue hfirst hsecond⟩

/-- **Under a tolerance of zero no number equals itself:** five is neither less than five nor equal
to it nor greater, it is not at least and not at most five, and a rule for cells that are at least
five passes over a cell with five. -/
theorem own_bound_missed_without_tolerance :
    let wb := ((Session.start { tolerance := 0 }).run
      [.setValue ⟨⟨0⟩, ⟨0, 0⟩⟩ (.number 5)]).workbook
    [Comparison.less, .equal, .greater].countP (·.holds (0 : Float) 5 5 none) = 0 ∧
      Comparison.greaterOrEqual.holds (0 : Float) 5 5 none = false ∧
      Comparison.lessOrEqual.holds (0 : Float) 5 5 none = false ∧
      [Comparison.less, .equal, .greater].countP (·.holds (0 : ℚ) 5 5 none) = 0 ∧
      Comparison.greaterOrEqual.holds (0 : ℚ) 5 5 none = false ∧
      Comparison.lessOrEqual.holds (0 : ℚ) 5 5 none = false ∧
      (wb.value ⟨⟨0⟩, ⟨0, 0⟩⟩).number? = some 5 ∧
      wb.conditionHolds ⟨⟨0⟩, ⟨0, 0⟩⟩ 0 0 (.comparison .greaterOrEqual (.ofText "=5") none) =
        false := by
  refine ⟨?_, ?_, ?_, ?_, ?_, ?_, ?_, ?_⟩
  all_goals decide +kernel

end Spreadsheet.Workbook
