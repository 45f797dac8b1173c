/-
# Where numbers overflow

Sums, differences, products and powers are checked: one that is not finite is the error code
`#NUM!`.  Quotients, signs, percentages and the results of functions are not.

* A formula has *parts*, itself among them (`Expr.Part`).  A part *overflows* if it computes, out
  of finite values, what is not finite (`Overflows`); what it computes is said there case by case.
* A step: a part whose own parts have finite values has a finite value unless it overflows
  (`givesFinite_of_children`).  A part that overflows has none (`not_givesFinite_of_overflows`).
* So every part of a formula has a finite value if and only if no part overflows.  What overflows is
  caught by `IFERROR` if it is checked, and handed on if it is not (`givesFinite_iff`).
-/
import Spreadsheet.Proofs.Indirection
import Spreadsheet.Proofs.RoundedDoubles

namespace Spreadsheet.Formula

open Grid

/-! ## 1. Finite values -/

/-- **A value without numbers that are not finite.** -/
def Operand.IsFinite (v : Operand) : Prop := ∀ x, .number x ∈ v.flatten → x.isFinite = true

/-- **What ends with a finite value** if it ends with a value. -/
def GivesFinite (outcome : Outcome) : Prop := ∀ v, outcome = .ok v → v.IsFinite

/-- **A source without numbers that are not finite.** -/
def Source.IsFinite (source : Source) : Prop :=
  ∀ key x, source.value key = .number x → x.isFinite = true

@[simp] theorem Operand.isFinite_number {x : Float} :
    (Operand.number x).IsFinite ↔ x.isFinite = true := by
  constructor
  · exact fun h => h x (by simp [flatten])
  · rintro h y hy
    obtain rfl : y = x := by simpa [flatten] using hy
    exact h

@[simp] theorem Operand.isFinite_empty : Operand.empty.IsFinite := by
  simp [Operand.IsFinite, Operand.flatten]

@[simp] theorem Operand.isFinite_bool (b : Bool) : (Operand.bool b).IsFinite := by
  simp [Operand.IsFinite, Operand.flatten]

@[simp] theorem Operand.isFinite_text (s : String) : (Operand.text s).IsFinite := by
  simp [Operand.IsFinite, Operand.flatten]

@[simp] theorem Operand.isFinite_error (code : ErrorCode) : (Operand.error code).IsFinite := by
  simp [Operand.IsFinite, Operand.flatten]

@[simp] theorem givesFinite_ok {v : Operand} : GivesFinite (.ok v) ↔ v.IsFinite :=
  ⟨fun h => h v rfl, fun h _ heq => Except.ok.inj heq ▸ h⟩

@[simp] theorem givesFinite_error (fault : Fault) : GivesFinite (.error fault) := nofun

/-- Going on keeps a value finite if what goes on does, with whatever value it is given. -/
theorem GivesFinite.of_bind {α : Type} {x : Except Fault α} {f : α → Outcome}
    (h : ∀ a, x = .ok a → GivesFinite (f a)) : GivesFinite (x >>= f) := by
  cases x with
  | error fault => exact givesFinite_error fault
  | ok a => exact h a rfl

/-- **A finite value is read as a finite number,** unless it is a text. -/
theorem Operand.IsFinite.number? {v : Operand} {x : Float} (hv : v.IsFinite)
    (hx : v.number? = some x) : x.isFinite = true ∨ ∃ s, v = .text s := by
  cases v with
  | number y =>
    obtain rfl := Option.some.inj hx
    exact .inl (isFinite_number.mp hv)
  | bool b =>
    obtain rfl := Option.some.inj hx
    cases b <;> exact .inl rfl
  | empty =>
    obtain rfl := Option.some.inj hx
    exact .inl rfl
  | text s => exact .inr ⟨s, rfl⟩
  | error code => cases hx
  | array rows => cases hx

/-- What is read as a number is a single value and no error code. -/
theorem Operand.of_number? {v : Operand} {x : Float} (hx : v.number? = some x) :
    v.single = .ok v ∧ v.error? = none ∧ v.toNumber = .ok x := by
  refine ⟨?_, ?_, by rw [toNumber, hx]⟩ <;> cases v <;> first | rfl | cases hx

theorem Operand.toNumber_eq_ok_iff {v : Operand} {x : Float} :
    v.toNumber = .ok x ↔ v.number? = some x := by
  unfold toNumber
  cases v.number? <;> simp

theorem Operand.of_single {v w : Operand} (h : v.single = .ok w) : w = v := by
  cases v <;> cases h <;> rfl

/-! ## 2. Parts -/

/-- The formulas that a formula is made of. -/
def Expr.children : Expr → List Expr
  | .binary _ left right => [left, right]
  | .negate operand => [operand]
  | .percent operand => [operand]
  | .group inner => [inner]
  | .call _ args => args
  | .number _ | .text _ | .bool _ | .error _ | .ref _ _ | .name _ => []

/-- **The parts of a formula,** and the formula itself. -/
inductive Expr.Part : Expr → Expr → Prop where
  | self (e : Expr) : Part e e
  | inside {p c e : Expr} (hc : c ∈ e.children) (hp : Part p c) : Part p e

theorem Expr.sizeOf_lt_of_mem_children {c e : Expr} (hc : c ∈ e.children) : sizeOf c < sizeOf e := by
  cases e <;> simp only [children, List.not_mem_nil, List.mem_cons, or_false] at hc
  case binary => rcases hc with rfl | rfl <;> (rw [binary.sizeOf_spec]; omega)
  case negate | percent | group => subst hc; simp
  case call =>
    have := List.sizeOf_lt_of_mem hc
    simp
    omega

/-- What holds of a formula whenever it holds of the formulas that it is made of, holds of all. -/
theorem Expr.childrenInduction {P : Expr → Prop} (h : ∀ e, (∀ c ∈ e.children, P c) → P e)
    (e : Expr) : P e :=
  h e fun c _ => Expr.childrenInduction h c
termination_by sizeOf e
decreasing_by exact Expr.sizeOf_lt_of_mem_children ‹_›

theorem Expr.part_iff {p e : Expr} : p.Part e ↔ p = e ∨ ∃ c ∈ e.children, p.Part c := by
  constructor
  · rintro (_ | ⟨hc, hp⟩)
    · exact .inl rfl
    · exact .inr ⟨_, hc, hp⟩
  · rintro (rfl | ⟨c, hc, hp⟩)
    · exact .self p
    · exact .inside hc hp

theorem Expr.part_number {p : Expr} {x : Float} : p.Part (.number x) ↔ p = .number x := by
  simp [part_iff (e := .number x), children]

theorem Expr.part_binary {p left right : Expr} {op : BinaryOp} :
    p.Part (.binary op left right) ↔ p = .binary op left right ∨ p.Part left ∨ p.Part right := by
  rw [part_iff]
  simp [children]

theorem Expr.part_call {p : Expr} {called : String} {args : List Expr} :
    p.Part (.call called args) ↔ p = .call called args ∨ ∃ e ∈ args, p.Part e := by
  rw [part_iff]
  rfl

/-! ## 3. Overflows -/

/-- **What makes the result of a function infinite** when the values of its arguments are not: a
sum, a mean or a rounding that is not finite, and a text that is read as such a number. -/
inductive Exceeds : Function → List Operand → Prop where
  | sum {vs : List Operand} {xs : List Float} (hxs : collectNumbers vs = .ok xs)
      (h : (total xs).isFinite = false) : Exceeds .sum vs
  | average {vs : List Operand} {xs : List Float} (hxs : collectNumbers vs = .ok xs) (hne : xs ≠ [])
      (h : (total xs / Float.ofNat xs.length).isFinite = false) : Exceeds .average vs
  | minimum {vs : List Operand} {xs : List Float} {s : String} {x : Float}
      (hxs : collectNumbers vs = .ok xs) (hleast : Decimal.smallest? xs = some x)
      (hs : .text s ∈ vs) (hx : (Operand.text s).number? = some x) (h : x.isFinite = false) :
      Exceeds .minimum vs
  | maximum {vs : List Operand} {xs : List Float} {s : String} {x : Float}
      (hxs : collectNumbers vs = .ok xs) (hgreatest : Decimal.largest? xs = some x)
      (hs : .text s ∈ vs) (hx : (Operand.text s).number? = some x) (h : x.isFinite = false) :
      Exceeds .maximum vs
  | absolute {s : String} {x : Float} {more : List Operand}
      (hx : (Operand.text s).number? = some x) (h : x.isFinite = false) :
      Exceeds .absolute (.text s :: more)
  | round {v : Operand} {x : Float} (hx : v.number? = some x)
      (h : (roundAt x 0).isFinite = false) : Exceeds .round [v]
  | roundAt {v w : Operand} {x y : Float} {more : List Operand} (hx : v.number? = some x)
      (hy : w.number? = some y)
      (h : (roundAt x (Decimal.clampedWhole (-2147483648) 2147483647 y)).isFinite = false) :
      Exceeds .round (v :: w :: more)

/-- **What a count can give that is not finite:** the double of a number that no word holds, or of
the one before it. -/
def Uncounted (z : Float) : Prop :=
  z.isFinite = false ∧
    ((∃ n : Nat, 2 ^ 64 ≤ n ∧ z = Float.ofNat n) ∨ ∃ n : Nat, 2 ^ 53 ≤ n ∧ z = Float.ofNat n + 1.0)

/-- **A formula that computes a number that is not finite** out of finite values: by a quotient, by
a sign or a percent sign behind a text that is read as such a number, by a function, or by counting
beyond all words. -/
inductive Overflows (ctx : Context) : Expr → Prop where
  | quotient {left right : Expr} {v w : Operand} {x y : Float} (hv : evaluate ctx left = .ok v)
      (hw : evaluate ctx right = .ok w) (hx : v.number? = some x) (hy : w.number? = some y)
      (hzero : (y == 0.0) = false) (h : (x / y).isFinite = false) :
      Overflows ctx (.binary .divide left right)
  | sign {operand : Expr} {s : String} {x : Float} (hs : evaluate ctx operand = .ok (.text s))
      (hx : (Operand.text s).number? = some x) (h : x.isFinite = false) :
      Overflows ctx (.negate operand)
  | percent {operand : Expr} {s : String} {x : Float} (hs : evaluate ctx operand = .ok (.text s))
      (hx : (Operand.text s).number? = some x) (h : x.isFinite = false) :
      Overflows ctx (.percent operand)
  | call {called : String} {args : List Expr} {f : Function} {vs : List Operand}
      (hf : Function.find? called = some f) (hcount : f.checkCount called args.length = .ok ())
      (hargs : args.map (evaluate ctx) = vs.map .ok) (h : Exceeds f vs) :
      Overflows ctx (.call called args)
  | counted {called : String} {args : List Expr} {f : Function} {z : Float}
      (hf : Function.find? called = some f) (hcounts : f ∈ [.count, .length, .row, .column])
      (hz : evaluate ctx (.call called args) = .ok (.number z)) (h : Uncounted z) :
      Overflows ctx (.call called args)

/-! ## 4. Operators -/

/-- **A checked number is finite.** -/
theorem isFinite_computed (x : Float) : (computed x).IsFinite := by
  unfold computed
  split
  · exact Operand.isFinite_number.mpr ‹_›
  · exact Operand.isFinite_error _

theorem onNumbers_of_number? {v w : Operand} {x y : Float} (hx : v.number? = some x)
    (hy : w.number? = some y) (f : Float → Float → Operand) : onNumbers v w f = .ok (f x y) := by
  rw [onNumbers, (Operand.of_number? hx).2.2, (Operand.of_number? hy).2.2]
  rfl

/-- An operator on operands that are read as numbers combines them. -/
theorem applyBinary_of_number? {v w : Operand} {x y : Float} (hx : v.number? = some x)
    (hy : w.number? = some y) (op : BinaryOp) :
    applyBinary op (.ok v) (.ok w) = combine op v w := by
  obtain ⟨hv, hvNone, -⟩ := Operand.of_number? hx
  obtain ⟨hw, hwNone, -⟩ := Operand.of_number? hy
  simp only [applyBinary, bind, Except.bind, hv, hw, hvNone, hwNone]

theorem applySign_of_number? {v : Operand} {x : Float} (hx : v.number? = some x)
    (f : Float → Float) : applySign (.ok v) f = .ok (.number (f x)) := by
  obtain ⟨hv, hnone, hnumber⟩ := Operand.of_number? hx
  simp only [applySign, bind, Except.bind, hv, hnone, hnumber]
  rfl

/-- **An operator gives a finite value** unless it is a quotient that is not. -/
theorem givesFinite_applyBinary {op : BinaryOp} {left right : Outcome}
    (h : ∀ v w x y, left = .ok v → right = .ok w → v.number? = some x → w.number? = some y →
      op = .divide → (y == 0.0) = false → (x / y).isFinite = true) :
    GivesFinite (applyBinary op left right) := by
  refine .of_bind fun v hleft => .of_bind fun v' hv => ?_
  refine .of_bind fun w hright => .of_bind fun w' hw => ?_
  obtain rfl := Operand.of_single hv
  obtain rfl := Operand.of_single hw
  have honNumbers {f : Float → Float → Operand}
      (hf : ∀ x y, v'.number? = some x → w'.number? = some y → (f x y).IsFinite) :
      GivesFinite (onNumbers v' w' f) := by
    refine .of_bind fun x hx => .of_bind fun y hy => ?_
    exact givesFinite_ok.mpr
      (hf x y (Operand.toNumber_eq_ok_iff.mp hx) (Operand.toNumber_eq_ok_iff.mp hy))
  split
  · exact givesFinite_ok.mpr (Operand.isFinite_error _)
  · exact givesFinite_ok.mpr (Operand.isFinite_error _)
  · cases op with
    | add | subtract | multiply | power => exact honNumbers fun x y _ _ => isFinite_computed _
    | divide =>
      refine honNumbers fun x y hx hy => ?_
      split
      · exact Operand.isFinite_error _
      · rename_i hzero
        exact Operand.isFinite_number.mpr
          (h v' w' x y hleft hright hx hy rfl (Bool.eq_false_of_not_eq_true hzero))
    | equal | notEqual | less | lessOrEqual | greater | greaterOrEqual | join =>
      simp [combine]

/-- **A sign gives a finite value** unless it stands before a text that is read as a number which is
not. -/
theorem givesFinite_applySign {operand : Outcome} {f : Float → Float}
    (hf : ∀ x, (f x).isFinite = x.isFinite) (hoperand : GivesFinite operand)
    (h : ∀ s x, operand = .ok (.text s) → (Operand.text s).number? = some x → x.isFinite = true) :
    GivesFinite (applySign operand f) := by
  refine .of_bind fun v hv => .of_bind fun v' hsingle => ?_
  obtain rfl := Operand.of_single hsingle
  split
  · exact givesFinite_ok.mpr (Operand.isFinite_error _)
  · refine .of_bind fun x hx => ?_
    have hx := Operand.toNumber_eq_ok_iff.mp hx
    refine givesFinite_ok.mpr (Operand.isFinite_number.mpr ?_)
    rw [hf]
    rcases (hoperand v' hv).number? hx with hfinite | ⟨s, rfl⟩
    · exact hfinite
    · exact h s x hv hx

/-! ## 5. References -/

section References

variable {ctx : Context} (hsource : ctx.source.IsFinite)

include hsource

theorem isFinite_cell (sheet : SheetId) (spot : Spot) : (ctx.cell sheet spot).IsFinite := by
  unfold Context.cell
  cases hvalue : ctx.source.value ⟨sheet, spot⟩ with
  | number x => exact Operand.isFinite_number.mpr (hsource _ x hvalue)
  | empty => exact Operand.isFinite_empty
  | bool b => exact Operand.isFinite_bool b
  | text s => exact Operand.isFinite_text s
  | error code => exact Operand.isFinite_error code

/-- The values of a range are finite as each of them is. -/
theorem isFinite_values (sheet : SheetId) (range : Range) : (ctx.values sheet range).IsFinite := by
  unfold Context.values
  split
  · exact isFinite_cell hsource sheet _
  · intro x hx
    simp only [Operand.flatten, List.mem_flatten, List.mem_map] at hx
    obtain ⟨_, ⟨row, -, rfl⟩, hx⟩ := hx
    obtain ⟨col, -, hcell⟩ := List.mem_map.mp hx
    have hfinite := isFinite_cell hsource sheet ⟨row, col⟩
    rw [hcell] at hfinite
    exact Operand.isFinite_number.mp hfinite

theorem isFinite_reference (sheet : Option String) (target : Reference) :
    (ctx.reference sheet target).IsFinite := by
  unfold Context.reference
  split
  · exact Operand.isFinite_error _
  · split
    · exact isFinite_cell hsource _ _
    · exact isFinite_values hsource _ _

/-- **Text that names a reference has its value.** -/
theorem givesFinite_indirectly (args : List Operand) : GivesFinite (indirectly ctx args) := by
  unfold indirectly
  split
  · simp
  · refine .of_bind fun inLetters _ => ?_
    split
    · exact givesFinite_ok.mpr (Operand.isFinite_error _)
    · split
      · exact givesFinite_ok.mpr (isFinite_reference hsource _ _)
      · split
        · exact givesFinite_ok.mpr (isFinite_values hsource _ _)
        · exact givesFinite_ok.mpr (Operand.isFinite_error _)
      · exact givesFinite_ok.mpr (Operand.isFinite_error _)
  · simp

end References

/-! ## 6. Functions of values -/

/-- **A number that is collected is finite,** or the reading of a text. -/
theorem isFinite_of_mem_collectNumbers {vs : List Operand} {xs : List Float} {x : Float}
    (hvs : ∀ v ∈ vs, v.IsFinite) (hxs : collectNumbers vs = .ok xs) (hx : x ∈ xs) :
    x.isFinite = true ∨ ∃ s, .text s ∈ vs ∧ (Operand.text s).number? = some x := by
  obtain ⟨yss, hyss, hxs⟩ := bind_eq_ok_iff.mp hxs
  obtain rfl := Except.ok.inj hxs
  obtain ⟨ys, hys, hx⟩ := List.mem_flatten.mp hx
  obtain ⟨v, hv, hys⟩ := (mem_mapM_iff hyss).mp hys
  have hread {w : Operand} (hw : w ∈ vs) (hwx : w.number? = some x) :
      x.isFinite = true ∨ ∃ s, .text s ∈ vs ∧ (Operand.text s).number? = some x := by
    rcases (hvs w hw).number? hwx with hfinite | ⟨s, rfl⟩
    · exact .inl hfinite
    · exact .inr ⟨s, hw, hwx⟩
  unfold numbersOf at hys
  split at hys
  · rename_i rows
    obtain ⟨zss, hzss, hys⟩ := bind_eq_ok_iff.mp hys
    obtain rfl := Except.ok.inj hys
    obtain ⟨zs, hzs, hx⟩ := List.mem_flatten.mp hx
    obtain ⟨w, hw, hzs⟩ := (mem_mapM_iff hzss).mp hzs
    cases w with
    | number z =>
      obtain rfl := Except.ok.inj hzs
      obtain rfl := List.mem_singleton.mp hx
      exact .inl (hvs _ hv x hw)
    | error code => cases hzs
    | empty | bool b | text s | array rows =>
      obtain rfl := Except.ok.inj hzs
      cases hx
  · cases hys
  · obtain rfl := Except.ok.inj hys
    cases hx
  · split at hys
    · rename_i z hz
      obtain rfl := Except.ok.inj hys
      obtain rfl := List.mem_singleton.mp hx
      exact hread hv hz
    · cases hys

/-- What is chosen from numbers one after the other is one of them. -/
theorem foldl_mem {α : Type} {choose : α → α → α} (h : ∀ a b, choose a b = a ∨ choose a b = b) :
    ∀ (xs : List α) (a : α), xs.foldl choose a ∈ a :: xs
  | [], a => List.mem_singleton.mpr rfl
  | x :: xs, a => by
    rcases List.mem_cons.mp (foldl_mem h xs (choose a x)) with heq | hmem
    · rw [List.foldl_cons, heq]
      rcases h a x with heq | heq <;> simp [heq]
    · exact List.mem_cons_of_mem _ (List.mem_cons_of_mem _ hmem)

theorem mem_of_smallest? {xs : List Float} {x : Float} (h : Decimal.smallest? xs = some x) :
    x ∈ xs := by
  cases xs with
  | nil => cases h
  | cons y ys =>
    obtain rfl := Option.some.inj h
    refine foldl_mem (fun a b => ?_) ys y
    unfold Decimal.smaller
    split
    · split <;> simp
    · simp

theorem mem_of_largest? {xs : List Float} {x : Float} (h : Decimal.largest? xs = some x) :
    x ∈ xs := by
  cases xs with
  | nil => cases h
  | cons y ys =>
    obtain rfl := Option.some.inj h
    refine foldl_mem (fun a b => ?_) ys y
    unfold Decimal.larger
    split
    · split <;> simp
    · simp

theorem isFinite_aggregate {vs : List Operand} {f : List Float → Operand}
    (h : ∀ xs, collectNumbers vs = .ok xs → (f xs).IsFinite) : (aggregate vs f).IsFinite := by
  unfold aggregate
  split
  · exact h _ ‹_›
  · exact Operand.isFinite_error _

theorem givesFinite_onNumber {v : Operand} {f : Float → Outcome}
    (h : ∀ x, v.number? = some x → GivesFinite (f x)) : GivesFinite (onNumber v f) := by
  unfold onNumber
  split
  · simp
  · exact .of_bind fun x hx => h x (Operand.toNumber_eq_ok_iff.mp hx)

theorem onNumber_of_number? {v : Operand} {x : Float} (hx : v.number? = some x)
    (f : Float → Outcome) : onNumber v f = f x := by
  have hnumber := (Operand.of_number? hx).2.2
  unfold onNumber
  split
  · cases hx
  · rw [hnumber]
    rfl

theorem givesFinite_onText {v : Operand} {f : String → Operand}
    (h : onText v f = .ok (f v.shown) → (f v.shown).IsFinite) : GivesFinite (onText v f) := by
  cases v with
  | error code => simp [onText]
  | array rows => simp [onText]
  | empty | bool b | number x | text s => exact givesFinite_ok.mpr (h rfl)

theorem givesFinite_joinTexts : ∀ (args : List Operand) (done : String),
    GivesFinite (joinTexts done args)
  | [], _ => by simp [joinTexts]
  | v :: rest, done => by
    unfold joinTexts
    split
    · simp
    · simp
    · simp
    · rename_i hv
      obtain ⟨rfl, rfl⟩ := List.cons.inj hv
      exact givesFinite_joinTexts rest _

theorem givesFinite_decideAll (args : List Operand) (f : List Bool → Bool) :
    GivesFinite (decideAll args f) := by
  intro v hv
  obtain ⟨bs, -, rfl⟩ := map_eq_ok_iff.mp hv
  cases bs with
  | error code => exact Operand.isFinite_error code
  | ok bs =>
    dsimp only
    split <;> simp

theorem givesFinite_addressOf (args : List Operand) : GivesFinite (addressOf args) := by
  unfold addressOf
  split
  · simp
  · refine .of_bind fun row _ => .of_bind fun col _ => .of_bind fun kind _ =>
      .of_bind fun inLetters _ => ?_
    split
    · exact givesFinite_ok.mpr (Operand.isFinite_error _)
    · exact givesFinite_ok.mpr (Operand.isFinite_text _)

/-- **A count is finite** unless it is beyond all words. -/
theorem isFinite_count {n : Nat} (h : ¬ Uncounted (Float.ofNat n)) :
    (Operand.number (Float.ofNat n)).IsFinite := by
  refine Operand.isFinite_number.mpr (by_contra fun hinfinite => h ?_)
  refine ⟨Bool.eq_false_of_not_eq_true hinfinite, .inl ⟨n, ?_, rfl⟩⟩
  exact Nat.not_lt.mp fun hlt => hinfinite (Decimal.isFinite_ofNat hlt)

/-- **What a function makes of finite values is finite** unless it exceeds them. -/
theorem givesFinite_applyToValues {ctx : Context} (hsource : ctx.source.IsFinite) {f : Function}
    {vs : List Operand} (hvs : ∀ v ∈ vs, v.IsFinite) (hexceeds : ¬ Exceeds f vs)
    (hcounted : f ∈ [.count, .length] → ∀ z, applyToValues ctx f vs = .ok (.number z) →
      ¬ Uncounted z) :
    GivesFinite (applyToValues ctx f vs) := by
  have hfinite {x : Float} (h : ¬ x.isFinite = false) : (Operand.number x).IsFinite :=
    Operand.isFinite_number.mpr (Bool.eq_true_of_not_eq_false h)
  have hcollected {xs : List Float} {x : Float} (hxs : collectNumbers vs = .ok xs) (hx : x ∈ xs)
      (htext : ∀ s, .text s ∈ vs → (Operand.text s).number? = some x → ¬ x.isFinite = false) :
      (Operand.number x).IsFinite := by
    rcases isFinite_of_mem_collectNumbers hvs hxs hx with hfinite' | ⟨s, hs, hread⟩
    · exact Operand.isFinite_number.mpr hfinite'
    · exact hfinite (htext s hs hread)
  unfold applyToValues
  split
  case h_1 =>
    refine givesFinite_ok.mpr (isFinite_aggregate fun xs hxs => hfinite fun h => ?_)
    exact hexceeds (.sum hxs h)
  case h_2 =>
    refine givesFinite_ok.mpr (isFinite_aggregate fun xs hxs => ?_)
    unfold mean
    split
    · exact Operand.isFinite_error _
    · rename_i hne
      exact hfinite fun h => hexceeds (.average hxs (fun heq => hne (heq ▸ rfl)) h)
  case h_3 =>
    refine givesFinite_ok.mpr (isFinite_aggregate fun xs hxs => ?_)
    cases hleast : Decimal.smallest? xs with
    | none => exact Operand.isFinite_number.mpr rfl
    | some x =>
      refine hcollected hxs (mem_of_smallest? hleast) fun s hs hread h => ?_
      exact hexceeds (.minimum hxs hleast hs hread h)
  case h_4 =>
    refine givesFinite_ok.mpr (isFinite_aggregate fun xs hxs => ?_)
    cases hgreatest : Decimal.largest? xs with
    | none => exact Operand.isFinite_number.mpr rfl
    | some x =>
      refine hcollected hxs (mem_of_largest? hgreatest) fun s hs hread h => ?_
      exact hexceeds (.maximum hxs hgreatest hs hread h)
  case h_5 => exact givesFinite_ok.mpr (isFinite_count (hcounted (by simp) _ rfl))
  case h_6 v more =>
    refine givesFinite_onNumber fun x hx => givesFinite_ok.mpr (hfinite fun h => ?_)
    rw [Decimal.isFinite_abs] at h
    rcases (hvs v List.mem_cons_self).number? hx with hv | ⟨s, rfl⟩
    · rw [hv] at h
      cases h
    · exact hexceeds (.absolute hx h)
  case h_7 =>
    refine givesFinite_onNumber fun x hx => givesFinite_ok.mpr (hfinite fun h => ?_)
    exact hexceeds (.round hx h)
  case h_8 =>
    refine givesFinite_onNumber fun x hx => givesFinite_onNumber fun y hy => ?_
    exact givesFinite_ok.mpr (hfinite fun h => hexceeds (.roundAt hx hy h))
  case h_9 | h_10 => exact givesFinite_decideAll _ _
  case h_12 =>
    intro v hv
    obtain ⟨b, -, rfl⟩ := map_eq_ok_iff.mp hv
    exact Operand.isFinite_bool _
  case h_13 => exact givesFinite_joinTexts _ _
  case h_14 => exact givesFinite_onText fun hlength => isFinite_count (hcounted (by simp) _ hlength)
  case h_15 | h_16 => exact givesFinite_onText fun _ => Operand.isFinite_text _
  case h_19 => exact givesFinite_addressOf _
  case h_20 => exact givesFinite_indirectly hsource _
  all_goals simp

/-! ## 7. Calls -/

/-- The outcomes of arguments are those of the formulas that they are. -/
theorem mem_evaluateAll {ctx : Context} {outcome : Thunk Outcome} : ∀ {args : List Expr},
    outcome ∈ evaluateAll ctx args → ∃ e ∈ args, outcome.get = evaluate ctx e
  | [], h => by simp [evaluateAll] at h
  | e :: rest, h => by
    rw [evaluateAll] at h
    rcases List.mem_cons.mp h with rfl | h
    · exact ⟨e, List.mem_cons_self, rfl⟩
    · obtain ⟨e', he', heq⟩ := mem_evaluateAll h
      exact ⟨e', List.mem_cons_of_mem _ he', heq⟩

/-- Arguments have the values that are given to their function. -/
theorem map_evaluate_of_mapM {ctx : Context} : ∀ {args : List Expr} {vs : List Operand},
    (evaluateAll ctx args).mapM Thunk.get = .ok vs → args.map (evaluate ctx) = vs.map .ok
  | [], vs, h => by
    obtain rfl : [] = vs := by simpa [evaluateAll, pure, Except.pure] using h
    rfl
  | e :: rest, vs, h => by
    rw [evaluateAll, List.mapM_cons] at h
    obtain ⟨v, hv, h⟩ := bind_eq_ok_iff.mp h
    obtain ⟨more, hmore, h⟩ := bind_eq_ok_iff.mp h
    obtain rfl : v :: more = vs := by simpa [pure, Except.pure] using h
    rw [List.map_cons, List.map_cons, map_evaluate_of_mapM hmore]
    exact congrArg (· :: _) hv

section Calls

variable {ctx : Context} {outcomes : List (Thunk Outcome)}

theorem givesFinite_chooseBranch (h : ∀ outcome ∈ outcomes, GivesFinite outcome.get) :
    GivesFinite (chooseBranch outcomes) := by
  unfold chooseBranch
  split
  · simp
  · refine .of_bind fun v _ => ?_
    split
    · exact givesFinite_ok.mpr (Operand.isFinite_error _)
    · refine .of_bind fun b _ => ?_
      split
      · rename_i branch hbranch
        exact h branch (List.mem_cons_of_mem _ (List.mem_of_getElem? hbranch))
      · exact givesFinite_ok.mpr (Operand.isFinite_bool _)

theorem givesFinite_orFallback (h : ∀ outcome ∈ outcomes, GivesFinite outcome.get) :
    GivesFinite (orFallback outcomes) := by
  unfold orFallback
  split
  · rename_i first fallback more
    have hfallback : GivesFinite fallback.get := h fallback (by simp)
    split
    · rename_i v hv
      split
      · exact hfallback
      · rw [← hv]
        exact h first (by simp)
    · simp
    · exact hfallback
  · simp

/-- **The number of a line is finite** unless it is beyond all words. -/
theorem givesFinite_lineNumber {args : List Expr} {line : Spot → Nat}
    (h : ∀ z, lineNumber ctx args line = .ok (.number z) → ¬ Uncounted z) :
    GivesFinite (lineNumber ctx args line) := by
  have hline {n : Nat} (h : ¬ Uncounted (Float.ofNat n + 1.0)) :
      (Operand.number (Float.ofNat n + 1.0)).IsFinite := by
    refine Operand.isFinite_number.mpr (by_contra fun hinfinite => h ?_)
    refine ⟨Bool.eq_false_of_not_eq_true hinfinite, .inr ⟨n, ?_, rfl⟩⟩
    exact Nat.not_lt.mp fun hlt => hinfinite (Decimal.isFinite_ofNat_add_one hlt)
  intro v hv
  cases args with
  | nil =>
    obtain rfl := Except.ok.inj hv
    exact hline (h _ rfl)
  | cons e rest =>
    obtain ⟨range, -, rfl⟩ := map_eq_ok_iff.mp hv
    exact hline (h _ hv)

/-- **A call whose arguments have finite values has a finite value** unless it overflows. -/
theorem givesFinite_call (hsource : ctx.source.IsFinite) {called : String} {args : List Expr}
    (hargs : ∀ e ∈ args, GivesFinite (evaluate ctx e)) (h : ¬ Overflows ctx (.call called args)) :
    GivesFinite (evaluate ctx (.call called args)) := by
  have houtcomes : ∀ outcome ∈ evaluateAll ctx args, GivesFinite outcome.get := by
    intro outcome houtcome
    obtain ⟨e, he, heq⟩ := mem_evaluateAll houtcome
    rw [heq]
    exact hargs e he
  cases hf : Function.find? called with
  | none => simp [evaluate, applyCall, hf]
  | some f =>
    have hcall : evaluate ctx (.call called args) =
        (do f.checkCount called args.length; applyFunction ctx f args (evaluateAll ctx args)) := by
      rw [evaluate, applyCall, hf]
    have hcounted (hcounts : f ∈ [.count, .length, .row, .column]) (z : Float)
        (hz : evaluate ctx (.call called args) = .ok (.number z)) : ¬ Uncounted z :=
      fun hbeyond => h (.counted hf hcounts hz hbeyond)
    rw [hcall] at hcounted ⊢
    refine .of_bind fun _ hcount => ?_
    rw [hcount] at hcounted
    change ∀ _ z, applyFunction ctx f args (evaluateAll ctx args) = _ → _ at hcounted
    unfold applyFunction at hcounted ⊢
    split at hcounted
    · exact givesFinite_chooseBranch houtcomes
    · exact givesFinite_orFallback houtcomes
    · exact givesFinite_lineNumber (hcounted (by simp))
    · exact givesFinite_lineNumber (hcounted (by simp))
    · refine .of_bind fun vs hvs => givesFinite_applyToValues hsource (fun v hv => ?_) ?_ ?_
      · obtain ⟨outcome, houtcome, hv⟩ := (mem_mapM_iff hvs).mp hv
        exact houtcomes outcome houtcome v hv
      · exact fun hexceeds => h (.call hf hcount (map_evaluate_of_mapM hvs) hexceeds)
      · intro hcounts z hz
        refine hcounted (List.mem_append_left [Function.row, Function.column] hcounts) z ?_
        rw [hvs]
        exact hz

end Calls

/-! ## 8. Formulas -/

variable {ctx : Context}

/-- **A formula made of formulas with finite values has a finite value** unless it overflows. -/
theorem givesFinite_of_children (hsource : ctx.source.IsFinite) {e : Expr}
    (hnumber : ∀ x, e = .number x → x.isFinite = true)
    (hchildren : ∀ c ∈ e.children, GivesFinite (evaluate ctx c)) (h : ¬ Overflows ctx e) :
    GivesFinite (evaluate ctx e) := by
  cases e with
  | number x => simpa [evaluate] using hnumber x rfl
  | text s => simp [evaluate]
  | bool b => simp [evaluate]
  | error code => simp [evaluate]
  | ref sheet target => exact givesFinite_ok.mpr (isFinite_reference hsource sheet target)
  | name s =>
    rw [evaluate]
    split
    · exact givesFinite_ok.mpr (isFinite_values hsource _ _)
    · exact givesFinite_error _
  | binary op left right =>
    rw [evaluate]
    refine givesFinite_applyBinary fun v w x y hv hw hx hy hop hzero => ?_
    subst hop
    exact Bool.eq_true_of_not_eq_false fun hfinite => h (.quotient hv hw hx hy hzero hfinite)
  | negate operand =>
    rw [evaluate]
    refine givesFinite_applySign Decimal.isFinite_neg (hchildren operand (by simp [Expr.children]))
      fun s x hs hx => ?_
    exact Bool.eq_true_of_not_eq_false fun hfinite => h (.sign hs hx hfinite)
  | percent operand =>
    rw [evaluate]
    refine givesFinite_applySign Decimal.isFinite_div_hundred
      (hchildren operand (by simp [Expr.children])) fun s x hs hx => ?_
    exact Bool.eq_true_of_not_eq_false fun hfinite => h (.percent hs hx hfinite)
  | group inner =>
    rw [evaluate]
    exact hchildren inner (by simp [Expr.children])
  | call called args => exact givesFinite_call hsource hchildren h

/-- What exceeds is the result. -/
theorem applyToValues_of_exceeds (ctx : Context) {f : Function} {vs : List Operand} (h : Exceeds f vs) :
    f.isLazy = false ∧
      ∃ z : Float, applyToValues ctx f vs = .ok (.number z) ∧ z.isFinite = false := by
  have haggregate {xs : List Float} (hxs : collectNumbers vs = .ok xs) (g : List Float → Operand) :
      aggregate vs g = g xs := by
    rw [aggregate, hxs]
  cases h with
  | sum hxs h => exact ⟨rfl, _, congrArg Except.ok (haggregate hxs _), h⟩
  | average hxs hne h =>
    refine ⟨rfl, _, congrArg Except.ok ((haggregate hxs mean).trans ?_), h⟩
    rw [mean, if_neg (by simpa using hne)]
  | minimum hxs hleast hs hx h =>
    refine ⟨rfl, _, congrArg Except.ok ((haggregate hxs _).trans ?_), h⟩
    rw [hleast]
    rfl
  | maximum hxs hgreatest hs hx h =>
    refine ⟨rfl, _, congrArg Except.ok ((haggregate hxs _).trans ?_), h⟩
    rw [hgreatest]
    rfl
  | absolute hx h =>
    exact ⟨rfl, _, onNumber_of_number? hx _, (Decimal.isFinite_abs _).trans h⟩
  | round hx h => exact ⟨rfl, _, onNumber_of_number? hx _, h⟩
  | roundAt hx hy h =>
    exact ⟨rfl, _, (onNumber_of_number? hx _).trans (onNumber_of_number? hy _), h⟩

/-- **What overflows has a value that is not finite.** -/
theorem not_givesFinite_of_overflows {e : Expr} (h : Overflows ctx e) :
    ¬ GivesFinite (evaluate ctx e) := by
  have hnot {x : Float} (hx : x.isFinite = false) : ¬ GivesFinite (.ok (.number x)) := by
    simp [hx]
  cases h with
  | quotient hv hw hx hy hzero h =>
    rw [evaluate, hv, hw, applyBinary_of_number? hx hy, combine, onNumbers_of_number? hx hy, hzero]
    exact hnot h
  | sign hs hx h =>
    rw [evaluate, hs, applySign_of_number? hx]
    exact hnot ((Decimal.isFinite_neg _).trans h)
  | percent hs hx h =>
    rw [evaluate, hs, applySign_of_number? hx]
    exact hnot ((Decimal.isFinite_div_hundred _).trans h)
  | call hf hcount hargs h =>
    obtain ⟨hlazy, z, hz, hfinite⟩ := applyToValues_of_exceeds ctx h
    rw [evaluate_call hf hcount hlazy hargs, hz]
    exact hnot hfinite
  | counted hf hcounts hz h =>
    rw [hz]
    exact hnot h.1

/-- **All parts have finite values if and only if none overflows.** -/
theorem givesFinite_parts_iff (hsource : ctx.source.IsFinite) {e : Expr}
    (hnumbers : ∀ x, (Expr.number x).Part e → x.isFinite = true) :
    (∀ p, p.Part e → GivesFinite (evaluate ctx p)) ↔ ∀ p, p.Part e → ¬ Overflows ctx p := by
  refine ⟨fun h p hp hover => not_givesFinite_of_overflows hover (h p hp), fun h => ?_⟩
  induction e using Expr.childrenInduction with
  | h e ih =>
    have hinside {c : Expr} (hc : c ∈ e.children) (p : Expr) (hp : p.Part c) :
        GivesFinite (evaluate ctx p) :=
      ih c hc (fun x hx => hnumbers x (.inside hc hx)) (fun q hq => h q (.inside hc hq)) p hp
    rintro p (_ | ⟨hc, hp⟩)
    · refine givesFinite_of_children hsource ?_ (fun c hc => hinside hc c (.self c)) (h e (.self e))
      rintro x rfl
      exact hnumbers x (.self _)
    · exact hinside hc p hp

/-! ## 9. Fall-backs -/

/-- The number that an operator computes from two numbers. -/
def BinaryOp.result? : BinaryOp → Float → Float → Option Float
  | .add, x, y => some (x + y)
  | .subtract, x, y => some (x - y)
  | .multiply, x, y => some (x * y)
  | .divide, x, y => if y == 0.0 then none else some (x / y)
  | .power, x, y => some (Float.pow x y)
  | _, _, _ => none

/-- **The value of a formula is caught** by a fall-back: it is the error code `#NUM!`. -/
def IsCaught (ctx : Context) (e : Expr) : Prop :=
  evaluate ctx e = .ok (.error .num) ∧
    ∀ fallback, evaluate ctx (.call "IFERROR" [e, fallback]) = evaluate ctx fallback

/-- **A number is handed on** by a formula, and by a fall-back for it. -/
def HandsOn (ctx : Context) (e : Expr) (z : Float) : Prop :=
  evaluate ctx e = .ok (.number z) ∧
    ∀ fallback, evaluate ctx (.call "IFERROR" [e, fallback]) = .ok (.number z)

/-- A fall-back looks at nothing but the outcome that it is for. -/
theorem orFallback_of_ok {first fallback : Thunk Outcome} {rest : List (Thunk Outcome)}
    {v : Operand} (h : first.get = .ok v) : orFallback (first :: fallback :: rest) =
      if v.error?.isSome then fallback.get else .ok v := by
  rw [orFallback, h]

theorem evaluate_ifError {e : Expr} {v : Operand} (hv : evaluate ctx e = .ok v) (fallback : Expr) :
    evaluate ctx (.call "IFERROR" [e, fallback]) =
      if v.error?.isSome then evaluate ctx fallback else .ok v := by
  have hcall : evaluate ctx (.call "IFERROR" [e, fallback]) =
      orFallback (evaluateAll ctx [e, fallback]) := by
    rw [evaluate]
    rfl
  rw [hcall, evaluateAll, evaluateAll]
  exact orFallback_of_ok hv

theorem isCaught_of_evaluate {e : Expr} (h : evaluate ctx e = .ok (.error .num)) : IsCaught ctx e :=
  ⟨h, fun fallback => evaluate_ifError h fallback⟩

theorem handsOn_of_evaluate {e : Expr} {z : Float} (h : evaluate ctx e = .ok (.number z)) :
    HandsOn ctx e z :=
  ⟨h, fun fallback => evaluate_ifError h fallback⟩

/-- **A sum, a difference, a product and a power are caught** where they are not finite; a quotient
is handed on. -/
theorem evaluate_binary_of_result? (op : BinaryOp) {left right : Expr} {v w : Operand}
    {x y z : Float} (hv : evaluate ctx left = .ok v) (hw : evaluate ctx right = .ok w)
    (hx : v.number? = some x) (hy : w.number? = some y) (hz : op.result? x y = some z)
    (h : z.isFinite = false) :
    if op = .divide then HandsOn ctx (.binary op left right) z
    else IsCaught ctx (.binary op left right) := by
  have hvalue : evaluate ctx (.binary op left right) = combine op v w := by
    rw [evaluate, hv, hw, applyBinary_of_number? hx hy]
  have hchecked (f : Float → Float → Float) (hf : f x y = z) :
      onNumbers v w (fun x y => computed (f x y)) = .ok (.error .num) := by
    rw [onNumbers_of_number? hx hy, hf, computed, h]
    rfl
  cases op with
  | add | subtract | multiply | power =>
    exact isCaught_of_evaluate (hvalue.trans (hchecked _ (Option.some.inj hz)))
  | divide =>
    refine handsOn_of_evaluate (hvalue.trans ((onNumbers_of_number? hx hy _).trans ?_))
    rw [BinaryOp.result?] at hz
    split at hz
    · cases hz
    · rename_i hzero
      rw [if_neg hzero, Option.some.inj hz]
  | equal | notEqual | less | lessOrEqual | greater | greaterOrEqual | join => cases hz

/-- **A sum and a mean are handed on,** finite or not. -/
theorem handsOn_aggregates {args : List Expr} {vs : List Operand} {xs : List Float}
    (hne : args ≠ []) (hargs : args.map (evaluate ctx) = vs.map .ok)
    (hxs : collectNumbers vs = .ok xs) :
    HandsOn ctx (.call "SUM" args) (total xs) ∧
      (xs ≠ [] → HandsOn ctx (.call "AVERAGE" args) (total xs / Float.ofNat xs.length)) := by
  have hone : ¬ args.length < 1 := fun h => hne (List.length_eq_zero_iff.mp (by omega))
  have haggregate (f : List Float → Operand) : aggregate vs f = f xs := by
    rw [aggregate, hxs]
  constructor
  · refine handsOn_of_evaluate ((evaluate_call (f := .sum) rfl (if_neg hone) rfl hargs).trans ?_)
    exact congrArg Except.ok (haggregate _)
  · intro hsome
    refine handsOn_of_evaluate
      ((evaluate_call (f := .average) rfl (if_neg hone) rfl hargs).trans ?_)
    refine congrArg Except.ok ((haggregate mean).trans ?_)
    rw [mean, if_neg (by simpa using hsome)]

/-- **Where numbers overflow.**  Against a source of finite numbers, a formula whose constants are
finite and all its parts have finite values if and only if no part overflows.  Sums, differences,
products and powers that are not finite are `#NUM!` and caught by a fall-back; quotients, and all
that `SUM` and `AVERAGE` compute, are handed on. -/
theorem overflow_caught_iff (hsource : ctx.source.IsFinite) {e : Expr}
    (hnumbers : ∀ x, (Expr.number x).Part e → x.isFinite = true) :
    ((∀ p, p.Part e → GivesFinite (evaluate ctx p)) ↔ ∀ p, p.Part e → ¬ Overflows ctx p) ∧
    (∀ op left right v w x y z, evaluate ctx left = .ok v → evaluate ctx right = .ok w →
      v.number? = some x → w.number? = some y → op.result? x y = some z → z.isFinite = false →
      if op = .divide then HandsOn ctx (.binary op left right) z
      else IsCaught ctx (.binary op left right)) ∧
    ∀ args vs xs, args ≠ [] → args.map (evaluate ctx) = vs.map .ok → collectNumbers vs = .ok xs →
      HandsOn ctx (.call "SUM" args) (total xs) ∧
      (xs ≠ [] → HandsOn ctx (.call "AVERAGE" args) (total xs / Float.ofNat xs.length)) :=
  ⟨givesFinite_parts_iff hsource hnumbers,
    fun op _ _ _ _ _ _ _ hv hw hx hy hz h => evaluate_binary_of_result? op hv hw hx hy hz h,
    fun _ _ _ hne hargs hxs => handsOn_aggregates hne hargs hxs⟩

/-- A source without sheets, names and values. -/
def Context.blank : Context := ⟨⟨fun _ => none, fun _ => .empty, fun _ _ => none⟩, ⟨⟨0⟩, ⟨0, 0⟩⟩⟩

/-- The formula `=IFERROR(1E308/0.1,0)`. -/
def dividedTooFar : Expr :=
  .call "IFERROR" [.binary .divide (.number 1e308) (.number 0.1), .number 0.0]

theorem blank_isFinite : Context.blank.source.IsFinite := nofun

theorem dividedTooFar_numbers (x : Float) (h : (Expr.number x).Part dividedTooFar) :
    x.isFinite = true := by
  simp only [dividedTooFar, Expr.part_call, Expr.part_binary, Expr.part_number, List.mem_cons,
    List.not_mem_nil, or_false, exists_eq_or_imp, exists_eq_left, Expr.number.injEq,
    reduceCtorEq, false_or] at h
  rcases h with (rfl | rfl) | rfl <;> decide +kernel

/-- In this formula the quotient overflows, and the fall-back hands it on. -/
theorem overflow_dividedTooFar :
    ((∀ p, p.Part dividedTooFar → GivesFinite (evaluate .blank p)) ↔
      ∀ p, p.Part dividedTooFar → ¬ Overflows .blank p) ∧
    HandsOn .blank (.binary .divide (.number 1e308) (.number 0.1)) (1e308 / 0.1) ∧
    IsCaught .blank (.binary .multiply (.number 1e308) (.number 10.0)) ∧
    HandsOn .blank (.call "SUM" [.number 1e308, .number 1e308]) (total [1e308, 1e308]) := by
  obtain ⟨hparts, hbinary, hcalls⟩ := overflow_caught_iff blank_isFinite dividedTooFar_numbers
  refine ⟨hparts, ?_, ?_, ?_⟩
  · exact hbinary .divide _ _ _ _ 1e308 0.1 _ rfl rfl rfl rfl rfl (by decide +kernel)
  · exact hbinary .multiply _ _ _ _ 1e308 10.0 _ rfl rfl rfl rfl rfl (by decide +kernel)
  · exact (hcalls _ [.number 1e308, .number 1e308] _ (by simp) rfl rfl).1

/-- **Overflow that is not caught:** all constants are finite and no text is there, but the formula
has a value that is not finite. -/
theorem quotient_not_caught : Context.blank.source.IsFinite ∧
    (∀ key s, Context.blank.source.value key ≠ .text s) ∧
    (∀ x, (Expr.number x).Part dividedTooFar → x.isFinite = true) ∧
    (∀ s, ¬ (Expr.text s).Part dividedTooFar) ∧
    ∃ z, evaluate .blank dividedTooFar = .ok (.number z) ∧ z.isFinite = false := by
  refine ⟨blank_isFinite, nofun, dividedTooFar_numbers, fun s h => ?_, 1e308 / 0.1, ?_, ?_⟩
  · simp [dividedTooFar, Expr.part_call, Expr.part_binary, Expr.part_number] at h
  · have hquotient : HandsOn .blank (.binary .divide (.number 1e308) (.number 0.1)) (1e308 / 0.1) :=
      evaluate_binary_of_result? .divide rfl rfl rfl rfl rfl (by decide +kernel)
    exact hquotient.2 _
  · decide +kernel

end Spreadsheet.Formula
