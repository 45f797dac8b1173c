/-
# Which faults a formula has

There are seven kinds of fault, but only four of them can end an evaluation: a value of a wrong
kind, an unknown name, a wrong number of arguments, and an unknown function.  Call these *ordinary*.

* What an operator or a function makes of values has ordinary faults (`ordinary_applyToValues`), and
  so has what a lazy function makes of outcomes that have (`ordinary_applyCall`).
* `INDIRECT` reads a text as a formula while it is evaluated.  That the text is none is no fault.
* So all faults of formulas are ordinary (`ordinary_evaluate`), whatever they are evaluated against.
* Only other faults give a cell the unspecified status, and only they are told of.  So no cell ever
  has that status, and no failure is ever told (`unspecified_never`).
-/
import Spreadsheet.Proofs.StoredText

namespace Spreadsheet.Formula

open Grid

/-! ## 1. Ordinary faults -/

/-- **The faults that formulas have.** -/
def Fault.isOrdinary : Fault → Bool
  | .typeMismatch _ | .nameNotFound _ | .wrongCount _ _ _ | .unknownFunction _ => true
  | .parse _ | .invalidReference _ | .evaluation _ => false

/-- **What ends with an ordinary fault** if it ends with a fault. -/
def Ordinary {α : Type} (x : Except Fault α) : Prop :=
  ∀ fault, x = .error fault → fault.isOrdinary = true

section Ordinary

variable {α β : Type}

@[simp] theorem ordinary_ok (a : α) : Ordinary (.ok a) := nofun

@[simp] theorem ordinary_pure (a : α) : Ordinary (pure a) := nofun

@[simp] theorem ordinary_error {fault : Fault} :
    Ordinary (.error fault : Except Fault α) ↔ fault.isOrdinary = true :=
  ⟨fun h => h fault rfl, fun h _ heq => Except.error.inj heq ▸ h⟩

/-- **Going on keeps faults ordinary.** -/
theorem Ordinary.bind {x : Except Fault α} {f : α → Except Fault β} (hx : Ordinary x)
    (hf : ∀ a, Ordinary (f a)) : Ordinary (x >>= f) := by
  cases x with
  | error fault => exact ordinary_error.mpr (hx fault rfl)
  | ok a => exact hf a

theorem Ordinary.map {x : Except Fault α} (hx : Ordinary x) (f : α → β) : Ordinary (x.map f) := by
  cases x with
  | error fault => exact ordinary_error.mpr (hx fault rfl)
  | ok a => exact ordinary_ok _

/-- Outcomes looked at one after the other. -/
theorem ordinary_mapM {f : α → Except Fault β} :
    ∀ {xs : List α}, (∀ x ∈ xs, Ordinary (f x)) → Ordinary (xs.mapM f)
  | [], _ => ordinary_pure []
  | x :: xs, h => by
    obtain ⟨hx, hxs⟩ := List.forall_mem_cons.mp h
    rw [List.mapM_cons]
    exact hx.bind fun _ => (ordinary_mapM hxs).bind fun _ => ordinary_pure _

end Ordinary

/-! ## 2. Operators -/

theorem ordinary_toNumber (v : Operand) : Ordinary v.toNumber := by
  unfold Operand.toNumber
  split <;> simp [Fault.notANumber, Fault.isOrdinary]

theorem ordinary_toBool (v : Operand) : Ordinary v.toBool := by
  unfold Operand.toBool
  split <;> simp [Fault.notABool, Fault.isOrdinary]

theorem ordinary_single (v : Operand) : Ordinary v.single := by
  unfold Operand.single
  split <;> simp [Fault.rangeAsOperand, Fault.isOrdinary]

theorem ordinary_onNumbers (v w : Operand) (f : Float → Float → Operand) :
    Ordinary (onNumbers v w f) :=
  (ordinary_toNumber v).bind fun _ => (ordinary_toNumber w).bind fun _ => ordinary_pure _

theorem ordinary_combine (op : BinaryOp) (v w : Operand) : Ordinary (combine op v w) := by
  cases op
  case add | subtract | multiply | divide | power => exact ordinary_onNumbers v w _
  case equal | notEqual | less | lessOrEqual | greater | greaterOrEqual | join =>
    exact ordinary_ok _

/-- **An operator adds only ordinary faults to those of its operands.** -/
theorem ordinary_applyBinary (op : BinaryOp) {left right : Outcome} (hleft : Ordinary left)
    (hright : Ordinary right) : Ordinary (applyBinary op left right) := by
  refine hleft.bind fun v => (ordinary_single v).bind fun v => ?_
  refine hright.bind fun w => (ordinary_single w).bind fun w => ?_
  split
  · exact ordinary_pure _
  · exact ordinary_pure _
  · exact ordinary_combine op v w

theorem ordinary_applySign {operand : Outcome} (h : Ordinary operand) (f : Float → Float) :
    Ordinary (applySign operand f) := by
  refine h.bind fun v => (ordinary_single v).bind fun v => ?_
  split
  · exact ordinary_pure _
  · exact (ordinary_toNumber v).bind fun _ => ordinary_pure _

/-! ## 3. Functions of values -/

theorem ordinary_boolsOf (v : Operand) : Ordinary (boolsOf v) := by
  unfold boolsOf
  split
  · exact ordinary_ok _
  · exact ordinary_ok _
  · exact ordinary_ok _
  · exact (ordinary_toBool _).map _

theorem ordinary_collectBools : ∀ args : List Operand, Ordinary (collectBools args)
  | [] => ordinary_ok _
  | v :: rest => by
    have hv := ordinary_boolsOf v
    unfold collectBools
    split
    · rename_i fault hfault
      exact ordinary_error.mpr (hv fault hfault)
    · exact ordinary_ok _
    · exact (ordinary_collectBools rest).map _

theorem ordinary_decideAll (args : List Operand) (f : List Bool → Bool) :
    Ordinary (decideAll args f) :=
  (ordinary_collectBools args).map _

theorem ordinary_onText (v : Operand) (f : String → Operand) : Ordinary (onText v f) := by
  unfold onText
  split <;> simp [Fault.rangeAsText, Fault.isOrdinary]

theorem ordinary_joinTexts : ∀ (args : List Operand) (done : String),
    Ordinary (joinTexts done args)
  | [], _ => ordinary_ok _
  | v :: rest, done => by
    unfold joinTexts
    split
    · exact ordinary_ok _
    · exact ordinary_ok _
    · exact ordinary_error.mpr rfl
    · rename_i hv
      obtain ⟨rfl, rfl⟩ := List.cons.inj hv
      exact ordinary_joinTexts rest _

theorem ordinary_onNumber (v : Operand) {f : Float → Except Fault Operand}
    (hf : ∀ x, Ordinary (f x)) : Ordinary (onNumber v f) := by
  unfold onNumber
  split
  · exact ordinary_ok _
  · exact (ordinary_toNumber _).bind hf

theorem ordinary_wholeArg (args : List Operand) (index : Nat) (absent : Float) :
    Ordinary (wholeArg args index absent) := by
  unfold wholeArg
  split
  · exact (ordinary_toNumber _).map _
  · exact ordinary_ok _

/-- A truth value that may be left out. -/
theorem ordinary_toBool_getD (v? : Option Operand) :
    Ordinary ((v?.map Operand.toBool).getD (.ok true)) := by
  cases v? with
  | none => exact ordinary_ok _
  | some v => exact ordinary_toBool v

/-- A column that is no number passes the bounds; its word wraps round and has letters like any
other. -/
theorem ordinary_addressOf (args : List Operand) : Ordinary (addressOf args) := by
  unfold addressOf
  split
  · exact ordinary_ok _
  · refine (ordinary_wholeArg args 0 _).bind fun row => (ordinary_wholeArg args 1 _).bind fun col =>
      (ordinary_wholeArg args 2 _).bind fun kind => (ordinary_toBool_getD _).bind fun inLetters => ?_
    split
    · exact ordinary_pure _
    · exact ordinary_pure _

/-- **A text that is no reference is no fault** of `INDIRECT`. -/
theorem ordinary_indirectly (ctx : Context) (args : List Operand) :
    Ordinary (indirectly ctx args) := by
  unfold indirectly
  split
  · exact ordinary_ok _
  · refine (ordinary_toBool_getD _).bind fun inLetters => ?_
    split
    · exact ordinary_pure _
    · split
      · exact ordinary_pure _
      · split <;> exact ordinary_pure _
      · exact ordinary_pure _
  · exact ordinary_ok _

/-- **What a function makes of values has ordinary faults.** -/
theorem ordinary_applyToValues (ctx : Context) (f : Function) (args : List Operand) :
    Ordinary (applyToValues ctx f args) := by
  unfold applyToValues
  split
  case h_6 | h_7 => exact ordinary_onNumber _ fun _ => ordinary_ok _
  case h_8 => exact ordinary_onNumber _ fun _ => ordinary_onNumber _ fun _ => ordinary_ok _
  case h_9 | h_10 => exact ordinary_decideAll _ _
  case h_12 => exact (ordinary_toBool _).map _
  case h_13 => exact ordinary_joinTexts _ _
  case h_14 | h_15 | h_16 => exact ordinary_onText _ _
  case h_19 => exact ordinary_addressOf _
  case h_20 => exact ordinary_indirectly ctx _
  all_goals exact ordinary_ok _

/-! ## 4. Calls -/

theorem ordinary_namedRange (ctx : Context) : ∀ e : Expr, Ordinary (namedRange ctx e)
  | .ref _ _ => ordinary_ok _
  | .name name => by
    unfold namedRange
    split
    · exact ordinary_ok _
    · exact ordinary_error.mpr rfl
  | .group inner => by
    rw [namedRange]
    exact ordinary_namedRange ctx inner
  | .number _ | .text _ | .bool _ | .error _ | .binary _ _ _ | .negate _ | .percent _
  | .call _ _ => ordinary_error.mpr rfl

theorem ordinary_lineNumber (ctx : Context) (args : List Expr) (line : Spot → Nat) :
    Ordinary (lineNumber ctx args line) := by
  cases args with
  | nil => exact ordinary_ok _
  | cons e rest => exact (ordinary_namedRange ctx e).map _

theorem ordinary_checkCount (f : Function) (called : String) (count : Nat) :
    Ordinary (f.checkCount called count) := by
  unfold Function.checkCount
  split
  · exact ordinary_error.mpr rfl
  · split
    · split
      · exact ordinary_error.mpr rfl
      · exact ordinary_ok _
    · exact ordinary_ok _

section Lazy

variable {outcomes : List (Thunk Outcome)} (h : ∀ outcome ∈ outcomes, Ordinary outcome.get)

include h

/-- A choice has the faults of its condition and of the branch that it takes. -/
theorem ordinary_chooseBranch : Ordinary (chooseBranch outcomes) := by
  unfold chooseBranch
  split
  · exact ordinary_ok _
  · rename_i condition branches
    obtain ⟨hcondition, hbranches⟩ := List.forall_mem_cons.mp h
    refine hcondition.bind fun v => ?_
    split
    · exact ordinary_pure _
    · refine (ordinary_toBool v).bind fun b => ?_
      split
      · rename_i branch hbranch
        exact hbranches branch (List.mem_of_getElem? hbranch)
      · exact ordinary_pure _

/-- A fall-back hands on the fault of a wrong count and has the faults of what it falls back on. -/
theorem ordinary_orFallback : Ordinary (orFallback outcomes) := by
  unfold orFallback
  split
  · rename_i first fallback more
    have hfallback : Ordinary fallback.get := h fallback (by simp)
    split
    · split
      · exact hfallback
      · exact ordinary_ok _
    · exact ordinary_error.mpr rfl
    · exact hfallback
  · exact ordinary_ok _

/-- **A call has ordinary faults if its arguments have.** -/
theorem ordinary_applyCall (ctx : Context) (called : String) (args : List Expr) :
    Ordinary (applyCall ctx called args outcomes) := by
  unfold applyCall
  split
  · exact ordinary_error.mpr rfl
  · refine (ordinary_checkCount _ called _).bind fun _ => ?_
    unfold applyFunction
    split
    · exact ordinary_chooseBranch h
    · exact ordinary_orFallback h
    · exact ordinary_lineNumber ctx args _
    · exact ordinary_lineNumber ctx args _
    · exact (ordinary_mapM h).bind fun values => ordinary_applyToValues ctx _ values

end Lazy

/-! ## 5. Formulas -/

mutual

/-- **All faults of formulas are ordinary.** -/
theorem ordinary_evaluate (ctx : Context) : ∀ e : Expr, Ordinary (evaluate ctx e)
  | .number _ | .text _ | .bool _ | .error _ | .ref _ _ => ordinary_ok _
  | .name name => by
    rw [evaluate]
    split
    · exact ordinary_ok _
    · exact ordinary_error.mpr rfl
  | .binary op left right => by
    rw [evaluate]
    exact ordinary_applyBinary op (ordinary_evaluate ctx left) (ordinary_evaluate ctx right)
  | .negate operand => by
    rw [evaluate]
    exact ordinary_applySign (ordinary_evaluate ctx operand) _
  | .percent operand => by
    rw [evaluate]
    exact ordinary_applySign (ordinary_evaluate ctx operand) _
  | .group inner => by
    rw [evaluate]
    exact ordinary_evaluate ctx inner
  | .call called args => by
    rw [evaluate]
    exact ordinary_applyCall (ordinary_evaluateAll ctx args) ctx called args

/-- So are those of several formulas. -/
theorem ordinary_evaluateAll (ctx : Context) :
    ∀ args : List Expr, ∀ outcome ∈ evaluateAll ctx args, Ordinary outcome.get
  | [] => by simp [evaluateAll]
  | e :: rest => by
    rw [evaluateAll]
    exact List.forall_mem_cons.mpr ⟨ordinary_evaluate ctx e, ordinary_evaluateAll ctx rest⟩

end

/-- **A formula has a value or an ordinary fault.** -/
theorem evaluate_cases (ctx : Context) (e : Expr) :
    (∃ v, evaluate ctx e = .ok v) ∨
      (∃ detail, evaluate ctx e = .error (.typeMismatch detail)) ∨
      (∃ name, evaluate ctx e = .error (.nameNotFound name)) ∨
      (∃ function expected actual,
        evaluate ctx e = .error (.wrongCount function expected actual)) ∨
      ∃ name, evaluate ctx e = .error (.unknownFunction name) := by
  have h := ordinary_evaluate ctx e
  cases houtcome : evaluate ctx e with
  | ok v => exact .inl ⟨v, rfl⟩
  | error fault =>
    have hfault := h fault houtcome
    cases fault with
    | typeMismatch detail => exact .inr (.inl ⟨detail, rfl⟩)
    | nameNotFound name => exact .inr (.inr (.inl ⟨name, rfl⟩))
    | wrongCount function expected actual =>
      exact .inr (.inr (.inr (.inl ⟨function, expected, actual, rfl⟩)))
    | unknownFunction name => exact .inr (.inr (.inr (.inr ⟨name, rfl⟩)))
    | parse detail => cases hfault
    | invalidReference detail => cases hfault
    | evaluation detail => cases hfault

end Spreadsheet.Formula

namespace Spreadsheet

open Grid Formula
open Workbook (Edits Phase Phases Everywhere failureEvents)

/-! ## 6. Statuses and events -/

/-- **An ordinary fault has a status of its own.** -/
theorem status_ofOutcome {outcome : Outcome} (h : Ordinary outcome) :
    (Result.ofOutcome outcome).status ≠ .unspecified := by
  cases outcome with
  | ok v => cases v <;> simp [Result.ofOutcome, Result.status]
  | error fault =>
    have hfault := h fault rfl
    cases fault <;> simp_all [Fault.isOrdinary, Result.ofOutcome, Result.status, Failure.ofFault,
      Failure.status]

/-- **What is told of an evaluation with an ordinary fault is nothing.** -/
theorem failureEvents_eq_nil (key : Key) {outcome : Outcome} (h : Ordinary outcome) :
    failureEvents key outcome = [] := by
  cases outcome with
  | ok v => rfl
  | error fault => exact if_neg (status_ofOutcome h)

/-- Content whose status says what is wrong with it. -/
def Content.Specified (content : Content) : Prop := content.status ≠ .unspecified

namespace Content

theorem durable_specified : Durable Specified where
  nothing := nofun
  evaluated {content} h ctx e _ := by
    cases content with
    | formula text expr edges latest => exact status_ofOutcome (ordinary_evaluate ctx e)
    | value v => exact h
    | unparsed text => exact h
    | discarded => exact h
  rebuilt {content} h :=
    rebuilt_of_withEdges h nofun fun edges => by cases content <;> exact h
  mapExpr {content} h change _ := by cases content <;> exact h

theorem specified_of_plans {wb : Workbook} {key : Key} {content : Content}
    (h : wb.Plans key content) : content.Specified := by
  cases h <;> exact nofun

end Content

namespace Workbook

variable {wb wb' : Workbook} {told : List Event}

/-- **At no moment has a cell the unspecified status.** -/
theorem specified_edits {settings : Settings} (h : Edits (.new settings) wb) :
    wb.Everywhere Content.Specified :=
  everywhere_edits Content.durable_specified Content.specified_of_plans h

/-- Evaluating a cell tells nothing. -/
theorem recalculate_snd (wb : Workbook) (key : Key) : (wb.recalculate key).2 = [] := by
  unfold recalculate
  split
  · rfl
  · exact failureEvents_eq_nil key (ordinary_evaluate _ _)

theorem recalculateEach_snd (keys : List Key) (wb : Workbook) :
    (wb.recalculateEach keys).2 = [] := by
  induction keys generalizing wb with
  | nil => rfl
  | cons key keys ih => rw [recalculateEach_cons_snd, recalculate_snd, ih, List.nil_append]

/-- No phase tells of a failure. -/
theorem Phase.isFailure_eq_false {choosing : Bool} (h : Phase choosing wb told wb') :
    ∀ event ∈ told, event.isFailure = false := by
  cases h with
  | evaluate key => simp [recalculate_snd]
  | enter planned formulas hplanned hformulas => simp [recalculateEach_snd]
  | change h => simp
  | tell h => simpa using h

/-- **No run of phases tells of a failure.** -/
theorem Phases.isFailure_eq_false {choosing : Bool} (h : Phases choosing wb told wb') :
    ∀ event ∈ told, event.isFailure = false := by
  induction h with
  | refl => simp
  | next h _ ih =>
    intro event hevent
    rcases List.mem_append.mp hevent with hevent | hevent
    · exact h.isFailure_eq_false event hevent
    · exact ih event hevent

end Workbook

/-- **Every formula has a value or an ordinary fault, against whatever it is evaluated.**  So no cell
ever has the unspecified status, neither after a run of commands nor at a moment in between, and no
failure is ever told. -/
theorem unspecified_never :
    (∀ (ctx : Context) (e : Expr),
      (∃ v, evaluate ctx e = .ok v) ∨
        (∃ detail, evaluate ctx e = .error (.typeMismatch detail)) ∨
        (∃ name, evaluate ctx e = .error (.nameNotFound name)) ∨
        (∃ function expected actual,
          evaluate ctx e = .error (.wrongCount function expected actual)) ∨
        ∃ name, evaluate ctx e = .error (.unknownFunction name)) ∧
    (∀ (settings : Settings) (wb : Workbook), Edits (.new settings) wb →
      ∀ key, wb.status key ≠ .unspecified) ∧
    ∀ (settings : Settings) (commands : List Command),
      (∀ key, ((Session.start settings).run commands).workbook.status key ≠ .unspecified) ∧
        ∀ event ∈ (Session.start settings).told commands,
          ∀ cell fault, event ≠ .failed cell fault := by
  refine ⟨evaluate_cases, fun settings wb hedits => Workbook.specified_edits hedits, ?_⟩
  intro settings commands
  refine ⟨Workbook.specified_edits ((Session.start settings).edits_run commands), ?_⟩
  rintro event hevent cell fault rfl
  have hfailure := ((Session.start settings).phases_run commands).isFailure_eq_false _ hevent
  cases hfailure

end Spreadsheet
