/-
# The fields of a cell

What a cell holds can be kept in six fields: the value, the text of the formula, the formula that was
read from it, the status, the text that the grid shows, and the ranges that the formula reads.  The
fields are written one by one, and not every combination of them makes sense.

* A record of fields is *sound* if the fields fit together (`Sound`).
* Each way of writing a record is a few assignments, and none but one keeps records sound by itself.
  Committing a formula leaves the value and the shown text of what was there before; the evaluation
  that follows puts them right (`Reached.sound`, the flag tells that an evaluation is owed).
* The content of a cell, which holds what belongs together and nothing else, gives the same fields as
  these ways of writing (`fields_writeValue` and those behind it).
* No command is over while an evaluation is owed.  So after every run of commands the fields of every
  cell have come about by such writes, and are sound (`fields_sound`).
-/
import Spreadsheet.Proofs.StoredText

namespace Spreadsheet

open Grid Formula Conditional
open Workbook (Everywhere)


/-! ## 1. Records -/

/-- **The fields that a cell may be kept in.** -/
structure Fields where
  data : Value := .empty
  text : Option String := none
  expr : Option Expr := none
  status : Status := .normal
  display : String := ""
  edges : List Edge := []

namespace Fields

variable {f : Fields}

/-- Sets the value and the text that is shown for it. -/
def setValue (f : Fields) (v : Value) : Fields := { f with data := v, display := v.display }

/-- Forgets the ranges that the formula reads. -/
def clearEdges (f : Fields) : Fields := { f with edges := [] }

/-- Forgets the formula. -/
def clearFormula (f : Fields) : Fields := { f with text := none, expr := none, status := .normal }

/-- **Writes a value.**  The edges are looked at only if there is a formula, or was one. -/
def writeValue (f : Fields) (v : Value) : Fields :=
  let f := if f.text.isSome || f.status != .normal then f.clearEdges else f
  f.clearFormula.setValue v

/-- **Keeps a text that is no formula.** -/
def keepText (f : Fields) (text : String) : Fields :=
  { f.clearEdges with
    expr := none, status := .syntaxError, data := .empty, display := text, text := some text }

/-- **Commits a formula.**  The value and the text that is shown stay what they were. -/
def commit (f : Fields) (text : String) (e : Expr) (edges : List Edge) : Fields :=
  { f.clearEdges with text := some text, expr := some e, status := .normal, edges := edges }

/-- **Gives up a formula that reads its own cell.** -/
def giveUp (f : Fields) : Fields :=
  ({ f.clearEdges with text := none, expr := none, status := .circularReference }).setValue .empty

/-- What an evaluation came to. -/
def settle (f : Fields) : Outcome → Fields
  | .ok .empty => ({ f with status := .normal }).setValue (.number 0.0)
  | .ok v => ({ f with status := .normal }).setValue v.toValue
  | .error fault =>
    ({ f with status := (Failure.ofFault fault).status }).setValue
      (.error (Failure.ofFault fault).code)

/-- **Evaluates the formula,** unless the status forbids it. -/
def evaluate (f : Fields) (ctx : Context) : Fields :=
  if f.status.blocksEvaluation then f
  else
    match f.expr with
    | none => f
    | some e => f.settle (Formula.evaluate ctx e)

/-- **Finds the edges again.**  All edges are forgotten first. -/
def findEdges (f : Fields) (find : Expr → Except ReferenceFault (List Edge)) : Fields :=
  match f.expr with
  | none => f.clearEdges
  | some e =>
    match find e with
    | .ok edges => { f.clearEdges with edges := edges }
    | .error (.ownCell _ _) => f.clearEdges.giveUp
    | .error (.beyondSheet _ _) => f.clearEdges

/-- **Changes the formula** and writes its text anew.  The edges are forgotten. -/
def follow (f : Fields) (change : Expr → Expr) : Fields :=
  match f.expr with
  | none => f.clearEdges
  | some e =>
    { f.clearEdges with text := some (change e).source, expr := some (change e) }

/-! ## 2. Soundness -/

/-- **Fields that fit together.** -/
structure Sound (f : Fields) : Prop where
  syntaxError_iff : f.status = .syntaxError ↔ f.text ≠ none ∧ f.expr = none
  unread : f.status = .syntaxError → f.data = .empty ∧ f.text = some f.display ∧ f.edges = []
  circular : f.status = .circularReference →
    f.text = none ∧ f.expr = none ∧ f.data = .empty ∧ f.edges = []
  formula : f.expr ≠ none → f.text ≠ none ∧ f.status.blocksEvaluation = false ∧
    f.data ≠ .empty ∧ ∀ x, f.data = .number x → x.isFinite = true
  invalidValue : f.status = .invalidValue → f.expr ≠ none ∧ f.data = .error .value
  nameNotFound : f.status = .nameNotFound → f.expr ≠ none ∧ f.data = .error .name
  mismatched : f.status = .mismatchedParameter →
    f.expr ≠ none ∧ (f.data = .error .value ∨ f.data = .error .name)
  display : f.status ≠ .syntaxError → f.display = f.data.display
  /-- Nothing but a formula reads anything. -/
  edges : f.expr = none → f.edges = []

/-- **Fields of a formula that has to be evaluated yet.**  Nothing is known of the value and the text
that is shown. -/
structure Owing (f : Fields) : Prop where
  text : f.text ≠ none
  expr : f.expr ≠ none
  status : f.status = .normal

theorem sound_blank : Sound {} where
  syntaxError_iff := by simp
  unread := nofun
  circular := nofun
  formula h := absurd rfl h
  invalidValue := nofun
  nameNotFound := nofun
  mismatched := nofun
  display _ := rfl
  edges _ := rfl

/-- **Writing a value makes the fields sound.**  Where there is no formula and never was one, there are
no edges to forget. -/
theorem Sound.writeValue (h : f.Sound ∨ f.Owing) (v : Value) : (f.writeValue v).Sound := by
  have hedges : (f.writeValue v).edges = [] := by
    simp only [Fields.writeValue, setValue, clearFormula]
    split
    · rfl
    · rename_i hplain
      have htext : f.text = none ∧ f.status = .normal := by simpa using hplain
      rcases h with h | h
      · refine h.edges (Classical.byContradiction fun hexpr => (h.formula hexpr).1 htext.1)
      · exact absurd htext.1 h.text
  constructor <;> simp [hedges] <;> simp [Fields.writeValue, setValue, clearFormula]

theorem sound_keepText (f : Fields) (text : String) : (f.keepText text).Sound := by
  constructor <;> simp [keepText, clearEdges]

theorem sound_giveUp (f : Fields) : f.giveUp.Sound := by
  constructor <;> simp [giveUp, setValue, clearEdges]

theorem owing_commit (f : Fields) (text : String) (e : Expr) (edges : List Edge) :
    (f.commit text e edges).Owing := by
  constructor <;> simp [commit]

/-- A value that comes out of an evaluation is one that a cell may hold. -/
theorem toValue_spec {v : Operand} (h : v ≠ .empty) :
    v.toValue ≠ .empty ∧ ∀ x, v.toValue = .number x → x.isFinite = true := by
  cases v with
  | empty => exact absurd rfl h
  | number x =>
    simp only [Operand.toValue]
    split
    · rename_i hfinite
      exact ⟨nofun, fun y hy => Value.number.inj hy ▸ hfinite⟩
    · exact ⟨nofun, nofun⟩
  | bool b => exact ⟨nofun, nofun⟩
  | text s => exact ⟨nofun, nofun⟩
  | error code => exact ⟨nofun, nofun⟩
  | array rows => exact ⟨nofun, nofun⟩

/-- **An evaluation puts right what committing a formula left behind.** -/
theorem sound_settle (htext : f.text ≠ none) (hexpr : f.expr ≠ none) (outcome : Outcome) :
    (f.settle outcome).Sound := by
  have hnormal {v : Value} (hdata : v ≠ .empty ∧ ∀ x, v = .number x → x.isFinite = true) :
      (({ f with status := .normal } : Fields).setValue v).Sound := by
    constructor <;> simp_all [setValue, Status.blocksEvaluation]
  unfold settle
  split
  · exact hnormal ⟨nofun, fun x hx => Value.number.inj hx ▸ rfl⟩
  · rename_i v hv
    exact hnormal (toValue_spec hv)
  · rename_i fault
    constructor <;> cases fault <;>
      simp_all [setValue, Failure.ofFault, Failure.status, Failure.code, Status.blocksEvaluation]

theorem Sound.evaluate (h : f.Sound ∨ f.Owing) (ctx : Context) : (f.evaluate ctx).Sound := by
  unfold Fields.evaluate
  rcases h with h | h
  · split
    · exact h
    · split
      · exact h
      · rename_i e he
        have hexpr : f.expr ≠ none := by simp [he]
        exact sound_settle (h.formula hexpr).1 hexpr _
  · rw [if_neg (by simp [h.status, Status.blocksEvaluation])]
    split
    · rename_i hnone
      exact absurd hnone h.expr
    · exact sound_settle h.text h.expr _

/-- A formula may be exchanged for another one, with its text and its edges. -/
theorem Sound.exchange (h : f.Sound) (hexpr : f.expr ≠ none) {text : Option String}
    {expr : Option Expr} (htext' : text ≠ none) (hexpr' : expr ≠ none) (edges : List Edge) :
    ({ f with text, expr, edges } : Fields).Sound := by
  obtain ⟨-, hblocks, hdata⟩ := h.formula hexpr
  have hunread : f.status ≠ .syntaxError := fun hs => by
    simp [hs, Status.blocksEvaluation] at hblocks
  have hcircular : f.status ≠ .circularReference := fun hs => by
    simp [hs, Status.blocksEvaluation] at hblocks
  exact {
    syntaxError_iff := ⟨fun hs => absurd hs hunread, fun hnone => absurd hnone.2 hexpr'⟩
    unread := fun hs => absurd hs hunread
    circular := fun hs => absurd hs hcircular
    formula := fun _ => ⟨htext', hblocks, hdata⟩
    invalidValue := fun hs => ⟨hexpr', (h.invalidValue hs).2⟩
    nameNotFound := fun hs => ⟨hexpr', (h.nameNotFound hs).2⟩
    mismatched := fun hs => ⟨hexpr', (h.mismatched hs).2⟩
    display := h.display
    edges := fun hnone => absurd hnone hexpr' }

theorem Sound.clearEdges (h : f.Sound) : f.clearEdges.Sound where
  syntaxError_iff := h.syntaxError_iff
  unread hs := ⟨(h.unread hs).1, (h.unread hs).2.1, rfl⟩
  circular hs := ⟨(h.circular hs).1, (h.circular hs).2.1, (h.circular hs).2.2.1, rfl⟩
  formula := h.formula
  invalidValue := h.invalidValue
  nameNotFound := h.nameNotFound
  mismatched := h.mismatched
  display := h.display
  edges _ := rfl

theorem Sound.findEdges (h : f.Sound) (find : Expr → Except ReferenceFault (List Edge)) :
    (f.findEdges find).Sound := by
  unfold Fields.findEdges
  split
  · exact h.clearEdges
  · rename_i e he
    split
    · have hexpr : f.expr ≠ none := by simp [he]
      exact h.exchange hexpr (h.formula hexpr).1 hexpr _
    · exact sound_giveUp _
    · exact h.clearEdges

theorem Sound.follow (h : f.Sound) (change : Expr → Expr) : (f.follow change).Sound := by
  unfold Fields.follow
  split
  · exact h.clearEdges
  · rename_i e he
    exact h.exchange (by simp [he]) (Option.some_ne_none _) (Option.some_ne_none _) _

/-! ## 3. How records come about -/

/-- **Records that come about by writing,** from the one of a cell that holds nothing.  The flag tells
whether a formula has been committed that is to be evaluated yet; nothing else is done to the cell
before it is, but that it may be written over. -/
inductive Reached : Bool → Fields → Prop
  | blank : Reached false {}
  | writeValue {owed : Bool} {f : Fields} (h : Reached owed f) (v : Value) :
      Reached false (f.writeValue v)
  | keepText {owed : Bool} {f : Fields} (h : Reached owed f) (text : String) :
      Reached false (f.keepText text)
  | commit {owed : Bool} {f : Fields} (h : Reached owed f) (text : String) (e : Expr)
      (edges : List Edge) : Reached true (f.commit text e edges)
  | giveUp {owed : Bool} {f : Fields} (h : Reached owed f) : Reached false f.giveUp
  | evaluate {owed : Bool} {f : Fields} (h : Reached owed f) (ctx : Context) :
      Reached false (f.evaluate ctx)
  | findEdges {f : Fields} (h : Reached false f)
      (find : Expr → Except ReferenceFault (List Edge)) : Reached false (f.findEdges find)
  | follow {f : Fields} (h : Reached false f) (change : Expr → Expr) :
      Reached false (f.follow change)

/-- **Records that come about by writing are sound,** unless an evaluation is owed. -/
theorem Reached.sound {owed : Bool} (h : Reached owed f) :
    (owed = false → f.Sound) ∧ (owed = true → f.Owing) := by
  have hor {owed : Bool} {f : Fields}
      (ih : (owed = false → f.Sound) ∧ (owed = true → f.Owing)) : f.Sound ∨ f.Owing := by
    cases owed with
    | false => exact .inl (ih.1 rfl)
    | true => exact .inr (ih.2 rfl)
  induction h with
  | blank => exact ⟨fun _ => sound_blank, nofun⟩
  | writeValue _ v ih => exact ⟨fun _ => .writeValue (hor ih) v, nofun⟩
  | keepText _ text => exact ⟨fun _ => sound_keepText _ text, nofun⟩
  | commit _ text e edges => exact ⟨nofun, fun _ => owing_commit _ text e edges⟩
  | giveUp => exact ⟨fun _ => sound_giveUp _, nofun⟩
  | evaluate _ ctx ih => exact ⟨fun _ => .evaluate (hor ih) ctx, nofun⟩
  | findEdges _ find ih => exact ⟨fun _ => (ih.1 rfl).findEdges find, nofun⟩
  | follow _ change ih => exact ⟨fun _ => (ih.1 rfl).follow change, nofun⟩

end Fields

/-! ## 4. The fields of a content -/

namespace Content

open Fields (Reached)

/-- **The fields of a cell that holds something.** -/
def fields (content : Content) : Fields where
  data := content.shown
  text := content.formulaText?
  expr := content.expr?
  status := content.status
  display := content.display
  edges := content.edges

/-- **Writing a value leaves what a cell with the value holds,** whatever the cell held before. -/
theorem fields_writeValue (content : Content) (v : Value) :
    content.fields.writeValue v = (Content.value v).fields := by
  cases content <;> simp [fields, Fields.writeValue, Fields.setValue, Fields.clearFormula,
    Fields.clearEdges, shown, display, formulaText?, expr?, status, edges]

theorem fields_keepText (f : Fields) (text : String) :
    f.keepText text = (Content.unparsed text).fields := rfl

theorem fields_giveUp (f : Fields) : f.giveUp = Content.discarded.fields := rfl

/-- **What an evaluation comes to is what a formula with the result holds,** whatever the value and
the shown text were before. -/
theorem fields_settle {f : Fields} {text : String} {e : Expr} (htext : f.text = some text)
    (hexpr : f.expr = some e) (outcome : Outcome) :
    f.settle outcome = (Content.formula text e f.edges (.ofOutcome outcome)).fields := by
  unfold Fields.settle
  split <;>
    simp_all [fields, Fields.setValue, Result.ofOutcome, shown, display, formulaText?, expr?, status,
      edges, Result.status, Result.shown]

/-- **Committing a formula and evaluating it leaves what a cell with the formula and the outcome
holds.** -/
theorem fields_commit_evaluate (f : Fields) (text : String) (e : Expr) (edges : List Edge)
    (ctx : Context) :
    (f.commit text e edges).evaluate ctx =
      (Content.formula text e edges (.ofOutcome (Formula.evaluate ctx e))).fields :=
  fields_settle rfl rfl _

/-- **Evaluating the formula of a cell gives it another result.** -/
theorem fields_evaluate {content : Content} {e : Expr} (he : content.expr? = some e)
    (ctx : Context) :
    content.fields.evaluate ctx =
      (content.withResult (.ofOutcome (Formula.evaluate ctx e))).fields := by
  obtain ⟨text, edges, result, rfl⟩ := eq_formula_of_expr? he
  have hstatus : (Content.formula text e edges result).fields.status.blocksEvaluation = false :=
    result.blocksEvaluation_status
  unfold Fields.evaluate
  rw [hstatus]
  exact fields_settle rfl rfl _

/-- What has no formula has no edges to forget. -/
theorem fields_clearEdges {content : Content} (h : content.expr? = none) :
    content.fields.clearEdges = content.fields := by
  cases content with
  | formula text e edges result => cases h
  | value v => rfl
  | unparsed text => rfl
  | discarded => rfl

/-- **Finding the edges again** leaves what a rebuilt cell holds. -/
theorem fields_findEdges (wb : Workbook) (key : Key) (content : Content) :
    content.fields.findEdges (wb.edges key true) = (wb.rebuiltContent key content).fields := by
  unfold Workbook.rebuiltContent
  split
  · rename_i hnone
    unfold Fields.findEdges
    rw [show content.fields.expr = none from hnone]
    exact fields_clearEdges hnone
  · rename_i e he
    obtain ⟨text, edges, result, rfl⟩ := eq_formula_of_expr? he
    simp only [Fields.findEdges, fields, expr?]
    cases wb.edges key true e with
    | ok found => rfl
    | error fault => cases fault <;> rfl

/-- **Changing the formula** leaves what a cell with the changed one holds. -/
theorem fields_follow (content : Content) (change : Expr → Expr) :
    content.fields.follow change = (content.mapExpr change).fields := by
  cases content <;> rfl

/-- Content whose fields have come about by writing, with no evaluation owed. -/
def Written (content : Content) : Prop := Reached false content.fields

theorem Written.of_eq {f : Fields} (h : Reached false f) {content : Content}
    (heq : f = content.fields) : content.Written := by
  rwa [Written, ← heq]

theorem durable_written : Durable Written where
  nothing := .blank
  evaluated h ctx _ he := .of_eq (.evaluate h ctx) (fields_evaluate he ctx)
  rebuilt h wb key := .of_eq (.findEdges h _) (fields_findEdges wb key _)
  mapExpr h change _ := .of_eq (.follow h change) (fields_follow _ change)

end Content

/-! ## 5. Phases -/

namespace Content

/-- **What is true of every cell when no evaluation is owed.**  A formula that is written need not have
it before it is evaluated. -/
structure Settled (P : Content → Prop) : Prop extends Durable P where
  plain : ∀ {wb : Workbook} {key : Key} {content : Content}, wb.Plans key content →
    content.expr? = none → P content
  entered : ∀ {wb : Workbook} {key : Key} {content : Content} {e : Expr}, wb.Plans key content →
    content.expr? = some e → ∀ ctx, P (content.withResult (.ofOutcome (Formula.evaluate ctx e)))

/-- **What may be written has been written** as soon as it is evaluated. -/
theorem settled_written : Settled Written where
  toDurable := durable_written
  plain h hnone := by
    cases h with
    | value v => exact .of_eq (.writeValue .blank v) (fields_writeValue (.value .empty) v)
    | formula hparse hedges shown => cases hnone
    | unparsed hparse => exact .of_eq (.keepText .blank _) (fields_keepText {} _)
    | discarded => exact .of_eq (.giveUp .blank) (fields_giveUp {})
  entered h he ctx := by
    obtain ⟨text, edges, result, rfl⟩ := eq_formula_of_expr? he
    exact .of_eq (.evaluate (.commit .blank text _ edges) ctx)
      (fields_commit_evaluate {} text _ edges ctx)

end Content

namespace Workbook

open Content (Settled)

variable {wb wb' : Workbook} {told : List Event} {formulas : List Key} {P : Content → Prop}

/-- **What is true of every cell, but for some whose formulas were written** and are to be evaluated
yet. -/
def But (wb : Workbook) (formulas : List Key) (P : Content → Prop) : Prop :=
  ∀ key, P (wb.content key) ∨
    key ∈ formulas ∧ ∃ planned : Workbook, planned.Plans key (wb.content key)

/-- Writing what was planned owes evaluations of the formulas among it. -/
theorem But.writeAll (hP : Settled P) : ∀ (planned : List (Key × Content)) {wb : Workbook},
    (∀ kc ∈ planned, wb.Has kc.1 ∧ wb.Plans kc.1 kc.2) →
      (∀ kc ∈ planned, kc.2.expr? ≠ none → kc.1 ∈ formulas) → wb.But formulas P →
        (wb.writeAll planned).But formulas P
  | [], _, _, _, h => h
  | kc :: rest, wb, hplanned, hformulas, h => by
    obtain ⟨⟨hon, hplan⟩, hrest⟩ := List.forall_mem_cons.mp hplanned
    obtain ⟨hformula, hformulas⟩ := List.forall_mem_cons.mp hformulas
    have hlayout : wb.layout = (wb.writeAny kc.1 kc.2).layout := (layout_writeAny wb _ _).symm
    refine But.writeAll hP rest (fun kc' hkc' => ?_) hformulas fun key => ?_
    · exact ⟨(hrest kc' hkc').1.congr hlayout, (hrest kc' hkc').2.congr hlayout⟩
    · by_cases hkey : kc.1 = key
      · subst hkey
        rw [content_writeAny_self hon]
        by_cases hnone : kc.2.expr? = none
        · exact .inl (hP.plain hplan hnone)
        · exact .inr ⟨hformula hnone, wb, hplan⟩
      · rw [content_writeAny_of_ne wb kc.2 hkey]
        exact h key

/-- **An evaluation makes good what is owed to a cell.** -/
theorem But.recalculate (hP : Settled P) {key : Key} (h : wb.But (key :: formulas) P) :
    (wb.recalculate key).1.But formulas P := by
  intro j
  by_cases hkey : key = j
  · subst hkey
    left
    cases he : (wb.content key).expr? with
    | none =>
      rw [recalculate_of_expr?_none he]
      rcases h key with hkey | ⟨-, _, hplan⟩
      · exact hkey
      · exact hP.plain hplan he
    | some e =>
      rw [content_recalculate_self he]
      rcases h key with hkey | ⟨-, _, hplan⟩
      · exact hP.evaluated hkey ⟨wb.source, key⟩ he
      · exact hP.entered hplan he ⟨wb.source, key⟩
  · rw [content_recalculate_of_ne wb hkey]
    refine (h j).imp_right fun ⟨hmem, hplan⟩ => ⟨?_, hplan⟩
    exact (List.mem_cons.mp hmem).resolve_left fun hj => hkey hj.symm

/-- When all that is owed was evaluated, no cell is left out. -/
theorem But.recalculateEach (hP : Settled P) (h : wb.But formulas P) :
    (wb.recalculateEach formulas).1.Everywhere P := by
  induction formulas generalizing wb with
  | nil => exact fun key => (h key).resolve_right fun hkey => nomatch hkey.1
  | cons key formulas ih =>
    rw [recalculateEach_cons_fst]
    exact ih (h.recalculate hP)

/-- **A phase leaves no evaluation owed.** -/
theorem Everywhere.phase {choosing : Bool} (hP : Settled P) (hphase : Phase choosing wb told wb')
    (h : wb.Everywhere P) : wb'.Everywhere P := by
  cases hphase with
  | evaluate key => exact h.recalculate hP.toDurable key
  | enter planned formulas hplanned hformulas =>
    have hbut : wb.But formulas P := fun key => .inl (h key)
    exact (But.writeAll hP planned hplanned hformulas hbut).recalculateEach hP
  | change hchange => exact h.change hP.toDurable hchange
  | tell => exact h

theorem Everywhere.phases {choosing : Bool} (hP : Settled P)
    (hphases : Phases choosing wb told wb') (h : wb.Everywhere P) : wb'.Everywhere P := by
  induction hphases with
  | refl => exact h
  | next hphase _ ih => exact ih (h.phase hP hphase)

end Workbook

/-- **After every run of commands the fields of every cell have come about by writing, and fit
together.** -/
theorem fields_sound (settings : Settings) (commands : List Command) (key : Key) :
    let f := (((Session.start settings).run commands).workbook.content key).fields
    Fields.Reached false f ∧ f.Sound := by
  have hwritten : ((Session.start settings).run commands).workbook.Everywhere Content.Written :=
    Everywhere.phases Content.settled_written ((Session.start settings).phases_run commands)
      (Workbook.everywhere_new Content.durable_written settings)
  exact ⟨hwritten key, (hwritten key).sound.1 rfl⟩

end Spreadsheet
