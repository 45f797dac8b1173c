/-
# Styling leaves contents alone

Choosing a style, and whatever is done to conditional formats, is about styles.  What cells hold
stays as it is, with one exception.

* Formats change styles only, so applying them changes no content whatsoever.
* A cell is dropped when a style is chosen for it, or when formats are undone, and that leaves it
  blank.  A blank cell holds nothing, or it holds the mark that its formula was given up
  (`Cell.content_of_isBlank`), and in a cell that is dropped the mark is lost.
* So values, texts, formulas and edges are the same after styling as before, at every place, and so
  is the status unless the cell is one of those (`Session.styling_keeps_contents`).  That it can be
  one is shown by `Session.status_lost_by_styling`.
-/
import Spreadsheet.Proofs.OwnStyles

namespace Spreadsheet

open Grid Formula Conditional

/-! ## 1. Contents that are spared -/

/-- **What a cell holds stays as it is,** but exactly if `dropped` it is the mark of a formula that
was given up, and that is lost. -/
structure Content.Spared (dropped : Prop) (old new : Content) : Prop where
  lost : dropped → old = .discarded ∧ new = .value .empty
  kept : ¬ dropped → new = old

namespace Content

variable {dropped dropped' : Prop} {old new : Content}

/-- Without a reason to drop it, a cell holds what it held. -/
theorem spared_of_eq (hdropped : ¬ dropped) (h : new = old) : Spared dropped old new :=
  ⟨fun hd => absurd hd hdropped, fun _ => h⟩

theorem Spared.congr (h : Spared dropped old new) (hiff : dropped' ↔ dropped) :
    Spared dropped' old new :=
  ⟨fun hd => h.lost (hiff.mp hd), fun hd => h.kept fun hd' => hd (hiff.mpr hd')⟩

/-- **What cannot tell the mark from nothing sees no difference.** -/
theorem Spared.observe {α : Type} (h : Spared dropped old new) (see : Content → α)
    (hsee : see .discarded = see (.value .empty)) : see new = see old := by
  by_cases hd : dropped
  · obtain ⟨rfl, rfl⟩ := h.lost hd
    exact hsee.symm
  · rw [h.kept hd]

end Content

/-! ## 2. What is lost with a cell -/

namespace Cell

variable {c : Cell}

/-- **A blank cell holds nothing, or the mark that its formula was given up.** -/
theorem content_of_isBlank (h : c.isBlank = true) :
    c.content = .value .empty ∨ c.content = .discarded := by
  simp only [isBlank, value, Bool.and_eq_true] at h
  obtain ⟨⟨⟨hvalue, htext⟩, -⟩, -⟩ := h
  cases hc : c.content with
  | value v =>
    rw [hc] at hvalue
    cases v with
    | empty => exact .inl rfl
    | bool b => cases hvalue
    | number x => cases hvalue
    | text s => cases hvalue
    | error code => cases hvalue
  | formula text e edges result => rw [hc] at htext; cases htext
  | unparsed text => rw [hc] at htext; cases htext
  | discarded => exact .inr rfl

/-- A cell with the mark is blank if no style says otherwise. -/
theorem isBlank_iff_of_discarded (h : c.content = .discarded) :
    c.isBlank = true ↔ c.style = {} ∧ c.baseline = none := by
  simp [isBlank, value, h, Content.shown, Value.isEmpty, Content.formulaText?]

/-- A style that is chosen for a cell leaves it plain only if it is the plain one and no format has
touched the cell. -/
theorem plain_choose_iff (c : Cell) (style : Style) :
    (c.choose style).style = {} ∧ (c.choose style).baseline = none ↔
      style = {} ∧ c.baseline = none := by
  simp only [choose, Option.map_eq_none_iff]
  refine and_congr_left fun hbaseline => ?_
  rw [imposed_eq_none hbaseline, Option.isNone_none, if_pos rfl]

/-- **Of a cell that is dropped if it is blank, at most the mark is lost.** -/
theorem spared_kept (c : Cell) :
    Content.Spared (c.content = .discarded ∧ c.style = {} ∧ c.baseline = none) c.content
      ((if c.isBlank then none else some c).getD default : Cell).content := by
  split
  · rename_i hblank
    refine ⟨fun hd => ⟨hd.1, rfl⟩, fun hd => ?_⟩
    obtain hempty | hdiscarded := content_of_isBlank hblank
    · exact hempty.symm
    · exact absurd ⟨hdiscarded, (isBlank_iff_of_discarded hdiscarded).mp hblank⟩ hd
  · rename_i hblank
    refine Content.spared_of_eq (fun hd => ?_) rfl
    exact hblank ((isBlank_iff_of_discarded hd.1).mpr hd.2)

/-- **Of a cell that is reset, at most the mark is lost.** -/
theorem spared_reset? (c : Cell) :
    Content.Spared (c.content = .discarded ∧ c.own = {}) c.content
      (c.reset?.getD default).content :=
  c.reset.spared_kept.congr (and_congr_right fun _ => (and_iff_left rfl).symm)

end Cell

theorem Sheet.spared_settle (s : Sheet) (place spot : Spot) (c : Cell)
    (hc : c.content = (s.cell place).content) :
    Content.Spared (place = spot ∧ c.content = .discarded ∧ c.style = {} ∧ c.baseline = none)
      (s.cell spot).content ((s.settle place c).cell spot).content := by
  have hsettle : (s.settle place c).cell spot =
      (if place = spot then (if c.isBlank then none else some c) else s.cell? spot).getD default :=
    congrArg (·.getD default) (s.cell?_settle place spot c)
  rw [hsettle]
  split
  · rename_i hspot
    subst hspot
    rw [← hc]
    exact c.spared_kept.congr (and_iff_right rfl)
  · rename_i hspot
    exact Content.spared_of_eq (fun hd => hspot hd.1) rfl

theorem Sheet.spared_resetTouched (s : Sheet) (spot : Spot) :
    Content.Spared (spot ∈ s.touched ∧ (s.cell spot).content = .discarded ∧
        (s.cell spot).own = {}) (s.cell spot).content
      ((Workbook.resetTouched s).cell spot).content := by
  simp only [cell, Workbook.cell?_resetTouched]
  split
  · rename_i hspot
    cases s.cell? spot with
    | none =>
      refine Content.spared_of_eq ?_ rfl
      rintro ⟨-, hmark, -⟩
      cases hmark
    | some c => exact c.spared_reset?.congr (and_iff_right hspot)
  · rename_i hspot
    exact Content.spared_of_eq (fun hd => hspot hd.1) rfl

namespace Workbook

variable {wb : Workbook} {key : Key}

/-! ## 3. Operations on formats -/

theorem content_guard {α β : Type} {check : Except Error β} {go : β → Reply α}
    (h : ∀ b, check = .ok b → (go b).workbook.content key = wb.content key) :
    (Reply.guard wb check go).workbook.content key = wb.content key := by
  cases check with
  | ok b => exact h b rfl
  | error e => rfl

theorem content_foldl_addFormat {sheet : SheetId} {s : Sheet} :
    ∀ (definitions : List (Range × List Rule)) (added : Workbook × List Nat),
      (definitions.foldl (addFormat sheet s) added).1.content key = added.1.content key
  | [], _ => rfl
  | definition :: rest, added => by
    have hadd : (addFormat sheet s added definition).1.content key = added.1.content key := by
      refine content_onSheet_eq sheet ?_ key
      exact fun _ _ _ => rfl
    exact (content_foldl_addFormat rest _).trans hadd

theorem content_addFormats (wb : Workbook) (sheet : SheetId)
    (definitions : List (Range × List Rule)) (key : Key) :
    (wb.addFormats sheet definitions).workbook.content key = wb.content key := by
  refine content_guard fun s _ => ?_
  exact (content_applyFormats _ _ key).trans (content_foldl_addFormat definitions (wb, []))

theorem content_removeFormat (wb : Workbook) (sheet : SheetId) (format : Nat) (key : Key) :
    (wb.removeFormat sheet format).workbook.content key = wb.content key := by
  refine content_guard fun s _ => ?_
  split
  · rfl
  · refine (content_applyFormats _ _ key).trans (content_onSheet_eq sheet (fun s spot _ => ?_) key)
    refine eq_of_map (f := Cell.content) (fun _ c => ?_) s spot
    split <;> rfl

theorem content_reapplyFormat (wb : Workbook) (sheet : SheetId) (format : Nat) (key : Key) :
    (wb.reapplyFormat sheet format).workbook.content key = wb.content key := by
  unfold reapplyFormat
  split
  · rfl
  · refine content_guard fun s _ => ?_
    split
    · rfl
    · exact content_applyFormats _ wb key

theorem content_reapplyFormats (wb : Workbook) (sheet : SheetId) (key : Key) :
    (wb.reapplyFormats sheet).workbook.content key = wb.content key :=
  content_guard fun _ _ => content_applyFormats _ wb key

/-! ## 4. Operations that can drop a cell -/

/-- The place is noted as one of those that formats have touched. -/
def HasNoted (wb : Workbook) (key : Key) : Prop :=
  ∃ s, wb.sheet? key.sheet = some s ∧ key.spot ∈ s.touched

/-- A style that is chosen for a place is settled there, and the formats are refreshed. -/
theorem workbook_setStyle (hon : wb.Has key) (style : Style) :
    (wb.setStyle key style).workbook = (wb.onSheet key.sheet fun s =>
      s.settle key.spot ((s.cell key.spot).choose style)).refreshFormats [key] := by
  obtain ⟨s, hs, hcheck⟩ := hon
  rw [setStyle, sheet, hs, Reply.guard_ok, hcheck, Reply.guard_ok]

/-- No style is chosen for what is no place. -/
theorem workbook_setStyle_of_not_has (hoff : ¬ wb.Has key) (style : Style) :
    (wb.setStyle key style).workbook = wb := by
  unfold setStyle
  cases hs : wb.sheet key.sheet with
  | error e => rfl
  | ok s =>
    rw [Reply.guard_ok]
    cases hcheck : s.check key.spot with
    | error e => rfl
    | ok u => exact absurd (has_of_check hs hcheck) hoff

/-- **Choosing a style can drop the cell it is chosen for.** -/
theorem spared_setStyle (wb : Workbook) (place : Key) (style : Style) (key : Key) :
    Content.Spared (wb.Has place ∧ place = key ∧ wb.content key = .discarded ∧ style = {} ∧
        (wb.cell key).baseline = none)
      (wb.content key) ((wb.setStyle place style).workbook.content key) := by
  by_cases hon : wb.Has place
  · rw [workbook_setStyle hon, refreshFormats, content_applyFormats, content, content,
      cell_eq_elim, cell_eq_elim, sheet?_onSheet]
    by_cases hsheet : place.sheet = key.sheet
    · obtain ⟨s, hs, -⟩ := id hon
      rw [if_pos hsheet, ← hsheet, hs]
      have hspared := s.spared_settle place.spot key.spot ((s.cell place.spot).choose style) rfl
      rw [Cell.plain_choose_iff] at hspared
      refine hspared.congr ⟨?_, ?_⟩
      · rintro ⟨-, rfl, hmark⟩
        exact ⟨rfl, hmark⟩
      · rintro ⟨hspot, hmark⟩
        obtain ⟨id, spot⟩ := place
        obtain ⟨id', spot'⟩ := key
        obtain rfl : id = id' := hsheet
        obtain rfl : spot = spot' := hspot
        exact ⟨hon, rfl, hmark⟩
    · rw [if_neg hsheet]
      exact Content.spared_of_eq (fun hd => hsheet (congrArg Key.sheet hd.2.1)) rfl
  · rw [workbook_setStyle_of_not_has hon]
    exact Content.spared_of_eq (fun hd => hon hd.1) rfl

/-- **Undoing what formats did can drop any cell that they had touched.** -/
theorem spared_resetFormatting (wb : Workbook) (sheet : SheetId) (key : Key) :
    Content.Spared (sheet = key.sheet ∧ wb.HasNoted key ∧ wb.content key = .discarded ∧
        (wb.cell key).own = {})
      (wb.content key) ((wb.resetFormatting sheet).workbook.content key) := by
  unfold resetFormatting
  by_cases hsheet : sheet = key.sheet
  · subst hsheet
    cases hs : wb.sheet? key.sheet with
    | none =>
      rw [Workbook.sheet, hs, Reply.guard_error]
      refine Content.spared_of_eq ?_ rfl
      rintro ⟨-, ⟨s, hs', -⟩, -⟩
      rw [hs] at hs'
      cases hs'
    | some s =>
      rw [Workbook.sheet, hs, Reply.guard_ok, content, content, cell_eq_elim, cell_eq_elim,
        sheet?_onSheet, if_pos rfl, hs]
      refine (s.spared_resetTouched key.spot).congr ?_
      simp only [HasNoted, hs, Option.some.injEq, exists_eq_left', true_and, Option.elim_some]
  · refine Content.spared_of_eq (fun hd => hsheet hd.1) (content_guard fun s _ => ?_)
    rw [content, content, cell_eq_elim, cell_eq_elim, sheet?_onSheet, if_neg hsheet]

end Workbook

/-! ## 5. Commands that style -/

/-- Whether a command is about styles: it chooses one, or is about conditional formats. -/
def Command.styles : Command → Bool
  | .setStyle _ _ | .addFormats _ _ | .removeFormat _ _ | .reapplyFormat _ _ | .reapplyFormats _
  | .resetFormatting _ => true
  | _ => false

/-- **Where a command drops the mark that a formula was given up.**  Choosing the plain style does
that to the cell it is chosen for, unless formats have touched the cell; undoing what formats did
does it to the cells of the sheet that are noted because they have touched them, unless those have a
style of their own. -/
def Workbook.DropsMark (wb : Workbook) (key : Key) : Command → Prop
  | .setStyle place style => wb.Has place ∧ place = key ∧ wb.content key = .discarded ∧
      style = {} ∧ (wb.cell key).baseline = none
  | .resetFormatting sheet => sheet = key.sheet ∧ wb.HasNoted key ∧ wb.content key = .discarded ∧
      (wb.cell key).own = {}
  | _ => False

namespace Session

open Workbook

variable {s : Session} {c : Command}

/-- **A command about styles spares what cells hold.** -/
theorem spared_step (s : Session) (hc : c.styles = true) (key : Key) :
    Content.Spared (s.workbook.DropsMark key c) (s.workbook.content key)
      ((s.step c).session.workbook.content key) := by
  cases c with
  | setStyle place style => exact spared_setStyle ..
  | addFormats sheet definitions => exact Content.spared_of_eq id (content_addFormats ..)
  | removeFormat sheet format => exact Content.spared_of_eq id (content_removeFormat ..)
  | reapplyFormat sheet format => exact Content.spared_of_eq id (content_reapplyFormat ..)
  | reapplyFormats sheet => exact Content.spared_of_eq id (content_reapplyFormats ..)
  | resetFormatting sheet => exact spared_resetFormatting ..
  | _ => cases hc

/-- **Styling never touches content,** with one exception.  A command about styles, accepted or not,
leaves the value, the text that is shown, the formula and its text, and the edges of every cell as
they were.  It leaves everything that the cell holds as it was, its status too, unless it drops the
mark that the formula was given up.  Then the status is lost. -/
theorem styling_keeps_contents (s : Session) (hc : c.styles = true) (key : Key) :
    let before := s.workbook.content key
    let after := (s.step c).session.workbook.content key
    (after.shown = before.shown ∧ after.display = before.display ∧
        after.formulaText? = before.formulaText? ∧ after.expr? = before.expr? ∧
        after.edges = before.edges) ∧
      (¬ s.workbook.DropsMark key c → after = before) ∧
      (s.workbook.DropsMark key c →
        before.status = .circularReference ∧ after.status = .normal) := by
  intro before after
  have h : Content.Spared (s.workbook.DropsMark key c) before after := spared_step s hc key
  refine ⟨⟨h.observe Content.shown rfl, h.observe Content.display rfl,
    h.observe Content.formulaText? rfl, h.observe Content.expr? rfl,
    h.observe Content.edges rfl⟩, h.kept, fun hd => ?_⟩
  obtain ⟨hbefore, hafter⟩ := h.lost hd
  rw [hbefore, hafter]
  exact ⟨rfl, rfl⟩

/-- A formula that a format made bold holds after a reset what it held before. -/
theorem styling_keeps_contents_reset :
    let bold : List Rule := [⟨.expression (.ofText "=TRUE"), 1, { bold := some true }⟩]
    let reader : Key := ⟨⟨0⟩, ⟨0, 1⟩⟩
    let s := (Session.start {}).run [.setValue ⟨⟨0⟩, ⟨0, 0⟩⟩ (.text "x"), .setFormula reader "=A1",
      .addFormats ⟨0⟩ [(.make 0 0 1 3, bold)]]
    let c : Command := .resetFormatting ⟨0⟩
    c.styles = true ∧ s.workbook.style reader = { bold := true } ∧
      (s.workbook.content reader).formulaText? = some "=A1" ∧
      (s.step c).session.workbook.style reader = {} ∧
      (s.step c).session.workbook.content reader = s.workbook.content reader := by
  intro bold reader s c
  have hseen : s.workbook.style reader = { bold := true } := by decide +kernel
  have htext : (s.workbook.content reader).formulaText? = some "=A1" := by decide +kernel
  have hreset : (s.step c).session.workbook.style reader = {} := by decide +kernel
  have hkept : ¬ s.workbook.DropsMark reader c := by
    rintro ⟨-, -, hmark, -⟩
    rw [hmark] at htext
    cases htext
  obtain ⟨-, hsame, -⟩ := styling_keeps_contents s (c := c) rfl reader
  exact ⟨rfl, hseen, htext, hreset, hsame hkept⟩

/-- **The mark that a formula was given up does not outlive styling.**  A formula that reads its own
cell leaves the cell with the status that says so.  Choosing the plain style for the cell, or
undoing what a format did to it, leaves the cell with no status to speak of. -/
theorem status_lost_by_styling :
    let bold : List Rule := [⟨.expression (.ofText "=TRUE"), 1, { bold := some true }⟩]
    let place : Key := ⟨⟨0⟩, ⟨0, 0⟩⟩
    let s := (Session.start {}).run [.setFormula place "=A1"]
    let styled := s.step (.setStyle place {})
    let t := s.run [.addFormats ⟨0⟩ [(.make 0 0 1 1, bold)]]
    let reset := t.step (.resetFormatting ⟨0⟩)
    s.workbook.status place = .circularReference ∧ styled.answer.isOk = true ∧
      styled.session.workbook.status place = .normal ∧
      t.workbook.status place = .circularReference ∧ reset.answer.isOk = true ∧
      reset.session.workbook.status place = .normal := by
  decide +kernel

end Session

end Spreadsheet
