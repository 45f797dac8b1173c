/-
# The style that was chosen for a cell

* Conditional formats impose styles on a cell and take them off again.  Whatever they do, the cell's
  own style is the one that was chosen for it last: few changes choose a style or move cells, and all
  others keep own styles (`keepsOwn_change`).
* So the own styles can be told from the commands alone (`Session.chosen`), however many formats
  there are and whenever they are applied (`wears_run`).
* Undoing what formats did visits only the places that the sheet has noted.  Since these are the
  cells with a baseline, nothing is left imposed on any cell, and own styles are seen again
  (`resetFormatting_shows_chosen`).
-/
import Spreadsheet.Proofs.Rejection
import Spreadsheet.Proofs.Touched

namespace Spreadsheet

open Grid Formula Conditional

namespace Workbook

variable {choosing : Bool} {wb wb' wb'' : Workbook} {key : Key} {told : List Event}

/-! ## 1. What keeps own styles -/

/-- **What changes no own style.** -/
def KeepsOwn (wb wb' : Workbook) : Prop := ∀ key, (wb'.cell key).own = (wb.cell key).own

theorem KeepsOwn.refl (wb : Workbook) : KeepsOwn wb wb := fun _ => rfl

theorem KeepsOwn.trans (h : KeepsOwn wb wb') (h' : KeepsOwn wb' wb'') : KeepsOwn wb wb'' :=
  fun key => (h' key).trans (h key)

/-- What keeps the own styles of a sheet. -/
theorem keepsOwn_onSheet (id : SheetId) {change : Sheet → Sheet}
    (h : ∀ s spot, wb.sheet? id = some s → ((change s).cell spot).own = (s.cell spot).own) :
    KeepsOwn wb (wb.onSheet id change) :=
  cell_onSheet_rel (R := fun c c' => c'.own = c.own) (fun _ => rfl) id h

theorem keepsOwn_onSheets {change : SheetId → Sheet → Sheet}
    (h : ∀ id s spot, ((change id s).cell spot).own = (s.cell spot).own) (wb : Workbook) :
    KeepsOwn wb (wb.onSheets change) := by
  intro key
  rw [cell_eq_elim, cell_eq_elim, sheet?_onSheets]
  cases wb.sheet? key.sheet with
  | none => rfl
  | some s => exact h key.sheet s key.spot

theorem keepsOwn_recalculateEach (keys : List Key) (wb : Workbook) :
    KeepsOwn wb (wb.recalculateEach keys).1 := by
  intro j
  have hsame := (undisturbed_recalculateEach keys wb j).cell_same
  rw [Cell.own, Cell.own, hsame.baseline_eq, hsame.style_eq]

/-- **Whatever is written into a cell, its own style stays.** -/
theorem keepsOwn_writeAny (wb : Workbook) (key : Key) (content : Content) :
    KeepsOwn wb (wb.writeAny key content) := by
  have hcontent (content : Content) : KeepsOwn wb (wb.writeContent key content) :=
    keepsOwn_onSheet _ fun s spot _ => Cell.ofStyles_own.writeContent s key.spot spot content
  cases content with
  | value v =>
    exact keepsOwn_onSheet _ fun s spot _ => Cell.ofStyles_own.writeValue s key.spot spot v
  | formula text e edges result => exact hcontent _
  | unparsed text => exact hcontent _
  | discarded => exact hcontent _

theorem keepsOwn_writeAll (planned : List (Key × Content)) (wb : Workbook) :
    KeepsOwn wb (wb.writeAll planned) := by
  induction planned generalizing wb with
  | nil => exact .refl wb
  | cons kc planned ih => exact (keepsOwn_writeAny wb kc.1 kc.2).trans (ih _)

theorem keepsOwn_rebuild (wb : Workbook) : KeepsOwn wb wb.rebuild := by
  refine keepsOwn_onSheets (fun id s spot => ?_) wb
  exact Cell.ofStyles_own.mapContents s _ spot

/-- **A format changes no own style.** -/
theorem keepsOwn_applyFormat (wb : Workbook) (id : SheetId) (format : Format) :
    KeepsOwn wb (wb.applyFormat id format) :=
  keepsOwn_onSheet id fun s spot _ =>
    eq_of_restyleSheet Cell.own_restore Cell.own_impose s _ spot

/-- A cell that is reset keeps its own style, also if it goes. -/
theorem own_bind_reset? (c? : Option Cell) :
    ((c?.bind Cell.reset?).getD default).own = (c?.getD default).own := by
  cases c? with
  | none => rfl
  | some c => exact Cell.ofStyles_own.kept c.reset

theorem keepsOwn_resetTouched (wb : Workbook) (id : SheetId) :
    KeepsOwn wb (wb.onSheet id resetTouched) := by
  refine keepsOwn_onSheet id fun s spot _ => ?_
  rw [Sheet.cell, cell?_resetTouched]
  split
  · exact own_bind_reset? _
  · rfl

/-- **Whatever is done besides choosing styles and moving cells keeps own styles.** -/
theorem keepsOwn_change (h : Change false wb wb') : KeepsOwn wb wb' := by
  cases h with
  | setStyle hchoosing => cases hchoosing
  | resetSheet hchoosing => cases hchoosing
  | removeBand hchoosing => cases hchoosing
  | applyFormat _ => exact keepsOwn_applyFormat wb _ _
  | @addFormat sheet s _ ids definition =>
    have hadd : KeepsOwn wb (wb.onSheet sheet fun t => { t with
        formats := t.formats.put wb.nextFormat
          (wb.retrigger sheet ⟨definition.1.cut s.rows s.cols, definition.2, []⟩) }) :=
      keepsOwn_onSheet sheet fun _ _ _ => rfl
    exact hadd
  | removeFormat _ _ =>
    refine keepsOwn_onSheet _ fun s spot _ => eq_of_map (f := Cell.own) (fun _ c => ?_) s spot
    split
    · exact c.own_restore
    · rfl
  | resetFormatting sheet => exact keepsOwn_resetTouched wb sheet
  | merge hs hmerge =>
    obtain ⟨merged, hchange⟩ := exists_onSheet_merge hs hmerge
    rw [hchange]
    exact keepsOwn_onSheet _ fun _ _ _ => rfl
  | unmerge id range => exact keepsOwn_onSheet id fun _ _ _ => rfl
  | onArrows id change => exact keepsOwn_onSheet id fun _ _ _ => rfl
  | changeSettings settings => exact fun _ => rfl
  | rebuild => exact keepsOwn_rebuild wb
  | addSheet _ rows cols =>
    refine KeepsOwn.trans (fun key => ?_) (keepsOwn_rebuild _)
    exact congrArg Cell.own (wb.cell_addSheet (fun _ => rfl) key)
  | @defineName id =>
    refine KeepsOwn.trans ?_ (keepsOwn_rebuild _)
    exact keepsOwn_onSheet id fun _ _ _ => rfl
  | removeName id name =>
    refine KeepsOwn.trans ?_ (keepsOwn_rebuild _)
    exact keepsOwn_onSheet id fun _ _ _ => rfl

theorem Phase.keepsOwn (h : Phase false wb told wb') : KeepsOwn wb wb' := by
  cases h with
  | evaluate key => exact keepsOwn_recalculateEach [key] wb
  | enter planned formulas _ _ =>
    exact (keepsOwn_writeAll planned wb).trans (keepsOwn_recalculateEach formulas _)
  | change h => exact keepsOwn_change h
  | tell => exact .refl wb

/-- **A run of phases that chooses no style keeps own styles.** -/
theorem Phases.keepsOwn (h : Phases false wb told wb') : KeepsOwn wb wb' := by
  induction h with
  | refl => exact .refl _
  | next h _ ih => exact h.keepsOwn.trans ih

/-- Finding the edges again and recalculating keep own styles. -/
theorem keepsOwn_refresh {α : Type} (wb : Workbook) (answer : α) :
    KeepsOwn wb (wb.refresh answer).workbook :=
  (phased_refresh (.rebuild wb) answer).keepsOwn

end Workbook

/-! ## 2. Choices -/

/-- The lines that a removal takes from a sheet: as many as there are. -/
def Sheet.bandLost? (s : Sheet) (axis : Axis) (first count : Nat) : Option Span :=
  let count := min count (s.extent axis - first)
  if h : 0 < count then some ⟨first, count, h⟩ else none

/-- The place that has become `k` by a removal of lines from a sheet. -/
def Workbook.cameFrom (wb : Workbook) (k : Key) (sheet : SheetId) (axis : Axis)
    (first count : Nat) : Key :=
  ((wb.sheet? sheet).bind (·.bandLost? axis first count)).elim k (k.restored sheet axis)

namespace Session

/-- **The styles that are chosen for cells after a command,** given those that were before.  A style
is chosen by the command that sets it, follows the cell when lines are removed, and is dropped when
the sheet is emptied.  A rejected command chooses nothing. -/
def choose (s : Session) (chosen : Key → Style) (c : Command) : Key → Style :=
  if (s.step c).answer.isOk then
    match c with
    | .setStyle key style => fun k => if k = key then style else chosen k
    | .deleteLines sheet axis first count => fun k =>
      chosen (s.workbook.cameFrom k sheet axis first count)
    | .resetSheet sheet _ _ => fun k => if k.sheet = sheet then {} else chosen k
    | _ => chosen
  else
    chosen

/-- **The styles that are chosen for cells after a run of commands.** -/
def chosen (s : Session) : List Command → (Key → Style) → Key → Style
  | [], before => before
  | c :: rest, before => (s.step c).session.chosen rest (s.choose before c)

end Session

namespace Workbook

variable {wb wb' : Workbook} {key : Key} {chosen : Key → Style}

/-- **A workbook whose cells have the chosen styles as their own.** -/
def Wears (wb : Workbook) (chosen : Key → Style) : Prop := ∀ key, (wb.cell key).own = chosen key

theorem Wears.keeps (h : wb.Wears chosen) (hkeeps : KeepsOwn wb wb') : wb'.Wears chosen :=
  fun key => (hkeeps key).trans (h key)

theorem wears_new (settings : Settings) : (new settings).Wears fun _ => {} := by
  rintro ⟨⟨i⟩, spot⟩
  rw [cell_eq_elim]
  cases i <;> rfl

/-- The own styles of the cells of a sheet are those that were chosen for its places. -/
theorem Wears.own_eq (h : wb.Wears chosen) {id : SheetId} {s : Sheet} (hs : wb.sheet? id = some s)
    (spot : Spot) : (s.cell spot).own = chosen ⟨id, spot⟩ := by
  have hown := h ⟨id, spot⟩
  rwa [cell_eq_elim, hs, Option.elim_some] at hown

/-- A change of one sheet concerns the styles that were chosen there, and no others. -/
theorem Wears.onSheet (h : wb.Wears chosen) {after : Key → Style} {id : SheetId} {s : Sheet}
    (hs : wb.sheet? id = some s) {change : Sheet → Sheet}
    (hself : ∀ spot, ((change s).cell spot).own = after ⟨id, spot⟩)
    (hother : ∀ key, key.sheet ≠ id → after key = chosen key) :
    (wb.onSheet id change).Wears after := by
  rintro ⟨sheet, spot⟩
  rw [cell_eq_elim, sheet?_onSheet]
  by_cases hsheet : id = sheet
  · subst hsheet
    rw [if_pos rfl, hs, Option.map_some, Option.elim_some]
    exact hself spot
  · rw [if_neg hsheet, ← cell_eq_elim, hother _ (Ne.symm hsheet)]
    exact h _

/-- **A chosen style becomes the own one,** also of a cell that is not worth keeping for it. -/
theorem Wears.setStyle (h : wb.Wears chosen) {style : Style}
    (hok : (wb.setStyle key style).answer = .ok ()) :
    (wb.setStyle key style).workbook.Wears fun k => if k = key then style else chosen k := by
  unfold Workbook.setStyle at hok ⊢
  obtain ⟨s, hs⟩ := exists_of_guard hok
  rw [hs, Reply.guard_ok] at hok ⊢
  obtain ⟨u, hcheck⟩ := exists_of_guard hok
  rw [hcheck, Reply.guard_ok]
  refine Wears.keeps ?_ (phases_refreshFormats _ _).keepsOwn
  refine h.onSheet (sheet_eq_ok hs) (fun spot => ?_) fun k hk => ?_
  · rw [Cell.ofStyles_own.settle, Cell.own_choose, h.own_eq (sheet_eq_ok hs)]
    refine if_congr ?_ rfl rfl
    obtain ⟨sheet, place⟩ := key
    simp [eq_comm]
  · exact if_neg fun heq => hk (congrArg Key.sheet heq)

/-- **An emptied sheet has no chosen styles.** -/
theorem Wears.resetSheet (h : wb.Wears chosen) {id : SheetId} {rows cols : Nat}
    (hok : (wb.resetSheet id rows cols).answer = .ok ()) :
    (wb.resetSheet id rows cols).workbook.Wears fun k => if k.sheet = id then {} else chosen k := by
  unfold Workbook.resetSheet at hok ⊢
  obtain ⟨s, hs⟩ := exists_of_guard hok
  rw [hs, Reply.guard_ok]
  refine Wears.keeps ?_ (keepsOwn_refresh _ ())
  refine h.onSheet (sheet_eq_ok hs) (fun spot => ?_) fun k hk => if_neg hk
  rw [if_pos rfl]
  rfl

/-- **Chosen styles go where their cells go** when a sheet loses lines. -/
theorem Wears.without (h : wb.Wears chosen) {id : SheetId} {s : Sheet} (htidy : s.Tidy)
    {axis : Axis} {band : Span} (hs : wb.sheet? id = some s)
    (hband : band.first + band.count ≤ s.extent axis) :
    (wb.onSheet id (·.without axis band)).Wears fun k => chosen (k.restored id axis band) := by
  refine h.onSheet hs (fun spot => ?_) fun k hk => congrArg chosen (restored_of_ne hk)
  rw [restored_of_eq rfl, Sheet.cell, htidy.cell?_without hband]
  exact h.own_eq hs _

theorem Wears.removeBand (h : wb.Wears chosen) (htidy : wb.Tidy) {id : SheetId} {s : Sheet}
    {axis : Axis} {band : Span} (hs : wb.sheet? id = some s)
    (hband : band.first + band.count ≤ s.extent axis) :
    (wb.removeBand id axis band).Wears fun k => chosen (k.restored id axis band) := by
  have hfollow : KeepsOwn wb (wb.onSheets (followSheet id (wb.sheetName id) axis band)) := by
    refine keepsOwn_onSheets (fun id s spot => ?_) wb
    exact Cell.ofStyles_own.mapContents s _ spot
  have hs' : (wb.onSheets (followSheet id (wb.sheetName id) axis band)).sheet? id =
      some (followSheet id (wb.sheetName id) axis band id s) := by
    rw [sheet?_onSheets, hs]
    rfl
  refine (h.keeps hfollow).without (htidy.follow id (wb.sheetName id) axis band id _ hs') hs' ?_
  cases axis <;> exact hband

/-- **A removal moves the chosen styles with their cells.** -/
theorem Wears.deleteLines (h : wb.Wears chosen) (htidy : wb.Tidy) {id : SheetId} {axis : Axis}
    {first count : Nat} (hok : (wb.deleteLines id axis first count).answer = .ok ()) :
    (wb.deleteLines id axis first count).workbook.Wears fun k =>
      chosen (wb.cameFrom k id axis first count) := by
  unfold Workbook.deleteLines at hok ⊢
  obtain ⟨s, hsheet⟩ := exists_of_guard hok
  have hs := sheet_eq_ok hsheet
  rw [hsheet, Reply.guard_ok] at hok ⊢
  obtain ⟨u, hcheck⟩ := exists_of_guard hok
  rw [hcheck, Reply.guard_ok]
  simp only [cameFrom, hs, Option.bind_some, Sheet.bandLost?]
  split
  · rename_i hlost
    have hfirst := Sheet.check_eq_ok_iff_along.mp hcheck axis
    rw [Spot.along_withAlong] at hfirst
    refine Wears.keeps (h.removeBand htidy hs ?_) (keepsOwn_refresh _ ())
    dsimp only
    omega
  · exact h

end Workbook

/-! ## 3. Runs -/

namespace Session

open Workbook Reply

variable {s : Session} {chosen : Key → Style} {c : Command}

theorem choose_of_not_chooses (hc : c.chooses = false) : s.choose chosen c = chosen := by
  cases c <;> first | exact ite_self _ | cases hc

/-- **Every other command keeps own styles.** -/
theorem keepsOwn_step (s : Session) (hc : c.chooses = false) :
    KeepsOwn s.workbook (s.step c).session.workbook :=
  Phases.keepsOwn (hc ▸ s.phases_step c)

/-- A command that is rejected leaves the styles that were chosen before. -/
theorem wears_turnDone {r : Reply Unit} {after : Key → Style} (h : s.workbook.Wears chosen)
    (hharmless : r.Harmless s.workbook) (hok : r.answer = .ok () → r.workbook.Wears after) :
    (s.turnDone r).session.workbook.Wears
      (if (s.turnDone r).answer.isOk then after else chosen) := by
  cases hr : r.answer with
  | ok u =>
    have hanswer : (s.turnDone r).answer.isOk = true := by
      simp only [turnDone, turn, hr, Except.map, Except.isOk, Except.toBool]
    rw [if_pos hanswer]
    exact hok hr
  | error e =>
    have hanswer : (s.turnDone r).answer.isOk = false := by
      simp only [turnDone, turn, hr, Except.map, Except.isOk, Except.toBool]
    have hsame : (s.turnDone r).session.workbook = s.workbook := hharmless.workbook_eq hr
    rw [hanswer, hsame]
    exact h

/-- **A command leaves cells with the styles that are chosen after it.** -/
theorem wears_step (h : s.workbook.Wears chosen) (htidy : s.workbook.Tidy) (c : Command) :
    (s.step c).session.workbook.Wears (s.choose chosen c) := by
  cases hc : c.chooses with
  | false =>
    rw [choose_of_not_chooses hc]
    exact h.keeps (keepsOwn_step s hc)
  | true =>
    cases c with
    | setStyle key style =>
      exact wears_turnDone h (harmless_setStyle ..) fun hok => h.setStyle hok
    | resetSheet sheet rows cols =>
      exact wears_turnDone h (harmless_resetSheet ..) fun hok => h.resetSheet hok
    | deleteLines sheet axis first count =>
      exact wears_turnDone h (harmless_deleteLines ..) fun hok => h.deleteLines htidy hok
    | _ => cases hc

/-- **A run of commands does so, too.**  Its sheets stay tidy on the way. -/
theorem wears_run (h : s.workbook.Wears chosen) (htidy : s.workbook.Tidy)
    (commands : List Command) : (s.run commands).workbook.Wears (s.chosen commands chosen) := by
  induction commands generalizing s chosen with
  | nil => exact h
  | cons c commands ih =>
    exact ih (wears_step h htidy c) (htidy.edits (s.phases_step c).edits)

/-! ## 4. What is seen -/

/-- A cell without an imposed style shows its own one. -/
theorem style_of_not_imposed {c : Cell} (h : c.imposed = none) : c.style = c.own := by
  rw [c.style_eq, h, Option.getD_none]

/-- **After formats were undone on a sheet, nothing is imposed on any cell of it.**  No cell was
passed over: a place that is not noted has no baseline, and nothing is imposed without one. -/
theorem imposed_resetFormatting {wb : Workbook} (h : wb.Noted) (key : Key) :
    ((wb.resetFormatting key.sheet).workbook.cell key).imposed = none := by
  unfold resetFormatting
  cases hs : wb.sheet? key.sheet with
  | none =>
    rw [sheet, hs, guard_error]
    change (wb.cell key).imposed = none
    rw [cell_eq_elim, hs]
    rfl
  | some s =>
    rw [sheet, hs, guard_ok, cell_eq_elim, sheet?_onSheet, if_pos rfl, hs, Option.map_some,
      Option.elim_some]
    have hfree := (h key.sheet s hs).resetTouched.mem_iff key.spot
    refine Cell.imposed_eq_none (Option.not_isSome_iff_eq_none.mp fun hbased => ?_)
    exact List.not_mem_nil (hfree.mpr hbased)

/-- **No chosen style is lost to formats.**  After any run of commands, undoing what formats did
shows every cell of the sheet in the style that was chosen for it last, and a cell on which nothing
is imposed shows that style already. -/
theorem resetFormatting_shows_chosen (settings : Settings) (commands : List Command) (key : Key) :
    let s := (Session.start settings).run commands
    let style := (Session.start settings).chosen commands (fun _ => {}) key
    ((s.workbook.sheet? key.sheet).isSome = true →
        (s.step (.resetFormatting key.sheet)).answer.isOk = true) ∧
      (s.step (.resetFormatting key.sheet)).session.workbook.style key = style ∧
      ((s.workbook.cell key).imposed = none → s.workbook.style key = style) := by
  intro s style
  have hown : (s.workbook.cell key).own = style :=
    wears_run (wears_new settings) (tidy_new settings) commands key
  have hnoted : s.workbook.Noted := Reachable.noted ⟨settings, commands, rfl⟩
  refine ⟨fun hsheet => ?_, ?_, fun hnone => ?_⟩
  · obtain ⟨t, ht⟩ := Option.isSome_iff_exists.mp hsheet
    simp only [step, turnDone, turn, resetFormatting, sheet, ht, guard_ok]
    rfl
  · have hkeeps := keepsOwn_step s (c := .resetFormatting key.sheet) rfl key
    change ((s.workbook.resetFormatting key.sheet).workbook.cell key).own = _ at hkeeps
    change ((s.workbook.resetFormatting key.sheet).workbook.cell key).style = style
    rw [style_of_not_imposed (imposed_resetFormatting hnoted key), hkeeps, hown]
  · exact (style_of_not_imposed hnone).trans hown

/-- A cell is styled while a format covers it and moves up when a row goes.  It is seen in the style
that the format makes, and after a reset in its own one.  A cell outside the format is styled, too,
and shows its own style all along. -/
theorem resetFormatting_shows_chosen_moved :
    let bold : List Rule := [⟨.expression (.ofText "=TRUE"), 1, { bold := some true }⟩]
    let commands : List Command := [.addFormats ⟨0⟩ [(.make 0 0 5 3, bold)],
      .setStyle ⟨⟨0⟩, ⟨2, 1⟩⟩ { italic := true }, .setStyle ⟨⟨0⟩, ⟨8, 4⟩⟩ { italic := true },
      .deleteLines ⟨0⟩ .rows 0 1]
    let s := (Session.start {}).run commands
    let moved : Key := ⟨⟨0⟩, ⟨1, 1⟩⟩
    let outside : Key := ⟨⟨0⟩, ⟨7, 4⟩⟩
    s.workbook.style moved = { bold := true, italic := true } ∧
      (s.step (.resetFormatting ⟨0⟩)).answer.isOk = true ∧
      (s.step (.resetFormatting ⟨0⟩)).session.workbook.style moved = { italic := true } ∧
      s.workbook.style outside = { italic := true } := by
  intro bold commands s moved outside
  have hseen : s.workbook.style moved = { bold := true, italic := true } := by decide +kernel
  have hsheet : (s.workbook.sheet? ⟨0⟩).isSome = true := by decide +kernel
  have hfree : (s.workbook.cell outside).imposed = none := by decide +kernel
  have hmoved : (Session.start {}).chosen commands (fun _ => {}) moved = { italic := true } := by
    decide +kernel
  have houtside :
      (Session.start {}).chosen commands (fun _ => {}) outside = { italic := true } := by
    decide +kernel
  obtain ⟨hanswer, hreset, -⟩ := resetFormatting_shows_chosen {} commands moved
  obtain ⟨-, -, hshown⟩ := resetFormatting_shows_chosen {} commands outside
  exact ⟨hseen, hanswer hsheet, hreset.trans hmoved, (hshown hfree).trans houtside⟩

end Session

end Spreadsheet
