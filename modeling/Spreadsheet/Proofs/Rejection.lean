/-
# What a rejection leaves behind

* An operation asks all its questions before it writes.  So a rejected command leaves the workbook
  as it was and tells of no change.  The one exception is a formula that is refused because it reads
  its own cell (`harmless_step`, `harmless_setFormula`).
* A block is planned as a whole before its first cell is written.  It might as well be written cell
  by cell, each text read and its edges found only when its turn comes: what was accepted in the
  beginning can still be written then, because writing keeps the layout, and it becomes the same,
  because no cell has two turns (`writeBlock_eq_stepwise`).
-/
import Mathlib.Data.List.Nodup
import Spreadsheet.Proofs.Blocks
import Spreadsheet.Proofs.StoredText

namespace Spreadsheet

open Grid Formula Conditional

/-! ## 1. Harmless replies -/

namespace Reply

/-- **A reply that leaves things alone if it rejects:** the workbook is the given one, and nothing
is told but that a fill was asked for. -/
structure Harmless {α : Type} (r : Reply α) (wb : Workbook) : Prop where
  workbook_eq : ∀ {e}, r.answer = .error e → r.workbook = wb
  told : ∀ {e}, r.answer = .error e → ∀ event ∈ r.events, ∃ request, event = .beforeFill request

variable {α β : Type} {wb : Workbook} {r : Reply α}

/-- What is not rejected does no harm. -/
theorem harmless_of_ok {a : α} (h : r.answer = .ok a) : r.Harmless wb := by
  constructor <;> intro e he <;> rw [h] at he <;> cases he

theorem harmless_keep (wb : Workbook) (answer : Except Error α) : (keep wb answer).Harmless wb :=
  ⟨fun _ => rfl, fun _ => nofun⟩

/-- **A check that does not pass does no harm.** -/
theorem harmless_guard {check : Except Error β} {go : β → Reply α}
    (h : ∀ b, check = .ok b → (go b).Harmless wb) : (guard wb check go).Harmless wb := by
  cases check with
  | error e => exact harmless_keep wb (.error e)
  | ok b => exact h b rfl

/-- What is made of the answer does not matter. -/
theorem Harmless.map (h : r.Harmless wb) (f : α → β) :
    (Reply.mk (r.answer.map f) r.workbook r.events).Harmless wb := by
  have hanswer {e : Error} (he : r.answer.map f = .error e) : r.answer = .error e := by
    cases hr : r.answer with
    | error e' =>
      simp only [hr, Except.map, Except.error.injEq] at he
      rw [he]
    | ok a => simp only [hr, Except.map, reduceCtorEq] at he
  exact ⟨fun he => h.workbook_eq (hanswer he), fun he => h.told (hanswer he)⟩

end Reply

open Reply

namespace Workbook

variable {wb wb' : Workbook} {key : Key}

/-! ## 2. Entries in turn -/

/-- **Whether a block may have an entry for a cell.**  A text is read as it was given. -/
def accept (wb : Workbook) (key : Key) : Entry → Except ReferenceFault Unit
  | .empty | .value _ => .ok ()
  | .formula text =>
    match parse text with
    | .error _ => .ok ()
    | .ok e =>
      match wb.edges key true e with
      | .error (.beyondSheet name range) => .error (.beyondSheet name range)
      | .error (.ownCell _ _) | .ok _ => .ok ()

/-- **Writes entries one after the other,** each as the workbook is by then, and stops at the first
one that cannot be written.  Answers the cells that are left to be evaluated. -/
def writeEach (wb : Workbook) : List (Key × Entry) → Workbook × Except ReferenceFault (List Key)
  | [] => (wb, .ok [])
  | (key, entry) :: rest =>
    match wb.contentOfEntry key entry with
    | .error fault => (wb, .error fault)
    | .ok content =>
      let (wb, formulas) := (wb.writeAny key content).writeEach rest
      (wb, formulas.map fun keys => if content.expr?.isSome then key :: keys else keys)

/-- **Writes a block cell by cell.**  If an entry could not be written in its turn, what was written
before it would stay. -/
def writeBlockStepwise (wb : Workbook) (sheet : SheetId) (block : Block) (kind : ChangeKind) :
    Reply Unit :=
  Reply.guard wb (wb.sheet sheet) fun s =>
    Reply.guard wb (s.checkRange block.range) fun _ =>
      if block.entries.length ≠ block.range.size then
        .keep wb (.error (.blockCount block.range block.entries.length))
      else
        let keys := keysOf sheet block.range
        let entries := keys.zip block.entries
        Reply.guard wb ((entries.forM fun ke => wb.accept ke.1 ke.2).mapError .reference) fun _ =>
          match wb.writeEach entries with
          | (wb, .error fault) => ⟨.error (.reference fault), wb, []⟩
          | (wb, .ok formulas) =>
            let (wb, events) := wb.recalculateEach formulas
            wb.complete keys [] (.changed sheet block.range kind) events (.ok ())

/-- **What is accepted is what can be planned.**  A text is read alike before and after it was
brought into the form in which it is kept. -/
theorem accept_eq (wb : Workbook) (key : Key) (entry : Entry) :
    wb.accept key entry = (wb.contentOfEntry key entry).map fun _ => () := by
  cases entry with
  | empty => rfl
  | value v => rfl
  | formula text =>
    unfold accept contentOfEntry contentOf
    dsimp only
    rw [parse_formulaText]
    cases parse text with
    | error fault => rfl
    | ok e =>
      dsimp only
      cases wb.edges key true e with
      | ok edges => rfl
      | error fault => cases fault <;> rfl

/-- What an entry becomes is a matter of the layout and of the value that its cell has. -/
theorem contentOfEntry_congr (hlayout : wb'.layout = wb.layout)
    (hvalue : wb'.value key = wb.value key) (entry : Entry) :
    wb'.contentOfEntry key entry = wb.contentOfEntry key entry := by
  cases entry with
  | empty => rfl
  | value v => rfl
  | formula text =>
    unfold contentOfEntry contentOf
    simp only [edges_eq hlayout, hvalue]

/-- **What entries are to become,** all of them looked at as the workbook is. -/
def planEntries (wb : Workbook) (entries : List (Key × Entry)) :
    Except ReferenceFault (List (Key × Content)) :=
  entries.mapM fun (key, entry) => (wb.contentOfEntry key entry).map fun content => (key, content)

theorem planEntries_cons (wb : Workbook) (key : Key) (entry : Entry)
    (rest : List (Key × Entry)) : wb.planEntries ((key, entry) :: rest) =
      (wb.contentOfEntry key entry).bind fun content =>
        (wb.planEntries rest).map fun planned => (key, content) :: planned := by
  simp only [planEntries, List.mapM_cons]
  cases wb.contentOfEntry key entry with
  | error fault => rfl
  | ok content =>
    cases rest.mapM fun (key, entry) =>
      (wb.contentOfEntry key entry).map fun content => (key, content) <;> rfl

/-- Looking at all entries finds the fault that planning them finds. -/
theorem forM_accept (wb : Workbook) (entries : List (Key × Entry)) :
    (entries.forM fun ke => wb.accept ke.1 ke.2) = (wb.planEntries entries).map fun _ => () := by
  induction entries with
  | nil => rfl
  | cons ke rest ih =>
    obtain ⟨key, entry⟩ := ke
    change (wb.accept key entry).bind (fun _ => rest.forM fun ke => wb.accept ke.1 ke.2) = _
    rw [ih, accept_eq, planEntries_cons]
    cases wb.contentOfEntry key entry with
    | error fault => rfl
    | ok content => cases wb.planEntries rest <;> rfl

/-- **What could be planned can be written in turn, and becomes what was planned.**  The induction
is on the entries.  The workbook has changed by then, but neither its layout nor the values of the
cells that are still to be written. -/
theorem writeEach_eq (wb : Workbook) : ∀ {entries : List (Key × Entry)}
    {planned : List (Key × Content)} {wb' : Workbook}, (entries.map (·.1)).Nodup →
    wb'.layout = wb.layout → (∀ ke ∈ entries, wb'.value ke.1 = wb.value ke.1) →
    wb.planEntries entries = .ok planned →
    wb'.writeEach entries = (planned.foldl (fun wb kc => wb.writeAny kc.1 kc.2) wb',
      .ok ((planned.filter (·.2.expr?.isSome)).map (·.1)))
  | [], planned, wb', _, _, _, hplanned => by
    obtain rfl := Except.ok.inj hplanned
    rfl
  | (key, entry) :: rest, planned, wb', hkeys, hlayout, hvalues, hplanned => by
    rw [planEntries_cons] at hplanned
    obtain ⟨content, hcontent, hplanned⟩ := bind_eq_ok_iff.mp hplanned
    obtain ⟨later, hlater, rfl⟩ := map_eq_ok_iff.mp hplanned
    obtain ⟨hkey, hrest⟩ := List.nodup_cons.mp hkeys
    have hwritten : ∀ ke ∈ rest, (wb'.writeAny key content).value ke.1 = wb.value ke.1 := by
      intro ke hke
      have hne : key ≠ ke.1 := fun heq => hkey (List.mem_map.mpr ⟨ke, hke, heq.symm⟩)
      rw [value, Cell.value, ← Workbook.content, content_writeAny_of_ne wb' content hne]
      exact hvalues ke (List.mem_cons_of_mem _ hke)
    rw [writeEach, contentOfEntry_congr hlayout (hvalues _ List.mem_cons_self), hcontent]
    dsimp only
    rw [writeEach_eq wb hrest ((layout_writeAny wb' key content).trans hlayout) hwritten hlater,
      List.filter_cons, List.foldl_cons]
    cases content.expr?.isSome <;> rfl

theorem accept_congr (hlayout : wb'.layout = wb.layout) (key : Key) (entry : Entry) :
    wb'.accept key entry = wb.accept key entry := by
  cases entry with
  | empty => rfl
  | value v => rfl
  | formula text =>
    unfold accept
    simp only [edges_eq hlayout]

/-- **Entries that are accepted in the beginning can all be written in turn,** whatever cells they
are for. -/
theorem exists_writeEach_eq_ok (wb : Workbook) : ∀ {entries : List (Key × Entry)} {wb' : Workbook},
    wb'.layout = wb.layout → (∀ ke ∈ entries, wb.accept ke.1 ke.2 = .ok ()) →
    ∃ formulas, (wb'.writeEach entries).2 = .ok formulas
  | [], _, _, _ => ⟨[], rfl⟩
  | (key, entry) :: rest, wb', hlayout, haccept => by
    have hfirst := haccept (key, entry) List.mem_cons_self
    rw [← accept_congr hlayout, accept_eq] at hfirst
    obtain ⟨content, hcontent, -⟩ := map_eq_ok_iff.mp hfirst
    obtain ⟨formulas, hrest⟩ := exists_writeEach_eq_ok wb
      ((layout_writeAny wb' key content).trans hlayout)
      fun ke hke => haccept ke (List.mem_cons_of_mem _ hke)
    rw [writeEach, hcontent]
    dsimp only
    rw [hrest]
    exact ⟨_, rfl⟩

theorem nodup_lines (s : Span) (words : Nat) : (s.lines words).Nodup :=
  List.nodup_range'

/-- **A range lists no cell twice.** -/
theorem nodup_cells (range : Range) : range.cells.Nodup := by
  refine List.nodup_flatMap.mpr ⟨fun row _ => ?_, ?_⟩
  · exact List.Nodup.map (fun a b h => (Spot.mk.inj h).2) (nodup_lines range.cols _)
  · refine (nodup_lines range.rows _).imp fun {a b} hne spot ha hb => hne ?_
    obtain ⟨_, -, rfl⟩ := List.mem_map.mp ha
    obtain ⟨_, -, heq⟩ := List.mem_map.mp hb
    exact ((Spot.mk.inj heq).1).symm

theorem nodup_keysOf (sheet : SheetId) (range : Range) : (keysOf sheet range).Nodup :=
  List.Nodup.map (fun _ _ h => (Key.mk.inj h).2) (nodup_cells range)

/-- **Writing a block at once is writing it cell by cell.** -/
theorem writeBlock_eq_stepwise (wb : Workbook) (sheet : SheetId) (block : Block)
    (kind : ChangeKind) :
    wb.writeBlockStepwise sheet block kind = wb.writeBlock sheet block kind := by
  unfold writeBlockStepwise writeBlock
  refine congrArg _ (funext fun s => congrArg _ (funext fun _ => ?_))
  split
  · rfl
  · rename_i hlength
    dsimp only
    rw [forM_accept, ← planEntries]
    cases hplanned : wb.planEntries ((keysOf sheet block.range).zip block.entries) with
    | error fault => rfl
    | ok planned =>
      have hnodup := nodup_keysOf sheet block.range
      have hlen : (keysOf sheet block.range).length ≤ block.entries.length := by
        rw [not_not.mp hlength]
        exact length_keysOf_le sheet block.range
      rw [← List.map_fst_zip hlen] at hnodup
      have hwritten : wb.writeEach _ = _ :=
        writeEach_eq wb hnodup rfl (fun _ _ => rfl) hplanned
      simp only [Except.map, Except.mapError, Reply.guard_ok, hwritten]

/-! ## 3. Operations -/

theorem harmless_setValue (wb : Workbook) (key : Key) (v : Value) :
    (wb.setValue key v).Harmless wb :=
  harmless_guard fun _ _ => harmless_guard fun _ _ => harmless_of_ok rfl

theorem harmless_setValues (wb : Workbook) (sheet : SheetId) (range : Range)
    (values : List Value) : (wb.setValues sheet range values).Harmless wb := by
  refine harmless_guard fun _ _ => harmless_guard fun _ _ => ?_
  split
  · exact harmless_keep ..
  · exact harmless_of_ok rfl

/-- **A formula that is refused does no harm,** unless it reads its own cell. -/
theorem harmless_setFormula {text : String}
    (h : ∀ e, (wb.setFormula key text).answer = .error e → e.isCircular = false) :
    (wb.setFormula key text).Harmless wb := by
  unfold setFormula at h ⊢
  cases hsheet : wb.sheet key.sheet with
  | error fault => exact harmless_keep ..
  | ok s =>
    rw [hsheet, guard_ok] at h
    rw [guard_ok]
    cases hcheck : s.check key.spot with
    | error fault => exact harmless_keep ..
    | ok u =>
      rw [hcheck, guard_ok] at h
      rw [guard_ok]
      dsimp only at h ⊢
      split at h
      · exact harmless_of_ok rfl
      · cases h _ rfl
      · exact harmless_keep ..

theorem harmless_deleteFormula (wb : Workbook) (key : Key) :
    (wb.deleteFormula key).Harmless wb := by
  refine harmless_guard fun _ _ => harmless_guard fun _ _ => ?_
  split
  · exact harmless_keep ..
  · exact harmless_of_ok rfl

theorem harmless_recalculateCell (wb : Workbook) (key : Key) :
    (wb.recalculateCell key).Harmless wb :=
  harmless_guard fun _ _ => harmless_guard fun _ _ => harmless_of_ok rfl

theorem harmless_writeBlock (wb : Workbook) (sheet : SheetId) (block : Block)
    (kind : ChangeKind) : (wb.writeBlock sheet block kind).Harmless wb := by
  refine harmless_guard fun _ _ => harmless_guard fun _ _ => ?_
  split
  · exact harmless_keep ..
  · exact harmless_guard fun _ _ => harmless_of_ok rfl

theorem harmless_copyFormula (wb : Workbook) (home : Key) (target : Range) :
    (wb.copyFormula home target).Harmless wb := by
  refine harmless_guard fun _ _ => harmless_guard fun _ _ => ?_
  split
  · exact harmless_keep ..
  · exact harmless_guard fun _ _ => harmless_writeBlock ..

theorem harmless_apply (a : Action) (wb : Workbook) : (a.apply wb).Harmless wb :=
  harmless_guard fun _ _ => (harmless_writeBlock ..).map _

theorem harmless_revert (a : Action) (wb : Workbook) : (a.revert wb).1.Harmless wb := by
  unfold Action.revert
  split
  · exact harmless_keep ..
  · exact harmless_writeBlock ..

theorem harmless_perform (wb : Workbook) (a : Action) : (wb.perform a).Harmless wb := by
  unfold perform
  dsimp only
  split
  · rename_i applied happlied
    exact harmless_of_ok happlied
  · exact harmless_apply a wb

/-- **A fill that is rejected does no harm,** whoever is asked before. -/
theorem harmless_fill (wb : Workbook) (approves : FillRequest → Bool) (request : FillRequest) :
    (wb.fill approves request).Harmless wb := by
  refine harmless_guard fun axis _ => ?_
  split
  · exact ⟨fun _ => rfl, fun _ event hevent => ⟨request, List.mem_singleton.mp hevent⟩⟩
  · have hplan : (Reply.guard wb
        (wb.planFill request.sheet axis request.source request.target) fun block =>
          wb.perform { sheet := request.sheet, block, kind := .fill }).Harmless wb :=
      harmless_guard fun _ _ => harmless_perform ..
    have hanswered := hplan.map fun _ => ()
    refine ⟨hanswered.workbook_eq, fun he event hevent => ?_⟩
    rcases List.mem_cons.mp hevent with rfl | hevent
    · exact ⟨request, rfl⟩
    · exact hanswered.told he event hevent

theorem harmless_setStyle (wb : Workbook) (key : Key) (style : Style) :
    (wb.setStyle key style).Harmless wb :=
  harmless_guard fun _ _ => harmless_guard fun _ _ => harmless_of_ok rfl

theorem harmless_addSheetSized (wb : Workbook) (name : String) (rows cols : Nat) :
    (wb.addSheetSized name rows cols).Harmless wb :=
  harmless_guard fun _ _ => harmless_of_ok rfl

theorem harmless_deleteLines (wb : Workbook) (id : SheetId) (axis : Axis) (first count : Nat) :
    (wb.deleteLines id axis first count).Harmless wb := by
  refine harmless_guard fun _ _ => harmless_guard fun _ _ => ?_
  dsimp only
  split
  · exact harmless_of_ok rfl
  · exact harmless_keep ..

theorem harmless_resetSheet (wb : Workbook) (id : SheetId) (rows cols : Nat) :
    (wb.resetSheet id rows cols).Harmless wb :=
  harmless_guard fun _ _ => harmless_of_ok rfl

theorem harmless_defineName (wb : Workbook) (id : SheetId) (name : String) (range : Range) :
    (wb.defineName id name range).Harmless wb := by
  refine harmless_guard fun _ _ => ?_
  split
  · exact harmless_keep ..
  · exact harmless_guard fun _ _ => harmless_of_ok rfl

theorem harmless_removeName (wb : Workbook) (id : SheetId) (name : String) :
    (wb.removeName id name).Harmless wb := by
  refine harmless_guard fun _ _ => ?_
  split
  · exact harmless_of_ok rfl
  · exact harmless_keep ..

theorem harmless_merge (wb : Workbook) (id : SheetId) (range : Range) :
    (wb.merge id range).Harmless wb :=
  harmless_guard fun _ _ => harmless_guard fun _ _ => harmless_of_ok rfl

theorem harmless_unmerge (wb : Workbook) (id : SheetId) (range : Range) :
    (wb.unmerge id range).Harmless wb :=
  harmless_guard fun _ _ => harmless_of_ok rfl

theorem harmless_addFormats (wb : Workbook) (sheet : SheetId)
    (definitions : List (Range × List Rule)) : (wb.addFormats sheet definitions).Harmless wb :=
  harmless_guard fun _ _ => harmless_of_ok rfl

theorem harmless_removeFormat (wb : Workbook) (sheet : SheetId) (format : Nat) :
    (wb.removeFormat sheet format).Harmless wb := by
  refine harmless_guard fun _ _ => ?_
  split
  · exact harmless_keep ..
  · exact harmless_of_ok rfl

theorem harmless_reapplyFormat (wb : Workbook) (sheet : SheetId) (format : Nat) :
    (wb.reapplyFormat sheet format).Harmless wb := by
  unfold reapplyFormat
  split
  · exact harmless_keep ..
  · refine harmless_guard fun _ _ => ?_
    split
    · exact harmless_keep ..
    · exact harmless_of_ok rfl

theorem harmless_reapplyFormats (wb : Workbook) (sheet : SheetId) :
    (wb.reapplyFormats sheet).Harmless wb :=
  harmless_guard fun _ _ => harmless_of_ok rfl

theorem harmless_resetFormatting (wb : Workbook) (sheet : SheetId) :
    (wb.resetFormatting sheet).Harmless wb :=
  harmless_guard fun _ _ => harmless_of_ok rfl

theorem harmless_drawArrows (wb : Workbook) (kind : ArrowKind) (key : Key) :
    (wb.drawArrows kind key).Harmless wb := by
  refine harmless_guard fun _ _ => harmless_guard fun _ _ => ?_
  split <;> split
  · exact harmless_keep ..
  · exact harmless_of_ok rfl
  · exact harmless_keep ..
  · exact harmless_of_ok rfl

theorem harmless_eraseArrows (wb : Workbook) (kind : ArrowKind) (key : Key) :
    (wb.eraseArrows kind key).Harmless wb := by
  refine harmless_guard fun _ _ => ?_
  split <;> exact harmless_of_ok rfl

theorem harmless_eraseAllArrows (wb : Workbook) (id : SheetId) :
    (wb.eraseAllArrows id).Harmless wb :=
  harmless_guard fun _ _ => harmless_of_ok rfl

end Workbook

/-! ## 4. Commands -/

/-- **The reply of a turn,** as far as the workbook is concerned. -/
def Turn.reply (t : Turn) : Reply Answer := ⟨t.answer, t.session.workbook, t.events⟩

namespace Session

open Workbook

variable {s : Session}

theorem harmless_turnTo (s s' : Session) : s'.turnTo.reply.Harmless s.workbook :=
  harmless_of_ok rfl

theorem harmless_turn {α : Type} {r : Reply α} (h : r.Harmless s.workbook) (answer : α → Answer) :
    (s.turn r answer).reply.Harmless s.workbook :=
  h.map answer

/-- **A rejected command leaves the workbook alone,** unless a formula is refused because it reads
its own cell. -/
theorem harmless_step (s : Session) (c : Command)
    (h : ∀ key text e, c = .setFormula key text → (s.step c).answer = .error e →
      e.isCircular = false) : (s.step c).reply.Harmless s.workbook := by
  cases c with
  | setValue key v => exact harmless_turn (harmless_setValue ..) _
  | setValues sheet range values => exact harmless_turn (harmless_setValues ..) _
  | setFormula key text =>
    refine harmless_turn (harmless_setFormula fun e he => ?_) _
    refine h key text e rfl ?_
    simp only [step, turn, he, Except.map]
  | deleteFormula key => exact harmless_turn (harmless_deleteFormula ..) _
  | copyFormula home target => exact harmless_turn (harmless_copyFormula ..) _
  | setStyle key style => exact harmless_turn (harmless_setStyle ..) _
  | fill request => exact harmless_turn (harmless_fill ..) _
  | approveFills approve => exact harmless_turnTo ..
  | perform sheet block kind => exact harmless_turn (harmless_perform ..) _
  | revert number =>
    simp only [step, revert]
    split
    · exact harmless_turnTo ..
    · exact harmless_turn (harmless_revert ..) _
  | apply number =>
    simp only [step, apply]
    split
    · exact harmless_turnTo ..
    · exact harmless_turn (harmless_apply ..) _
  | recalculate key => exact harmless_turn (harmless_recalculateCell ..) _
  | calculate => exact harmless_of_ok rfl
  | propagate changed => exact harmless_of_ok rfl
  | rebuild => exact harmless_turnTo ..
  | changeSettings settings => exact harmless_turnTo ..
  | addSheet name => exact harmless_turn (harmless_addSheetSized ..) _
  | addSheetSized name rows cols => exact harmless_turn (harmless_addSheetSized ..) _
  | deleteLines sheet axis first count => exact harmless_turn (harmless_deleteLines ..) _
  | resetSheet sheet rows cols => exact harmless_turn (harmless_resetSheet ..) _
  | defineName sheet name range => exact harmless_turn (harmless_defineName ..) _
  | removeName sheet name => exact harmless_turn (harmless_removeName ..) _
  | merge sheet range => exact harmless_turn (harmless_merge ..) _
  | unmerge sheet range => exact harmless_turn (harmless_unmerge ..) _
  | addFormats sheet definitions => exact harmless_turn (harmless_addFormats ..) _
  | removeFormat sheet format => exact harmless_turn (harmless_removeFormat ..) _
  | reapplyFormat sheet format => exact harmless_turn (harmless_reapplyFormat ..) _
  | reapplyFormats sheet => exact harmless_turn (harmless_reapplyFormats ..) _
  | resetFormatting sheet => exact harmless_turn (harmless_resetFormatting ..) _
  | drawArrows kind key => exact harmless_turn (harmless_drawArrows ..) _
  | eraseArrows kind key => exact harmless_turn (harmless_eraseArrows ..) _
  | eraseAllArrows sheet => exact harmless_turn (harmless_eraseAllArrows ..) _

/-- **A rejected command changes nothing.**  The workbook is as it was, and nothing is told but that
a fill was asked for.  The one exception is a formula that is set and reads its own cell.  A block
that is written cell by cell, once its entries are accepted, comes to the same as a block that is
planned as a whole: no entry fails in its turn. -/
theorem rejected_changes_nothing :
    (∀ (s : Session) (c : Command) (e : Error), (s.step c).answer = .error e →
      (∀ key text, c = .setFormula key text → e.isCircular = false) →
        (s.step c).session.workbook = s.workbook ∧
          ∀ event ∈ (s.step c).events, ∃ request, event = .beforeFill request) ∧
      (∀ (wb : Workbook) (sheet : SheetId) (block : Block) (kind : ChangeKind),
        wb.writeBlockStepwise sheet block kind = wb.writeBlock sheet block kind) ∧
      ∀ (wb : Workbook) (entries : List (Key × Entry)),
        (∀ ke ∈ entries, wb.accept ke.1 ke.2 = .ok ()) →
          ∃ formulas, (wb.writeEach entries).2 = .ok formulas := by
  refine ⟨fun s c e he hexcept => ?_, writeBlock_eq_stepwise,
    fun wb entries haccept => wb.exists_writeEach_eq_ok rfl haccept⟩
  have hharmless := s.harmless_step c fun key text e' hc he' => by
    rw [Except.error.inj (he'.symm.trans he)]
    exact hexcept key text hc
  exact ⟨hharmless.workbook_eq he, hharmless.told he⟩

/-- A block is rejected for the formula in its second cell; that the first one could be written
does not matter.  Without that formula all of it is written, a formula that reads its own cell
included. -/
theorem rejected_changes_nothing_block :
    let s := (Session.start {}).run [.setFormula ⟨⟨0⟩, ⟨0, 0⟩⟩ "=B1"]
    let c : Command := .perform ⟨0⟩ ⟨.make 0 0 2 1, [.value (.number 5), .formula "=A9999"]⟩ .data
    let entries : List (Key × Entry) :=
      [(⟨⟨0⟩, ⟨0, 0⟩⟩, .formula "=A1"), (⟨⟨0⟩, ⟨1, 0⟩⟩, .formula "=A1")]
    (∃ e, (s.step c).answer = .error e ∧ (s.step c).session.workbook = s.workbook) ∧
      ∃ formulas, (s.workbook.writeEach entries).2 = .ok formulas := by
  intro s c entries
  have hrejected : (s.step c).answer.isOk = false := by decide +kernel
  have haccepted : (entries.all fun ke => (s.workbook.accept ke.1 ke.2).isOk) = true := by
    decide +kernel
  refine ⟨?_, rejected_changes_nothing.2.2 _ _ fun ke hke => ?_⟩
  · cases he : (s.step c).answer with
    | error e => exact ⟨e, rfl, (rejected_changes_nothing.1 s c e he nofun).1⟩
    | ok a =>
      rw [he] at hrejected
      cases hrejected
  · exact eq_ok_of_isOk (List.all_eq_true.mp haccepted ke hke)

end Session

end Spreadsheet
