/-
# Taking back what was written

* What is captured of a cell is a text or a value.  Written back, it goes through reading, through
  the search for edges and through the check for its own cell like anything that is written.
* A text that is kept is kept again as it is, and what cannot be read is not read the second time
  either.  What is written keeps the layout, so a formula finds the edges again that it had
  (`restored_of_entry`).
* So taking an action back restores every cell but one whose formula was given up, of which nothing
  is left to be captured.  It is refused where a formula leads beyond the edge of a sheet, and then
  changes nothing (`revert_restores`).
-/
import Spreadsheet.Proofs.Rejection

namespace Spreadsheet

open Grid Formula Conditional

/-! ## 1. Restored contents -/

namespace Content

/-- **What a cell holds is what it held,** apart from the result of its formula: the text, the
formula and its edges, the value if there is no formula, and a status that keeps the cell from being
evaluated. -/
structure Restored (old new : Content) : Prop where
  text_eq : new.formulaText? = old.formulaText?
  expr_eq : new.expr? = old.expr?
  edges_eq : new.edges = old.edges
  shown_eq : old.expr? = none → new.shown = old.shown
  status_iff : ∀ status : Status, status.blocksEvaluation = true →
    (new.status = status ↔ old.status = status)

theorem Restored.refl (content : Content) : Restored content content :=
  ⟨rfl, rfl, rfl, fun _ => rfl, fun _ _ => .rfl⟩

theorem Restored.trans {old content new : Content} (h : Restored old content)
    (h' : Restored content new) : Restored old new where
  text_eq := h'.text_eq.trans h.text_eq
  expr_eq := h'.expr_eq.trans h.expr_eq
  edges_eq := h'.edges_eq.trans h.edges_eq
  shown_eq hnone := (h'.shown_eq (h.expr_eq.trans hnone)).trans (h.shown_eq hnone)
  status_iff status hblocks := (h'.status_iff status hblocks).trans (h.status_iff status hblocks)

/-- **A formula is restored whatever its result is.** -/
theorem restored_formula (text : String) (e : Expr) (edges : List Edge) (result result' : Result) :
    Restored (.formula text e edges result) (.formula text e edges result') where
  text_eq := rfl
  expr_eq := rfl
  edges_eq := rfl
  shown_eq := nofun
  status_iff status hblocks := by
    have hne (result : Result) : result.status ≠ status := by
      rintro rfl
      rw [Result.blocksEvaluation_status] at hblocks
      cases hblocks
    exact ⟨fun h => absurd h (hne result'), fun h => absurd h (hne result)⟩

theorem restored_withResult (content : Content) (result : Result) :
    Restored content (content.withResult result) := by
  cases content with
  | formula text e edges latest => exact restored_formula ..
  | value v => exact .refl _
  | unparsed text => exact .refl _
  | discarded => exact .refl _

/-- Where a value was there is the value. -/
theorem Restored.eq_value {v : Value} {new : Content} (h : Restored (.value v) new) :
    new = .value v := by
  cases new with
  | value w => exact congrArg _ (h.shown_eq rfl)
  | formula text e edges result => exact absurd h.expr_eq nofun
  | unparsed text => exact absurd h.text_eq nofun
  | discarded => exact absurd ((h.status_iff .circularReference rfl).mp rfl) nofun

/-- **A formula that its text is read as.** -/
def IsRead (content : Content) : Prop :=
  ∀ e, content.expr? = some e → ∃ text, content.formulaText? = some text ∧ parse text = .ok e

end Content

namespace Workbook

open Content (Restored)

variable {wb wb' : Workbook} {sheet : SheetId} {key : Key}

theorem status_eq_circularReference (h : wb.status key = .circularReference) :
    wb.content key = .discarded := by
  unfold status at h
  unfold content
  cases hcontent : (wb.cell key).content with
  | discarded => rfl
  | value v => rw [hcontent] at h; cases h
  | unparsed text => rw [hcontent] at h; cases h
  | formula text e edges result =>
    rw [hcontent] at h
    have hblocks := result.blocksEvaluation_status
    rw [show result.status = .circularReference from h] at hblocks
    cases hblocks

/-! ## 2. What writing a block leaves behind -/

/-- **Workbooks that differ in results and styles only.** -/
structure SameButResults (wb wb' : Workbook) : Prop where
  layout_eq : wb'.layout = wb.layout
  restored : ∀ key, Restored (wb.content key) (wb'.content key)

theorem SameButResults.trans {wb'' : Workbook} (h : SameButResults wb wb')
    (h' : SameButResults wb' wb'') : SameButResults wb wb'' :=
  ⟨h'.layout_eq.trans h.layout_eq, fun key => (h.restored key).trans (h'.restored key)⟩

theorem sameButResults_recalculateEach (keys : List Key) (wb : Workbook) :
    SameButResults wb (wb.recalculateEach keys).1 where
  layout_eq := (sameFormulas_recalculateEach keys wb).layout_eq
  restored key := by
    rcases exists_content_recalculateEach keys wb key with heq | ⟨result, heq⟩
    · rw [heq]
      exact .refl _
    · rw [heq]
      exact Content.restored_withResult _ result

/-- Completing an edit changes results and styles only. -/
theorem sameButResults_complete {α : Type} (wb : Workbook) (changed : List Key)
    (stack : List (List Key)) (event : Event) (earlier : List Event) (answer : Except Error α) :
    SameButResults wb (wb.complete changed stack event earlier answer).workbook := by
  unfold complete refreshFormats
  dsimp only
  refine (sameButResults_recalculateEach _ wb).trans ⟨layout_applyFormats _ _, fun key => ?_⟩
  rw [content_applyFormats]
  exact .refl _

/-- Writes one content after the other. -/
def writeContents (wb : Workbook) (planned : List (Key × Content)) : Workbook :=
  planned.foldl (fun wb kc => wb.writeAny kc.1 kc.2) wb

theorem layout_writeContents (planned : List (Key × Content)) (wb : Workbook) :
    (wb.writeContents planned).layout = wb.layout := by
  induction planned generalizing wb with
  | nil => rfl
  | cons kc planned ih => exact (ih _).trans (layout_writeAny wb kc.1 kc.2)

theorem content_writeContents_of_ne {planned : List (Key × Content)}
    (h : ∀ kc ∈ planned, kc.1 ≠ key) (wb : Workbook) :
    (wb.writeContents planned).content key = wb.content key :=
  (spares_writes h wb).content_eq

/-- **A cell holds what is planned for it,** if nothing else is. -/
theorem content_writeContents {planned : List (Key × Content)} {content : Content}
    (hon : wb.Has key) (hmem : (key, content) ∈ planned)
    (honly : ∀ kc ∈ planned, kc.1 = key → kc.2 = content) :
    (wb.writeContents planned).content key = content := by
  induction planned generalizing wb with
  | nil => cases hmem
  | cons kc planned ih =>
    have honly' : ∀ kc' ∈ planned, kc'.1 = key → kc'.2 = content :=
      fun kc' hkc' => honly kc' (List.mem_cons_of_mem _ hkc')
    have hon' : (wb.writeAny kc.1 kc.2).Has key := hon.congr (layout_writeAny wb _ _).symm
    by_cases hlater : ∃ kc' ∈ planned, kc'.1 = key
    · obtain ⟨kc', hkc', rfl⟩ := hlater
      refine ih hon' ?_ honly'
      rw [← honly' kc' hkc' rfl]
      exact hkc'
    · have hne : ∀ kc' ∈ planned, kc'.1 ≠ key := fun kc' hkc' heq => hlater ⟨kc', hkc', heq⟩
      obtain rfl : (key, content) = kc :=
        (List.mem_cons.mp hmem).resolve_right fun hlate => hne _ hlate rfl
      exact (content_writeContents_of_ne hne _).trans (content_writeAny_self hon content)

/-- **A block on its sheet is written if it has the right size and all of it can be planned,** and
then leaves behind what was planned, apart from results. -/
theorem writeBlock_of_checkRange {s : Sheet} {block : Block} (kind : ChangeKind)
    (hs : wb.sheet sheet = .ok s) (hcheck : s.checkRange block.range = .ok ()) :
    let entries := (keysOf sheet block.range).zip block.entries
    let r := wb.writeBlock sheet block kind
    (r.answer = .ok () ↔ block.entries.length = block.range.size ∧
        ∃ planned, wb.planEntries entries = .ok planned) ∧
      (r.answer = .ok () → ∀ planned, wb.planEntries entries = .ok planned →
        SameButResults (wb.writeContents planned) r.workbook) := by
  intro entries r
  dsimp only [r]
  rw [writeBlock, hs, Reply.guard_ok, hcheck, Reply.guard_ok]
  split
  · rename_i hlength
    refine ⟨⟨fun hok => ?_, fun h => absurd h.1 hlength⟩, fun hok => ?_⟩ <;> cases hok
  · rename_i hlength
    dsimp only
    rw [← planEntries]
    cases wb.planEntries ((keysOf sheet block.range).zip block.entries) with
    | error fault =>
      refine ⟨⟨fun hok => ?_, fun h => ?_⟩, fun hok => ?_⟩
      · cases hok
      · obtain ⟨-, planned, hplanned⟩ := h
        cases hplanned
      · cases hok
    | ok planned =>
      refine ⟨⟨fun _ => ⟨not_not.mp hlength, planned, rfl⟩, fun _ => rfl⟩,
        fun _ planned' hplanned' => ?_⟩
      obtain rfl := Except.ok.inj hplanned'
      exact (sameButResults_recalculateEach _ _).trans (sameButResults_complete ..)

/-- **Planned is what the entries become.** -/
theorem mem_planned_iff {entries : List (Key × Entry)} {planned : List (Key × Content)}
    (h : wb.planEntries entries = .ok planned) {content : Content} : (key, content) ∈ planned ↔
      ∃ entry, (key, entry) ∈ entries ∧ wb.contentOfEntry key entry = .ok content := by
  rw [mem_mapM_iff h]
  constructor
  · rintro ⟨⟨key', entry⟩, hmem, hplan⟩
    obtain ⟨content', hcontent, heq⟩ := map_eq_ok_iff.mp hplan
    obtain ⟨rfl, rfl⟩ := Prod.mk.inj heq
    exact ⟨entry, hmem, hcontent⟩
  · rintro ⟨entry, hmem, hcontent⟩
    exact ⟨(key, entry), hmem, map_eq_ok_iff.mpr ⟨content, hcontent, rfl⟩⟩

/-- All can be planned if each is accepted. -/
theorem exists_planEntries_iff {entries : List (Key × Entry)} :
    (∃ planned, wb.planEntries entries = .ok planned) ↔
      ∀ ke ∈ entries, wb.accept ke.1 ke.2 = .ok () := by
  induction entries with
  | nil => exact ⟨fun _ => nofun, fun _ => ⟨[], rfl⟩⟩
  | cons ke rest ih =>
    rw [List.forall_mem_cons, ← ih, accept_eq]
    constructor
    · rintro ⟨planned, hplanned⟩
      rw [planEntries_cons] at hplanned
      obtain ⟨content, hcontent, hplanned⟩ := bind_eq_ok_iff.mp hplanned
      obtain ⟨later, hlater, -⟩ := map_eq_ok_iff.mp hplanned
      exact ⟨map_eq_ok_iff.mpr ⟨content, hcontent, rfl⟩, later, hlater⟩
    · rintro ⟨haccept, later, hlater⟩
      obtain ⟨content, hcontent, -⟩ := map_eq_ok_iff.mp haccept
      exact ⟨(ke.1, content) :: later, by rw [planEntries_cons, hcontent, hlater]; rfl⟩

/-- **A cell holds what its entry becomes,** if every cell has one entry. -/
theorem content_of_planned {keys : List Key} {entry : Key → Entry} {planned : List (Key × Content)}
    (hplanned : wb.planEntries (keys.map fun key => (key, entry key)) = .ok planned)
    (hon : wb.Has key) (hkey : key ∈ keys) :
    wb.contentOfEntry key (entry key) = .ok ((wb.writeContents planned).content key) := by
  have hmem {key' : Key} {content : Content} : (key', content) ∈ planned ↔
      key' ∈ keys ∧ wb.contentOfEntry key' (entry key') = .ok content := by
    rw [mem_planned_iff hplanned]
    simp only [List.mem_map, Prod.mk.injEq]
    constructor
    · rintro ⟨_, ⟨_, hkey', rfl, rfl⟩, hcontent⟩
      exact ⟨hkey', hcontent⟩
    · rintro ⟨hkey', hcontent⟩
      exact ⟨_, ⟨_, hkey', rfl, rfl⟩, hcontent⟩
  have haccept := exists_planEntries_iff.mp ⟨planned, hplanned⟩ _
    (List.mem_map_of_mem (f := fun key => (key, entry key)) hkey)
  rw [accept_eq] at haccept
  obtain ⟨content, hcontent, -⟩ := map_eq_ok_iff.mp haccept
  rw [content_writeContents hon (hmem.mpr ⟨hkey, hcontent⟩) ?_]
  · exact hcontent
  · rintro ⟨key', content'⟩ hmem' rfl
    exact Except.ok.inj ((hmem.mp hmem').2.symm.trans hcontent)

/-- **A block that was written keeps the layout and the cells around it.** -/
theorem sameAround_writeBlock {s : Sheet} {block : Block} {kind : ChangeKind}
    (hs : wb.sheet sheet = .ok s) (hcheck : s.checkRange block.range = .ok ())
    (hok : (wb.writeBlock sheet block kind).answer = .ok ()) :
    (wb.writeBlock sheet block kind).workbook.layout = wb.layout ∧
      ∀ key, key ∉ keysOf sheet block.range →
        Restored (wb.content key) ((wb.writeBlock sheet block kind).workbook.content key) := by
  obtain ⟨hiff, hleft⟩ := writeBlock_of_checkRange kind hs hcheck
  obtain ⟨-, planned, hplanned⟩ := hiff.mp hok
  have hsame := hleft hok planned hplanned
  refine ⟨hsame.layout_eq.trans (layout_writeContents planned wb), fun key hkey => ?_⟩
  have hne : ∀ kc ∈ planned, kc.1 ≠ key := by
    rintro ⟨key', content⟩ hmem rfl
    obtain ⟨entry, hentry, -⟩ := (mem_planned_iff hplanned).mp hmem
    exact hkey (List.of_mem_zip hentry).1
  have hrestored := hsame.restored key
  rwa [content_writeContents_of_ne hne] at hrestored

/-! ## 3. What is captured -/

theorem checkRange_eq_ok_iff {s : Sheet} {range : Range} :
    s.checkRange range = .ok () ↔ s.check range.first = .ok () ∧ s.check range.last = .ok () := by
  unfold Sheet.checkRange
  rw [bind_eq_ok_iff]
  exact ⟨fun ⟨_, hfirst, hlast⟩ => ⟨hfirst, hlast⟩, fun ⟨hfirst, hlast⟩ => ⟨(), hfirst, hlast⟩⟩

/-- A range on a sheet has as many cells as its extents say. -/
theorem length_cells {s : Sheet} {range : Range} (h : s.checkRange range = .ok ()) :
    range.cells.length = range.size := by
  have hlines {span : Span} {words limit : Nat} (hlast : span.last words < limit)
      (hlimit : limit < words) : (span.lines words).length = span.count := by
    have hpos := span.count_pos
    rw [Span.lines, List.length_range']
    rw [Span.last] at hlast ⊢
    omega
  obtain ⟨hrow, hcol⟩ := check_eq_ok_iff.mp (checkRange_eq_ok_iff.mp h).2
  have hrows : s.rows < Axis.rows.words := s.rows_le.trans_lt (by decide)
  have hcols : s.cols < Axis.columns.words := s.cols_le.trans_lt (by decide)
  rw [Range.cells, List.length_flatMap]
  simp only [List.length_map, List.map_const', List.sum_replicate_nat]
  rw [hlines hrow hrows, hlines hcol hcols]
  rfl

/-- **A capture has an entry for each cell of the range.** -/
theorem exists_of_capture {range : Range} {block : Block}
    (h : wb.capture sheet range = .ok block) : ∃ s, wb.sheet sheet = .ok s ∧
      s.checkRange range = .ok () ∧ block.range = range ∧ block.entries.length = range.size ∧
      (keysOf sheet range).zip block.entries =
        (keysOf sheet range).map fun key => (key, (wb.cell key).entry) := by
  unfold capture at h
  obtain ⟨s, hs, h⟩ := bind_eq_ok_iff.mp h
  obtain ⟨u, hcheck, h⟩ := bind_eq_ok_iff.mp h
  obtain rfl := Except.ok.inj h
  refine ⟨s, hs, hcheck, rfl, ?_, ?_⟩
  · rw [List.length_map, length_cells hcheck]
  · have hcell (spot : Spot) : wb.cell ⟨sheet, spot⟩ = s.cell spot := by
      rw [cell_eq_elim, sheet_eq_ok hs]
      rfl
    simp only [keysOf, List.map_map, Function.comp_def, hcell, List.zip_map']

/-- **A formula that leads out:** what its text is read as refers beyond the edge of a sheet. -/
def LeadsOut (wb : Workbook) (key : Key) : Prop :=
  ∃ text e name range, (wb.content key).formulaText? = some text ∧ parse text = .ok e ∧
    wb.edges key true e = .error (.beyondSheet name range)

/-- What a cell is captured as is a matter of its content. -/
theorem entry_cell (wb : Workbook) (key : Key) : (wb.cell key).entry =
    match (wb.content key).formulaText? with
    | some text => .formula text
    | none => .ofValue (wb.content key).shown := rfl

/-- **What is captured is accepted again unless it leads out.** -/
theorem accept_entry_iff (hlayout : wb'.layout = wb.layout) (key : Key) :
    wb'.accept key (wb.cell key).entry = .ok () ↔ ¬ wb.LeadsOut key := by
  rw [entry_cell, LeadsOut]
  cases (wb.content key).formulaText? with
  | none =>
    refine ⟨fun _ => nofun, fun _ => ?_⟩
    cases (wb.content key).shown <;> rfl
  | some text =>
    simp only [accept, edges_eq hlayout, Option.some.injEq]
    cases hparse : parse text with
    | error fault => simp [hparse]
    | ok e =>
      cases hedges : wb.edges key true e with
      | ok edges => simp [hparse, hedges]
      | error fault => cases fault <;> simp [hparse, hedges]

/-- A text that is no formula stays one. -/
theorem contentOf_of_unread {text : String} {fault : ParseFault} (htext : formulaText text = text)
    (hparse : parse text = .error fault) : wb.contentOf key text = .ok (.unparsed text) := by
  unfold contentOf
  dsimp only
  rw [htext, hparse]

/-- A formula gets the edges it has where it is written. -/
theorem contentOf_of_read {text : String} {e : Expr} (htext : formulaText text = text)
    (hparse : parse text = .ok e) : wb.contentOf key text =
      (wb.edges key true e).map fun edges => .formula text e edges (.value (wb.value key)) := by
  unfold contentOf
  dsimp only
  rw [htext, hparse]

section Entry

variable {content : Content} (hlayout : wb'.layout = wb.layout)
  (hcontent : wb'.contentOfEntry key (wb.cell key).entry = .ok content)
include hcontent

/-- Nothing is captured of a formula that was given up. -/
theorem eq_empty_of_entry (hcircular : wb.status key = .circularReference) :
    content = .value .empty := by
  rw [entry_cell, status_eq_circularReference hcircular] at hcontent
  exact (Except.ok.inj hcontent).symm

include hlayout

/-- **What is captured becomes what was there,** if it is written where the layout is the same. -/
theorem restored_of_entry (h : wb.Reachable) (hstatus : wb.status key ≠ .circularReference)
    (hread : (wb.content key).IsRead) : Restored (wb.content key) content := by
  have hsteady := h.steady key
  rw [entry_cell] at hcontent
  cases hkey : wb.content key with
  | value v =>
    rw [hkey] at hcontent
    obtain rfl : Content.value v = content := by cases v <;> exact Except.ok.inj hcontent
    exact .refl _
  | discarded => exact absurd (congrArg Content.status hkey) hstatus
  | unparsed text =>
    rw [hkey] at hcontent hsteady
    obtain ⟨fault, hparse⟩ := hsteady.unread text rfl
    dsimp only [Content.formulaText?, contentOfEntry] at hcontent
    rw [contentOf_of_unread (hsteady.text_eq text rfl) hparse] at hcontent
    obtain rfl := Except.ok.inj hcontent
    exact .refl _
  | formula text e edges result =>
    have hexpr : (wb.content key).expr? = some e := by rw [hkey]; rfl
    have hedges := h.tracked.edges_cases hexpr
    obtain ⟨text', htext, hparse⟩ := hread e hexpr
    rw [hkey] at hcontent hsteady hedges htext
    obtain rfl := Option.some.inj htext
    dsimp only [Content.formulaText?, contentOfEntry] at hcontent
    rw [contentOf_of_read (hsteady.text_eq text rfl) hparse, edges_eq hlayout] at hcontent
    rcases hedges with hok | ⟨-, name, range, hbeyond⟩
    · rw [hok] at hcontent
      obtain rfl := Except.ok.inj hcontent
      exact Content.restored_formula ..
    · rw [hbeyond] at hcontent
      cases hcontent

end Entry

/-! ## 4. Taking back -/

/-- **An action that was applied** wrote its block, and has what was captured before. -/
theorem exists_of_apply {a a' : Action} (h : (a.apply wb).answer = .ok a') :
    ∃ block, wb.capture a.sheet a.block.range = .ok block ∧
      (wb.writeBlock a.sheet a.block a.kind).answer = .ok () ∧
      (a.apply wb).workbook = (wb.writeBlock a.sheet a.block a.kind).workbook ∧
      a' = { a with previous := some block } := by
  unfold Action.apply at h ⊢
  obtain ⟨block, hcapture⟩ := exists_of_guard h
  rw [hcapture, Reply.guard_ok] at h ⊢
  obtain ⟨u, hanswer, ha'⟩ := map_eq_ok_iff.mp h
  exact ⟨block, rfl, hanswer, rfl, ha'.symm⟩

/-- Carrying an action out applies it. -/
theorem perform_eq_apply (wb : Workbook) (a : Action) :
    (wb.perform a).answer = (a.apply wb).answer ∧
      (wb.perform a).workbook = (a.apply wb).workbook := by
  unfold perform
  dsimp only
  split <;> exact ⟨rfl, rfl⟩

/-- Sheets accept the same ranges in workbooks of one layout. -/
theorem exists_checkRange (hlayout : wb'.layout = wb.layout) {s : Sheet} {range : Range}
    (hs : wb.sheet sheet = .ok s) (hcheck : s.checkRange range = .ok ()) :
    ∃ s', wb'.sheet sheet = .ok s' ∧ s'.checkRange range = .ok () := by
  have houtline := outline_eq hlayout sheet
  rw [sheet_eq_ok hs] at houtline
  obtain ⟨s', hs', heq⟩ := Option.map_eq_some_iff.mp houtline
  refine ⟨s', by rw [Workbook.sheet, hs'], ?_⟩
  rwa [checkRange_eq_ok_iff, check_eq heq, check_eq heq, ← checkRange_eq_ok_iff]

/-- **A formula is read from its text,** unless the text was written from it and it is not legible,
or has a number that is not read back from its digits. -/
theorem Reachable.isRead (h : wb.Reachable) (hlegible : ∀ e, (wb.content key).expr? = some e →
    (wb.content key).formulaText? = some e.source → e.Legible ∧ ∀ x ∈ e.numbers, ReadsBack x) :
    (wb.content key).IsRead := by
  intro e he
  obtain ⟨text, edges, result, hcontent⟩ := Content.eq_formula_of_expr? he
  have htext : (wb.content key).formulaText? = some text := by rw [hcontent]; rfl
  obtain ⟨hcanonical, hparse | rfl⟩ := h.spelled key text e edges result hcontent
  · exact ⟨text, htext, hparse⟩
  · obtain ⟨hlegible, hdigits⟩ := hlegible e he htext
    exact ⟨_, htext, (parse_print_iff hcanonical hdigits).2.mpr hlegible⟩

/-- **Taking an action back restores every cell** whose formula is read from its text, but one whose
formula was given up; that one is empty afterwards.  It is refused exactly where a formula that was
replaced leads out, and changes nothing then. -/
theorem revert_restores (h : wb.Reachable) {a a' : Action}
    (hdone : (wb.perform a).answer = .ok a') :
    let done := (wb.perform a).workbook
    let undone := (a'.revert done).1
    let replaced := keysOf a.sheet a.block.range
    (undone.answer = .ok () ↔ ∀ key ∈ replaced, ¬ wb.LeadsOut key) ∧
      (undone.answer ≠ .ok () → undone.workbook = done) ∧
      (undone.answer = .ok () → ∀ key,
        (key ∉ replaced ∨ wb.status key ≠ .circularReference ∧ (wb.content key).IsRead →
          Restored (wb.content key) (undone.workbook.content key)) ∧
        (key ∈ replaced → wb.status key = .circularReference →
          undone.workbook.content key = .value .empty)) := by
  intro done undone replaced
  obtain ⟨hanswer, hworkbook⟩ := perform_eq_apply wb a
  obtain ⟨previous, hcapture, hwritten, happlied, rfl⟩ := exists_of_apply (hanswer ▸ hdone)
  obtain ⟨s, hs, hcheck, hrange, hlength, hentries⟩ := exists_of_capture hcapture
  have hdone' : done = (wb.writeBlock a.sheet a.block a.kind).workbook := hworkbook.trans happlied
  obtain ⟨hlayout, haround⟩ := sameAround_writeBlock hs hcheck hwritten
  rw [← hdone'] at hlayout haround
  obtain ⟨s', hs', hcheck'⟩ := exists_checkRange hlayout hs hcheck
  rw [← hrange] at hcheck'
  obtain ⟨hiff, hleft⟩ := writeBlock_of_checkRange a.kind hs' hcheck'
  have hundone : undone = done.writeBlock a.sheet previous a.kind := rfl
  rw [← hundone, hrange, hentries] at hiff hleft
  refine ⟨?_, fun hrefused => ?_, fun hok key => ?_⟩
  · rw [hiff, exists_planEntries_iff, List.forall_mem_map]
    simp only [accept_entry_iff hlayout]
    exact and_iff_right hlength
  · cases hanswer : undone.answer with
    | ok u => exact absurd hanswer hrefused
    | error e => exact (harmless_revert _ done).workbook_eq hanswer
  · obtain ⟨-, planned, hplanned⟩ := hiff.mp hok
    have hsame := hleft hok planned hplanned
    by_cases hkey : key ∈ replaced
    · have hcontent := content_of_planned hplanned
        (has_of_checkRange hs' hcheck' (hrange ▸ hkey)) hkey
      have hrestored := hsame.restored key
      refine ⟨fun hor => ?_, fun _ hcircular => ?_⟩
      · obtain ⟨hstatus, hread⟩ := hor.resolve_left (not_not.mpr hkey)
        exact (restored_of_entry hlayout hcontent h hstatus hread).trans hrestored
      · rw [eq_empty_of_entry hcontent hcircular] at hrestored
        exact hrestored.eq_value
    · obtain ⟨-, haround'⟩ := sameAround_writeBlock hs' hcheck' (hundone ▸ hok)
      refine ⟨fun _ => (haround key hkey).trans ?_, fun hmem => absurd hmem hkey⟩
      exact haround' key (hrange ▸ hkey)

/-- A formula and a text that is none are replaced by values, and come back. -/
theorem revert_restores_row :
    let formula : Key := ⟨⟨0⟩, ⟨0, 0⟩⟩
    let unread : Key := ⟨⟨0⟩, ⟨0, 1⟩⟩
    let wb := ((Session.start {}).run
      [.setFormula formula "=B1&C1", .setFormula unread "=1+"]).workbook
    let a : Action := ⟨⟨0⟩, ⟨.make 0 0 1 2, [.value (.text "x"), .value (.text "y")]⟩, .data, none⟩
    ∃ a', (wb.perform a).answer = .ok a' ∧
      let undone := (a'.revert (wb.perform a).workbook).1
      undone.answer = .ok () ∧ (wb.content formula).formulaText? = some "=B1&C1" ∧
        Restored (wb.content formula) (undone.workbook.content formula) ∧
        wb.status unread = .syntaxError ∧
        Restored (wb.content unread) (undone.workbook.content unread) := by
  intro formula unread wb a
  have hreach : wb.Reachable := ⟨_, _, rfl⟩
  have hdone : (wb.perform a).answer.toOption.any (fun a' =>
      (a'.revert (wb.perform a).workbook).1.answer.isOk) = true := by decide +kernel
  have htext : (wb.content formula).formulaText? = some "=B1&C1" := by decide +kernel
  have hlegible : (wb.content formula).expr?.all (fun e =>
      decide e.Legible && e.numbers.isEmpty) = true := by decide +kernel
  have hstatus : wb.status formula = .normal ∧ wb.status unread = .syntaxError := by
    decide +kernel
  have hnone : (wb.content unread).expr?.isNone = true := by decide +kernel
  have hread : (wb.content formula).IsRead := by
    refine hreach.isRead fun e he _ => ?_
    rw [he, Option.all_some, Bool.and_eq_true, decide_eq_true_eq, List.isEmpty_iff] at hlegible
    exact ⟨hlegible.1, by rw [hlegible.2]; nofun⟩
  have hunread : (wb.content unread).IsRead := by
    intro e he
    rw [he] at hnone
    cases hnone
  obtain ⟨a', ha', hok⟩ := exists_of_any hdone
  obtain ⟨-, -, hrestored⟩ := revert_restores hreach ha'
  have hundone := eq_ok_of_isOk hok
  refine ⟨a', ha', hundone, htext, ?_, hstatus.2, ?_⟩
  · exact (hrestored hundone formula).1 (.inr ⟨by rw [hstatus.1]; decide, hread⟩)
  · exact (hrestored hundone unread).1 (.inr ⟨by rw [hstatus.2]; decide, hunread⟩)

/-- **What taking back cannot restore.**  A formula that read its own cell has left a status and
nothing else, and the status is not captured.  A formula that read a sheet before there was one
leads out since a small one was added; it was left in its cell, but is refused when it is written
back. -/
theorem revert_loses :
    let home : Key := ⟨⟨0⟩, ⟨0, 0⟩⟩
    let a : Action := ⟨⟨0⟩, ⟨.single ⟨0, 0⟩, [.value (.text "x")]⟩, .data, none⟩
    let own := ((Session.start {}).run [.setFormula home "=A1"]).workbook
    let out := ((Session.start {}).run
      [.setFormula home "=Data!A9", .addSheetSized "Data" 5 5]).workbook
    (own.Reachable ∧ ∃ a', (own.perform a).answer = .ok a' ∧
      let undone := (a'.revert (own.perform a).workbook).1
      undone.answer = .ok () ∧ own.status home = .circularReference ∧
        undone.workbook.status home = .normal) ∧
    (out.Reachable ∧ ∃ a', (out.perform a).answer = .ok a' ∧
      let undone := (a'.revert (out.perform a).workbook).1
      undone.answer ≠ .ok () ∧ (out.content home).formulaText? = some "=Data!A9" ∧
        (undone.workbook.content home).formulaText? = none) := by
  intro home a own out
  refine ⟨⟨⟨_, _, rfl⟩, ?_⟩, ⟨_, _, rfl⟩, ?_⟩
  · have hdone : (own.perform a).answer.toOption.any (fun a' =>
        let undone := (a'.revert (own.perform a).workbook).1
        undone.answer.isOk && own.status home == .circularReference &&
          undone.workbook.status home == .normal) = true := by decide +kernel
    obtain ⟨a', ha', hundone⟩ := exists_of_any hdone
    simp only [Bool.and_eq_true, beq_iff_eq] at hundone
    obtain ⟨⟨hok, hcircular⟩, hnormal⟩ := hundone
    exact ⟨a', ha', eq_ok_of_isOk hok, hcircular, hnormal⟩
  · have hdone : (out.perform a).answer.toOption.any (fun a' =>
        let undone := (a'.revert (out.perform a).workbook).1
        !undone.answer.isOk && (out.content home).formulaText? == some "=Data!A9" &&
          (undone.workbook.content home).formulaText? == none) = true := by decide +kernel
    obtain ⟨a', ha', hundone⟩ := exists_of_any hdone
    simp only [Bool.and_eq_true, beq_iff_eq, Bool.not_eq_true'] at hundone
    obtain ⟨⟨hrefused, htext⟩, hgone⟩ := hundone
    refine ⟨a', ha', ?_, htext, hgone⟩
    intro hok
    rw [hok] at hrefused
    cases hrefused

end Workbook

end Spreadsheet
