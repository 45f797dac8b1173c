/-
# Edges are never out of date

* A workbook is *tracked* if finding all edges again would change no cell.  Every edit keeps it
  tracked: what is written is planned with the edges it has where it goes, what changes the layout
  has the edges found again, and everything else leaves contents alone or changes results only.
* So every workbook there can be is tracked (`Reachable.tracked`).
* A tracked formula has the edges that one walk over its mentions gives, all of them or none
  (`Tracked.edges_cases`).
-/
import Spreadsheet.Proofs.Edits

namespace Spreadsheet

open Grid Formula Conditional

namespace Workbook

variable {wb wb' : Workbook} {key : Key}

/-! ## 1. Contents after edits -/

theorem cell_eq_elim (wb : Workbook) (key : Key) :
    wb.cell key = (wb.sheet? key.sheet).elim default (·.cell key.spot) := by
  cases h : wb.sheet? key.sheet <;> simp [cell, cell?, h, Sheet.cell]

/-- A sheet without cells that is added brings no cells. -/
theorem cell_addSheet (wb : Workbook) {s : Sheet} (hs : ∀ spot, s.cell? spot = none) (key : Key) :
    ({ wb with sheets := wb.sheets ++ [s] } : Workbook).cell key = wb.cell key := by
  rw [cell_eq_elim, cell_eq_elim, sheet?, sheet?, List.getElem?_append]
  split
  · rfl
  · -- Behind the sheets that there were stands the new one.
    rename_i hbeyond
    rw [List.getElem?_eq_none (Nat.le_of_not_lt hbeyond), List.getElem?_singleton]
    split
    · simp [Sheet.cell, hs]
    · rfl

/-- **What a change of a sheet does to its cells it does in the workbook.** -/
theorem cell_onSheet_rel {R : Cell → Cell → Prop} (hrefl : ∀ c, R c c) (id : SheetId)
    {change : Sheet → Sheet} (h : ∀ s spot, wb.sheet? id = some s →
      R (s.cell spot) ((change s).cell spot)) (key : Key) :
    R (wb.cell key) ((wb.onSheet id change).cell key) := by
  rw [cell_eq_elim, cell_eq_elim, sheet?_onSheet]
  split
  · rename_i hid
    cases hs : wb.sheet? key.sheet with
    | none => exact hrefl _
    | some s => exact h s key.spot (hid ▸ hs)
  · exact hrefl _

/-- So it is with contents. -/
theorem content_onSheet_rel {R : Content → Content → Prop} (hrefl : ∀ c, R c c) (id : SheetId)
    {change : Sheet → Sheet} (h : ∀ s spot, wb.sheet? id = some s →
      R (s.cell spot).content ((change s).cell spot).content) (key : Key) :
    R (wb.content key) ((wb.onSheet id change).content key) :=
  cell_onSheet_rel (R := fun c c' => R c.content c'.content) (fun c => hrefl c.content) id h key

/-- What changes no content on a sheet changes none in the workbook. -/
theorem content_onSheet_eq (id : SheetId) {change : Sheet → Sheet}
    (h : ∀ s spot, wb.sheet? id = some s →
      ((change s).cell spot).content = (s.cell spot).content) (key : Key) :
    (wb.onSheet id change).content key = wb.content key :=
  (content_onSheet_rel (fun _ => rfl) id (fun s spot hs => (h s spot hs).symm) key).symm

/-- **What a change of all sheets does to each content it does in the workbook.** -/
theorem content_onSheets (f : Key → Content → Content)
    (hempty : ∀ key, f key (.value .empty) = .value .empty) {change : SheetId → Sheet → Sheet}
    (h : ∀ id s spot, ((change id s).cell spot).content = f ⟨id, spot⟩ (s.cell spot).content)
    (wb : Workbook) (key : Key) : (wb.onSheets change).content key = f key (wb.content key) := by
  rw [content, content, cell_eq_elim, cell_eq_elim, sheet?_onSheets]
  cases wb.sheet? key.sheet with
  | none => exact (hempty key).symm
  | some s => exact h key.sheet s key.spot

/-- Changing the contents of a sheet's cells changes what is found at a spot. -/
theorem content_map (s : Sheet) (f : Spot → Content → Content)
    (hempty : ∀ spot, f spot (.value .empty) = .value .empty) (spot : Spot) :
    (((s.cells.map fun spot c => { c with content := f spot c.content }).get? spot).getD
      {}).content = f spot (s.cell spot).content := by
  rw [Table.get?_map, Sheet.cell, Sheet.cell?]
  cases s.cells.get? spot with
  | none => exact (hempty spot).symm
  | some c => rfl

/-- What is read off the cells of a sheet stays where no change of a cell touches it. -/
theorem eq_of_map {γ : Type} {f : Cell → γ} {change : Spot → Cell → Cell}
    (h : ∀ spot c, f (change spot c) = f c) (s : Sheet) (spot : Spot) :
    f (((s.cells.map change).get? spot).getD default) = f (s.cell spot) := by
  rw [Table.get?_map, Sheet.cell, Sheet.cell?]
  cases s.cells.get? spot with
  | none => rfl
  | some c => exact h spot c

theorem content_recalculate_of_ne (wb : Workbook) {key j : Key} (h : key ≠ j) :
    (wb.recalculate key).1.content j = wb.content j := by
  rw [content, content, cell, cell, cell?_recalculate_of_ne wb h]

theorem content_mapContent_self (wb : Workbook) (key : Key) (change : Content → Content)
    (h : change (.value .empty) = .value .empty) :
    (wb.mapContent key change).content key = change (wb.content key) := by
  rw [content, content, cell, cell, cell?_mapContent, if_pos rfl]
  cases wb.cell? key with
  | none => exact h.symm
  | some c => rfl

/-- A cell without a formula stays as it is. -/
theorem recalculate_of_expr?_none (h : (wb.content key).expr? = none) :
    (wb.recalculate key).1 = wb := by
  unfold recalculate
  rw [← content, h]

/-- **Evaluating a cell gives its formula the outcome that it has now.** -/
theorem content_recalculate_self {e : Expr} (h : (wb.content key).expr? = some e) :
    (wb.recalculate key).1.content key =
      (wb.content key).withResult (.ofOutcome (wb.evaluate key e)) := by
  unfold recalculate
  rw [← content, h]
  exact content_mapContent_self wb key (·.withResult _) rfl

/-- Evaluating a cell changes at most a result. -/
theorem content_recalculate (wb : Workbook) (key j : Key) :
    (wb.recalculate key).1.content j = wb.content j ∨
      ∃ result, (wb.recalculate key).1.content j = (wb.content j).withResult result := by
  by_cases h : key = j
  · subst h
    cases he : (wb.content key).expr? with
    | none => exact .inl (by rw [recalculate_of_expr?_none he])
    | some e => exact .inr ⟨_, content_recalculate_self he⟩
  · exact .inl (content_recalculate_of_ne wb h)

/-- **A cell holds what was written into it.** -/
theorem content_writeAny_self (hon : wb.Has key) (content : Content) :
    (wb.writeAny key content).content key = content := by
  obtain ⟨s, hs, -⟩ := hon
  have hput (change : Sheet → Sheet) :
      (wb.onSheet key.sheet change).content key = ((change s).cell key.spot).content := by
    rw [Workbook.content, cell_eq_elim, sheet?_onSheet, if_pos rfl, hs]
    rfl
  have hwrite (content : Content) : (wb.writeContent key content).content key = content := by
    rw [writeContent, hput, Sheet.cell, Sheet.cell?_writeContent, if_pos rfl]
    rfl
  cases content with
  | value v =>
    rw [writeAny, writeValue, hput, Sheet.cell, Sheet.cell?_writeValue, if_pos rfl]
    split
    · -- A cell that is not worth keeping holds nothing, and the value was nothing.
      rename_i hblank
      simp only [Cell.isBlank, Cell.value, Content.shown, Bool.and_eq_true] at hblank
      cases v <;> simp_all [Value.isEmpty]
    · rfl
  | formula text e edges result => exact hwrite _
  | unparsed text => exact hwrite _
  | discarded => exact hwrite _

/-- Writing leaves the other cells alone. -/
theorem cell?_writeAny_of_ne (wb : Workbook) {key j : Key} (content : Content) (h : key ≠ j) :
    (wb.writeAny key content).cell? j = wb.cell? j := by
  cases content with
  | value v => exact wb.cell?_writeValue_of_ne v h
  | formula text e edges result => exact wb.cell?_writeContent_of_ne _ h
  | unparsed text => exact wb.cell?_writeContent_of_ne _ h
  | discarded => exact wb.cell?_writeContent_of_ne _ h

theorem content_writeAny_of_ne (wb : Workbook) {key j : Key} (content : Content) (h : key ≠ j) :
    (wb.writeAny key content).content j = wb.content j := by
  rw [Workbook.content, Workbook.content, cell, cell, cell?_writeAny_of_ne wb content h]

/-- **What imposing a style and taking it off leave alone** of a cell, a format leaves alone. -/
theorem eq_of_restyleSheet {γ : Type} {f : Cell → γ} (hrestore : ∀ c, f c.restore = f c)
    (himpose : ∀ c style, f (c.impose style) = f c) (s : Sheet)
    (changes : List (Spot × List StyleChange)) (spot : Spot) :
    f ((restyleSheet s changes).cell spot) = f (s.cell spot) := by
  have hcell (changes : List StyleChange) (c : Option Cell) :
      f ((changes.foldl imposedOn c).getD default) = f (c.getD default) := by
    induction changes generalizing c with
    | nil => rfl
    | cons change changes ih => exact (ih _).trans (himpose _ _)
  have hrestyled (c : Option Cell) (changes : List StyleChange) :
      f ((restyled c changes).getD default) = f (c.getD default) := by
    refine (hcell changes _).trans ?_
    cases c with
    | none => rfl
    | some c => exact hrestore c
  have hcells (changes : List (Spot × List StyleChange)) (cells : Table Spot Cell) :
      f (((changes.foldl (fun cells c => cells.set c.1 (restyled (cells.get? c.1) c.2)) cells).get?
        spot).getD default) = f ((cells.get? spot).getD default) := by
    induction changes generalizing cells with
    | nil => rfl
    | cons c changes ih =>
      rw [List.foldl_cons, ih, Table.get?_set]
      split
      · rename_i hspot
        subst hspot
        exact hrestyled _ _
      · rfl
  exact hcells changes s.cells

/-- **Formats change no content.** -/
@[simp] theorem content_applyFormat (wb : Workbook) (sheet : SheetId) (format : Format) (key : Key) :
    (wb.applyFormat sheet format).content key = wb.content key :=
  content_onSheet_eq sheet
    (fun s spot _ => eq_of_restyleSheet (fun _ => rfl) (fun _ _ => rfl) s _ spot) key

@[simp] theorem content_applyFormats (formats : List (SheetId × Format)) (wb : Workbook)
    (key : Key) : (wb.applyFormats formats).content key = wb.content key := by
  unfold applyFormats
  split
  · rename_i henabled
    clear henabled
    induction formats generalizing wb with
    | nil => rfl
    | cons f formats ih => exact (ih _).trans (content_applyFormat wb f.1 f.2 key)
  · rfl

/-! ## 2. What finding the edges again does to a cell -/

/-- Finding the edges again is a matter of the layout. -/
theorem rebuiltContent_eq (h : wb.layout = wb'.layout) (key : Key) (content : Content) :
    wb.rebuiltContent key content = wb'.rebuiltContent key content := by
  unfold rebuiltContent
  simp only [edges_eq h]

/-- Finding the edges twice is finding them once. -/
theorem rebuiltContent_rebuiltContent (wb : Workbook) (key : Key) (content : Content) :
    wb.rebuiltContent key (wb.rebuiltContent key content) = wb.rebuiltContent key content := by
  cases content with
  | formula text e old result =>
    cases h : wb.edges key true e with
    | ok edges => simp [rebuiltContent, Content.expr?, Content.withEdges, h]
    | error fault => cases fault <;> simp [rebuiltContent, Content.expr?, Content.withEdges, h]
  | value v => rfl
  | unparsed text => rfl
  | discarded => rfl

/-- Results do not matter to edges. -/
theorem rebuiltContent_withResult (wb : Workbook) (key : Key) (content : Content)
    (result : Result) : wb.rebuiltContent key (content.withResult result) =
      (wb.rebuiltContent key content).withResult result := by
  cases content with
  | formula text e old latest =>
    cases h : wb.edges key true e with
    | ok edges =>
      simp [rebuiltContent, Content.expr?, Content.withEdges, Content.withResult, h]
    | error fault =>
      cases fault <;>
        simp [rebuiltContent, Content.expr?, Content.withEdges, Content.withResult, h]
  | value v => rfl
  | unparsed text => rfl
  | discarded => rfl

/-- **What may be written has the edges it should have.** -/
theorem rebuiltContent_of_plans {content : Content} (h : wb.Plans key content) :
    wb.rebuiltContent key content = content := by
  cases h with
  | formula hparse hedges shown =>
    simp [rebuiltContent, Content.expr?, Content.withEdges, hedges]
  | value v => rfl
  | unparsed hparse => rfl
  | discarded => rfl

/-! ## 3. The invariant -/

/-- Content that stays as it is or goes. -/
def Keeps (old new : Content) : Prop := new = old ∨ new = .value .empty

theorem Keeps.refl (content : Content) : Keeps content content := .inl rfl

/-- **A workbook whose edges are up to date:** finding them again would change no cell. -/
def Tracked (wb : Workbook) : Prop :=
  ∀ key, wb.rebuiltContent key (wb.content key) = wb.content key

/-- What keeps the layout and every formula keeps the edges up to date. -/
theorem Tracked.of_keeps (ht : wb.Tracked) (hlayout : wb'.layout = wb.layout)
    (h : ∀ key, Keeps (wb.content key) (wb'.content key)) : wb'.Tracked := by
  intro key
  rw [rebuiltContent_eq hlayout]
  rcases h key with h | h
  · rw [h]
    exact ht key
  · rw [h]
    rfl

/-- Evaluating a cell keeps the edges up to date. -/
theorem Tracked.recalculate (ht : wb.Tracked) (key : Key) : (wb.recalculate key).1.Tracked := by
  intro j
  rw [rebuiltContent_eq (layout_recalculate wb key)]
  rcases content_recalculate wb key j with h | ⟨result, h⟩
  · rw [h]
    exact ht j
  · rw [h, rebuiltContent_withResult, ht j]

/-- Writing what was planned keeps the edges up to date. -/
theorem Tracked.writeAny (ht : wb.Tracked) (hon : wb.Has key) {content : Content}
    (hplan : wb.Plans key content) : (wb.writeAny key content).Tracked := by
  intro j
  rw [rebuiltContent_eq (layout_writeAny wb key content)]
  by_cases h : key = j
  · subst h
    rw [content_writeAny_self hon, rebuiltContent_of_plans hplan]
  · rw [content_writeAny_of_ne wb content h]
    exact ht j

/-- Finding the edges again does to a cell what it does to its content. -/
theorem content_rebuild (wb : Workbook) (key : Key) :
    wb.rebuild.content key = wb.rebuiltContent key (wb.content key) := by
  refine content_onSheets wb.rebuiltContent (fun _ => rfl) (fun id s spot => ?_) wb key
  exact content_map s (fun spot => wb.rebuiltContent ⟨id, spot⟩) (fun _ => rfl) spot

/-- **Once edges were found again they are up to date,** whatever they were before. -/
theorem tracked_rebuild (wb : Workbook) : wb.rebuild.Tracked := by
  intro key
  rw [rebuiltContent_eq (layout_rebuild wb), content_rebuild, rebuiltContent_rebuiltContent]

/-- A cell that is reset keeps what it holds, or is not worth keeping. -/
theorem keeps_resetTouched (s : Sheet) (spot : Spot) :
    Keeps (s.cell spot).content ((resetTouched s).cell spot).content := by
  simp only [Sheet.cell, cell?_resetTouched]
  split
  · cases s.cell? spot with
    | none => exact .inl rfl
    | some c =>
      rw [Option.bind_some, Cell.reset?]
      split
      · exact .inr rfl
      · exact .inl rfl
  · exact .inl rfl

/-- A cell with another style keeps what it holds, or is not worth keeping. -/
theorem keeps_settle (s : Sheet) {place : Spot} (spot : Spot) {c : Cell}
    (hc : c.content = (s.cell place).content) :
    Keeps (s.cell spot).content ((s.settle place c).cell spot).content := by
  have hsettle : (s.settle place c).cell spot =
      (if place = spot then (if c.isBlank then none else some c) else s.cell? spot).getD default :=
    congrArg (·.getD default) (s.cell?_settle place spot c)
  rw [hsettle]
  split
  · rename_i hspot
    subst hspot
    split
    · exact .inr rfl
    · exact .inl hc
  · exact .inl rfl

/-- Only the sheet that is there is changed. -/
theorem onSheet_congr {id : SheetId} {change change' : Sheet → Sheet}
    (h : ∀ s, wb.sheet? id = some s → change s = change' s) :
    wb.onSheet id change = wb.onSheet id change' := by
  unfold onSheet
  congr 1
  refine List.ext_getElem? fun i => ?_
  rw [List.getElem?_modify, List.getElem?_modify]
  split
  · rename_i hi
    subst hi
    cases hs : wb.sheets[id.number]? with
    | none => rfl
    | some s => exact congrArg some (h s hs)
  · rfl

/-- Merging cells changes nothing but the regions. -/
theorem exists_of_merge {s s' : Sheet} {range : Range} (h : s.merge range = .ok s') :
    ∃ merged, s' = { s with merged } := by
  unfold Sheet.merge at h
  split at h
  · cases h
  · split at h
    · cases h
    · split at h
      · exact ⟨s.merged, (Except.ok.inj h).symm⟩
      · exact ⟨_, (Except.ok.inj h).symm⟩

theorem exists_onSheet_merge {id : SheetId} {s s' : Sheet} {range : Range}
    (hs : wb.sheet? id = some s) (h : s.merge range = .ok s') :
    ∃ merged, wb.onSheet id (fun _ => s') = wb.onSheet id fun s => { s with merged } := by
  obtain ⟨merged, rfl⟩ := exists_of_merge h
  refine ⟨merged, onSheet_congr fun s' hs' => ?_⟩
  rw [hs] at hs'
  rw [Option.some.inj hs']

/-- Names hold no formulas. -/
theorem keeps_names (wb : Workbook) (id : SheetId) (names : Sheet → NameTable) : ∀ key,
    Keeps (wb.content key) ((wb.onSheet id fun s => { s with names := names s }).content key) :=
  content_onSheet_rel Keeps.refl id fun _ _ _ => .inl rfl

/-- **What a change does to formulas:** they stay as they are or go, in a layout that stays or before
the edges are found again; or lines are removed. -/
theorem change_cases {choosing : Bool} (h : Change choosing wb wb') :
    (wb'.layout = wb.layout ∧ ∀ key, Keeps (wb.content key) (wb'.content key)) ∨
    (∃ changed : Workbook, (∀ key, Keeps (wb.content key) (changed.content key)) ∧
      wb' = changed.rebuild) ∨
    ∃ id s axis band, wb.sheet? id = some s ∧ band.first + band.count ≤ s.extent axis ∧
      wb' = (wb.removeBand id axis band).rebuild := by
  have hsheet (id : SheetId) {change : Sheet → Sheet}
      (houtline : ∀ s, (change s).outline = s.outline)
      (hkeeps : ∀ s spot, Keeps (s.cell spot).content ((change s).cell spot).content) :
      (wb.onSheet id change).layout = wb.layout ∧
        ∀ key, Keeps (wb.content key) ((wb.onSheet id change).content key) :=
    ⟨layout_onSheet id houtline,
      content_onSheet_rel Keeps.refl id fun s spot _ => hkeeps s spot⟩
  cases h with
  | setStyle _ hon style =>
    exact .inl (hsheet _ (fun _ => rfl) fun s spot => keeps_settle s spot rfl)
  | applyFormat hformat =>
    exact .inl ⟨layout_applyFormat wb _ _, fun key => .inl (content_applyFormat wb _ _ key)⟩
  | @addFormat sheet s hs ids definition =>
    exact .inl (hsheet sheet (fun _ => rfl) fun _ _ => .inl rfl)
  | @removeFormat sheet s id format hs hformat =>
    refine .inl (hsheet sheet (fun _ => rfl) fun s spot => .inl ?_)
    refine eq_of_map (f := Cell.content) (fun _ c => ?_) s spot
    split <;> rfl
  | resetFormatting sheet => exact .inl (hsheet sheet (fun _ => rfl) keeps_resetTouched)
  | @merge id s s' range hs hmerge =>
    obtain ⟨merged, hchange⟩ := exists_onSheet_merge hs hmerge
    rw [hchange]
    exact .inl (hsheet id (fun _ => rfl) fun _ _ => .inl rfl)
  | unmerge id range => exact .inl (hsheet id (fun _ => rfl) fun _ _ => .inl rfl)
  | onArrows id change => exact .inl (hsheet id (fun _ => rfl) fun _ _ => .inl rfl)
  | changeSettings settings => exact .inl ⟨rfl, fun _ => .inl rfl⟩
  | rebuild => exact .inr (.inl ⟨wb, fun _ => .refl _, rfl⟩)
  | addSheet hname rows cols =>
    refine .inr (.inl ⟨_, fun key => .inl ?_, rfl⟩)
    exact congrArg Cell.content (wb.cell_addSheet (fun _ => rfl) key)
  | resetSheet _ id rows cols =>
    exact .inr (.inl ⟨_, content_onSheet_rel Keeps.refl id fun _ _ _ => .inr rfl, rfl⟩)
  | @defineName id s name range names hs hholds hnames =>
    exact .inr (.inl ⟨_, keeps_names wb id fun _ => names, rfl⟩)
  | removeName id name => exact .inr (.inl ⟨_, keeps_names wb id (·.names.remove name), rfl⟩)
  | @removeBand id s _ hs axis band hband =>
    exact .inr (.inr ⟨id, s, axis, band, hs, hband, rfl⟩)

/-- **Every edit keeps the edges up to date.** -/
theorem Tracked.edit (h : Edit wb wb') (ht : wb.Tracked) : wb'.Tracked := by
  cases h with
  | evaluate key => exact ht.recalculate key
  | write hon hplan => exact ht.writeAny hon hplan
  | change h =>
    rcases change_cases h with
      ⟨hlayout, hkeeps⟩ | ⟨changed, -, rfl⟩ | ⟨id, s, axis, band, -, -, rfl⟩
    · exact ht.of_keeps hlayout hkeeps
    · exact tracked_rebuild changed
    · exact tracked_rebuild _

theorem tracked_new (settings : Settings) : (new settings).Tracked := by
  rintro ⟨⟨i⟩, spot⟩
  have hcontent : (new settings).content ⟨⟨i⟩, spot⟩ = .value .empty := by
    rw [content, cell_eq_elim]
    cases i <;> rfl
  rw [hcontent]
  rfl

/-- **Every workbook there can be has its edges up to date.** -/
theorem Reachable.tracked (h : wb.Reachable) : wb.Tracked :=
  h.induction tracked_new fun hedit ht => ht.edit hedit

/-- **A formula has the edges that its mentions give it,** or none if one leads beyond the edge of a
sheet. -/
theorem Tracked.edges_cases (ht : wb.Tracked) {e : Expr} (he : (wb.content key).expr? = some e) :
    wb.edges key true e = .ok (wb.content key).edges ∨
      (wb.content key).edges = [] ∧
        ∃ name range, wb.edges key true e = .error (.beyondSheet name range) := by
  have hkey := ht key
  obtain ⟨text, old, result, hcontent⟩ := Content.eq_formula_of_expr? he
  rw [hcontent] at hkey ⊢
  simp only [rebuiltContent, Content.expr?] at hkey
  cases hedges : wb.edges key true e with
  | ok edges =>
    rw [hedges] at hkey
    simp only [Content.withEdges, Content.formula.injEq, true_and, and_true] at hkey
    rw [hkey]
    exact .inl rfl
  | error fault =>
    rw [hedges] at hkey
    cases fault with
    | ownCell sheet spot => cases hkey
    | beyondSheet sheet range =>
      simp only [Content.withEdges, Content.formula.injEq, true_and, and_true] at hkey
      exact .inr ⟨hkey.symm, sheet, range, rfl⟩

/-- A formula with edges has those that its mentions give it. -/
theorem Tracked.edges_eq_ok (ht : wb.Tracked) {e : Expr} (he : (wb.content key).expr? = some e)
    (hne : (wb.content key).edges ≠ []) :
    wb.edges key true e = .ok (wb.content key).edges := by
  rcases ht.edges_cases he with hok | ⟨hnil, -⟩
  · exact hok
  · exact absurd hnil hne

end Workbook

end Spreadsheet
