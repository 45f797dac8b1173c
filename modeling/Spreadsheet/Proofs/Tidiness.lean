/-
# What a sheet is made of lies on it

* A sheet is *tidy* if its cells, its named ranges, its merged regions and the ranges of its formats
  lie within its extents, if merged regions share no cell and none is a single cell, and if no cell
  is kept that is not worth keeping (`Sheet.Tidy`).
* What is new on a sheet was checked, or cut to the extents.
* A sheet that loses lines keeps of every range what stands on lines that are left, so ranges stay on
  the sheet and regions stay apart (`Sheet.Tidy.without`).
* So all edits keep sheets tidy, and all sheets there can be are (`Reachable.tidy`).
-/
import Spreadsheet.Proofs.Renumbering

namespace Spreadsheet.Grid

/-! ## 1. Ranges -/

/-- A span that is cut to an axis ends on it. -/
theorem Span.last_cut_lt (s : Span) (words : Nat) {limit : Nat} (hlimit : 0 < limit) :
    (s.cut words limit).last words < limit := by
  simp only [cut, make, last]
  omega

variable {axis : Axis} {band : Span}

/-- Ranges that share a cell meet. -/
theorem Range.meets_of_covers {r q : Range} {s : Spot} (hr : r.covers s = true)
    (hq : q.covers s = true) : r.meets q = true := by
  rw [covers_iff, Span.covers_iff, Span.covers_iff] at hr hq
  simp only [meets, Span.meets, Bool.and_eq_true, decide_eq_true_eq]
  omega

/-- A range that starts on the axes covers its last cell. -/
theorem Range.Starts.covers_last {r : Range} (h : r.Starts) : r.covers r.last = true := by
  rw [covers_iff, Span.covers_iff, Span.covers_iff]
  exact ⟨⟨Span.first_le_last (h .rows), Nat.le_refl _⟩,
    Span.first_le_last (h .columns), Nat.le_refl _⟩

end Spreadsheet.Grid

namespace Spreadsheet

open Grid Formula Conditional

/-! ## 2. Cells worth keeping -/

namespace Cell

variable {c : Cell}

/-- **A cell that is worth keeping:** there is or was a formula, or something else would be lost
without the cell. -/
def Kept (c : Cell) : Prop := c.content.isPlain = false ∨ c.isBlank = false

/-- **Why a cell is worth keeping,** as it is seen. -/
theorem Kept.cases (h : c.Kept) : c.value ≠ .empty ∨ c.content.formulaText? ≠ none ∨ c.style ≠ {} ∨
    c.baseline ≠ none ∨ c.content.status = .circularReference := by
  rcases h with hplain | hblank
  · cases hcontent : c.content with
    | value v => rw [hcontent] at hplain; cases hplain
    | formula text e edges result => exact .inr (.inl nofun)
    | unparsed text => exact .inr (.inl nofun)
    | discarded => exact .inr (.inr (.inr (.inr rfl)))
  · by_cases hbaseline : c.baseline = none
    · by_cases hvalue : c.value = .empty
      · by_cases htext : c.content.formulaText? = none
        · refine .inr (.inr (.inl fun hstyle => ?_))
          simp [isBlank, hvalue, htext, hstyle, hbaseline, Value.isEmpty] at hblank
        · exact .inr (.inl htext)
      · exact .inl hvalue
    · exact .inr (.inr (.inr (.inl hbaseline)))

/-- A value stays, and what is no value becomes none. -/
theorem Kept.withContent (h : c.Kept) {content : Content}
    (hplain : content.isPlain = true → content = c.content) :
    ({ c with content } : Cell).Kept := by
  cases hnew : content.isPlain with
  | false => exact .inl hnew
  | true =>
    rw [hplain hnew]
    exact h

/-- Taking off what is imposed keeps the baseline, and so the cell. -/
theorem Kept.restore (h : c.Kept) : c.restore.Kept := by
  refine h.imp_right fun hblank => ?_
  cases hbaseline : c.baseline with
  | none => simpa [isBlank, Cell.restore, value, hbaseline] using hblank
  | some baseline => simp [isBlank, Cell.restore, hbaseline]

theorem kept_impose (c : Cell) (style : Style) : (c.impose style).Kept := by
  right
  simp [isBlank, impose]

/-- A cell is kept after a format made changes to it. -/
theorem kept_restyled {c? : Option Cell} (h : ∀ c, c? = some c → c.Kept)
    {changes : List StyleChange} {c : Cell} (hc : Workbook.restyled c? changes = some c) :
    c.Kept := by
  have hfold (changes : List StyleChange) (c? : Option Cell) (h : ∀ c, c? = some c → c.Kept) :
      ∀ c, changes.foldl Workbook.imposedOn c? = some c → c.Kept := by
    induction changes generalizing c? with
    | nil => exact h
    | cons change changes ih =>
      refine ih _ fun c hc => ?_
      rw [← Option.some.inj hc]
      exact kept_impose _ _
  refine hfold changes _ (fun c hc => ?_) c hc
  obtain ⟨old, hold, rfl⟩ := Option.map_eq_some_iff.mp hc
  exact (h old hold).restore

/-- What formats did may be undone, unless that leaves the cell blank. -/
theorem kept_reset? {c c' : Cell} (hc : c.reset? = some c') : c'.Kept := by
  unfold reset? at hc
  split at hc
  · cases hc
  · rename_i hblank
    rw [← Option.some.inj hc]
    exact .inr (by simpa using hblank)

end Cell

namespace Content

/-- Evaluating, changing formulas and finding edges again make no values. -/
theorem eq_of_isPlain_withResult {content : Content} {result : Result}
    (h : (content.withResult result).isPlain = true) : content.withResult result = content := by
  cases content with
  | formula text e edges latest => cases h
  | value v => rfl
  | unparsed text => rfl
  | discarded => rfl

theorem eq_of_isPlain_mapExpr {content : Content} {change : Expr → Expr}
    (h : (content.mapExpr change).isPlain = true) : content.mapExpr change = content := by
  cases content with
  | formula text e edges result => cases h
  | value v => rfl
  | unparsed text => rfl
  | discarded => rfl

theorem eq_of_isPlain_rebuiltContent {wb : Workbook} {key : Key} {content : Content}
    (h : (wb.rebuiltContent key content).isPlain = true) :
    wb.rebuiltContent key content = content := by
  cases content with
  | formula text e edges result =>
    unfold Workbook.rebuiltContent at h
    simp only [expr?] at h
    split at h <;> cases h
  | value v => rfl
  | unparsed text => rfl
  | discarded => rfl

end Content

/-! ## 3. Tidy sheets -/

/-- **A tidy sheet.** -/
structure Sheet.Tidy (s : Sheet) : Prop where
  cells : ∀ {spot c}, s.cell? spot = some c → s.check spot = .ok () ∧ c.Kept
  names : ∀ {k n}, s.names.byKey.get? k = some n → s.holds n.range = true
  merged : ∀ region ∈ s.merged, s.holds region = true ∧ region.isSingle = false
  apart : s.merged.Pairwise fun r q => ∀ spot, r.covers spot = true → q.covers spot = false
  formats : ∀ {n format}, s.formats.get? n = some format → s.holds format.range = true

namespace Sheet

variable {s : Sheet} {spot : Spot}

theorem tidy_new (name : String) (rows cols : Nat) : (Sheet.new name rows cols).Tidy where
  cells h := by cases h
  names h := by cases h
  merged _ h := by cases h
  apart := .nil
  formats h := by cases h

/-- A range of the sheet is one whose cells are on the sheet. -/
theorem check_of_covers {range : Range} (h : s.holds range = true) (hspot : range.covers spot = true) :
    s.check spot = .ok () := by
  rw [Range.covers_iff_along] at hspot
  refine check_eq_ok_iff_along.mpr fun axis => ?_
  exact Nat.lt_of_le_of_lt (Span.covers_iff.mp (hspot axis)).2 (last_lt_of_holds h axis)

theorem holds_of_covers {range : Range} (hstarts : range.Starts)
    (h : ∀ spot, range.covers spot = true → s.check spot = .ok ()) : s.holds range = true := by
  obtain ⟨hrow, hcol⟩ := Workbook.check_eq_ok_iff.mp (h _ hstarts.covers_last)
  simp only [holds, Range.fits, Bool.and_eq_true, decide_eq_true_eq]
  exact ⟨hrow, hcol⟩

/-- **A range of the sheet that is not a single cell has another cell.** -/
theorem exists_ne_of_holds {range : Range} (h : s.holds range = true)
    (hsingle : range.isSingle = false) :
    ∃ a b, a ≠ b ∧ range.covers a = true ∧ range.covers b = true := by
  have hstarts := starts_of_holds h
  refine ⟨range.first, range.last, fun heq => ?_, hstarts.covers_first, hstarts.covers_last⟩
  obtain ⟨hrow, hcol⟩ := Spot.mk.inj heq
  -- The ends of the range are no last words, so nothing is cut off there.
  have hcount (axis : Axis) (hends : (range.along axis).first = (range.along axis).last axis.words) :
      (range.along axis).count = 1 := by
    have hlast := last_lt_of_holds h axis
    have hextent := s.extent_le axis
    have hwords := limit_lt_words axis
    have hpos := (range.along axis).count_pos
    unfold Span.last at hends hlast
    omega
  have hrows : range.rows.count = 1 := hcount .rows hrow
  have hcols : range.cols.count = 1 := hcount .columns hcol
  rw [Range.isSingle, hrows, hcols] at hsingle
  cases hsingle

/-- **A range that is cut to a sheet lies on it.** -/
theorem holds_cut (s : Sheet) (range : Range) : s.holds (range.cut s.rows s.cols) = true := by
  simp only [holds, Range.fits, Bool.and_eq_true, decide_eq_true_eq]
  exact ⟨Span.last_cut_lt _ _ s.rows_pos, Span.last_cut_lt _ _ s.cols_pos⟩

/-- Other cells may stand on the sheet. -/
theorem Tidy.withCells (h : s.Tidy) {cells : Table Spot Cell}
    (hcells : ∀ {spot c}, cells.get? spot = some c → s.check spot = .ok () ∧ c.Kept) :
    ({ s with cells } : Sheet).Tidy :=
  ⟨hcells, h.names, h.merged, h.apart, h.formats⟩

/-- Cells may be changed that stay worth keeping. -/
theorem Tidy.mapCells (h : s.Tidy) (change : Spot → Cell → Cell)
    (hchange : ∀ {spot c}, c.Kept → (change spot c).Kept) :
    ({ s with cells := s.cells.map change } : Sheet).Tidy := by
  refine h.withCells fun {spot c} hc => ?_
  rw [Table.get?_map] at hc
  obtain ⟨old, hold, rfl⟩ := Option.map_eq_some_iff.mp hc
  exact ⟨(h.cells hold).1, hchange (h.cells hold).2⟩

/-- So may formats that keep their ranges, and arrows. -/
theorem Tidy.map (h : s.Tidy) {change : Spot → Cell → Cell} {changeFormat : Nat → Format → Format}
    (hchange : ∀ {spot c}, c.Kept → (change spot c).Kept)
    (hformat : ∀ n format, (changeFormat n format).range = format.range) (arrows : Arrows) :
    ({ s with
      cells := s.cells.map change, formats := s.formats.map changeFormat, arrows } : Sheet).Tidy := by
  refine ⟨(h.mapCells change hchange).cells, h.names, h.merged, h.apart, fun {n format} hn => ?_⟩
  rw [Table.get?_map] at hn
  obtain ⟨old, hold, rfl⟩ := Option.map_eq_some_iff.mp hn
  rw [hformat]
  exact h.formats hold

theorem Tidy.mapContent (h : s.Tidy) (spot : Spot) {change : Content → Content}
    (hchange : ∀ {content}, (change content).isPlain = true → change content = content) :
    (s.mapContent spot change).Tidy := by
  refine h.mapCells _ fun hc => ?_
  split
  · exact hc.withContent hchange
  · exact hc

/-- A cell of the sheet may be set to one that is worth keeping, or to none. -/
theorem Tidy.set (h : s.Tidy) (hspot : s.check spot = .ok ()) (c? : Option Cell)
    (hc : ∀ c, c? = some c → c.Kept) :
    ({ s with cells := s.cells.set spot c? } : Sheet).Tidy := by
  refine h.withCells fun {j c} hj => ?_
  rw [Table.get?_set] at hj
  split at hj
  · rename_i hkey
    subst hkey
    exact ⟨hspot, hc c hj⟩
  · exact h.cells hj

theorem Tidy.settle (h : s.Tidy) (hspot : s.check spot = .ok ()) (c : Cell) :
    (s.settle spot c).Tidy := by
  refine h.set hspot _ fun c' hc' => ?_
  split at hc'
  · cases hc'
  · rename_i hblank
    rw [← Option.some.inj hc']
    exact .inr (by simpa using hblank)

theorem Tidy.dropArrows (h : s.Tidy) (spot : Spot) : (s.dropArrows spot).Tidy :=
  ⟨h.cells, h.names, h.merged, h.apart, h.formats⟩

theorem Tidy.writeValue (h : s.Tidy) (hspot : s.check spot = .ok ()) (v : Value) :
    (s.writeValue spot v).Tidy := by
  unfold Sheet.writeValue
  dsimp only
  split
  · exact h.settle hspot _
  · exact (h.dropArrows spot).settle hspot _

/-- What is no value is worth keeping. -/
theorem Tidy.writeContent (h : s.Tidy) (hspot : s.check spot = .ok ()) {content : Content}
    (hplain : content.isPlain = false) : (s.writeContent spot content).Tidy :=
  (h.dropArrows spot).set hspot (some { s.cell spot with content }) fun c hc => by
    rw [← Option.some.inj hc]
    exact .inl hplain

/-- **A format changes cells of its range.** -/
theorem Tidy.restyleSheet (h : s.Tidy) {changes : List (Spot × List StyleChange)}
    (hspots : ∀ change ∈ changes, s.check change.1 = .ok ()) :
    (Workbook.restyleSheet s changes).Tidy := by
  induction changes generalizing s with
  | nil => exact h
  | cons change changes ih =>
    obtain ⟨hspot, hrest⟩ := List.forall_mem_cons.mp hspots
    have hset := h.set hspot (Workbook.restyled (s.cells.get? change.1) change.2) fun c hc =>
      Cell.kept_restyled (fun c hc => (h.cells hc).2) hc
    have hone : (Workbook.restyleSheet s [change]).Tidy :=
      ⟨hset.cells, h.names, h.merged, h.apart, h.formats⟩
    exact ih hone hrest

/-- A range that meets no region is merged, unless it is a single cell. -/
theorem Tidy.merge (h : s.Tidy) {range : Range} {s' : Sheet} (hmerge : s.merge range = .ok s') :
    s'.Tidy := by
  unfold Sheet.merge at hmerge
  split at hmerge
  · cases hmerge
  · rename_i hholds
    split at hmerge
    · cases hmerge
    · rename_i hmeets
      split at hmerge
      · rw [← Except.ok.inj hmerge]
        exact h
      · rename_i hsingle
        rw [← Except.ok.inj hmerge]
        refine ⟨h.cells, h.names, fun region hregion => ?_, ?_, h.formats⟩
        · rcases List.mem_append.mp hregion with hregion | hregion
          · exact h.merged region hregion
          · rw [List.mem_singleton.mp hregion]
            have hon : s.holds range = true := by simpa using hholds
            exact ⟨hon, by simpa using hsingle⟩
        · refine List.pairwise_append.mpr ⟨h.apart, List.pairwise_singleton .., ?_⟩
          intro region hregion q hq spot hspot
          rw [List.mem_singleton.mp hq, Bool.eq_false_iff]
          intro hrange
          exact hmeets (List.any_eq_true.mpr ⟨region, hregion, Range.meets_of_covers hrange hspot⟩)

theorem Tidy.unmerge (h : s.Tidy) (range : Range) : (s.unmerge range).Tidy :=
  ⟨h.cells, h.names, fun region hregion => h.merged region (List.mem_of_mem_erase hregion),
    h.apart.sublist List.erase_sublist, h.formats⟩

/-! ## 4. Losing lines -/

variable {axis : Axis} {band : Span}

/-- **What is left of a sheet lies within its new extents.** -/
theorem check_of_cell?_without {c : Cell} (h : (s.without axis band).cell? spot = some c) :
    (s.without axis band).check spot = .ok () := by
  rw [cell?, cells_without, Table.get?_filter, Option.filter_eq_some_iff] at h
  exact Workbook.check_eq_ok_iff.mpr (by simpa using h.2)

/-- **What is left of a range of the sheet lies on what is left of the sheet.** -/
theorem holds_without (hband : band.first + band.count ≤ s.extent axis) {range left : Range}
    (h : s.holds range = true) (hleft : range.without? axis band = some left) :
    (s.without axis band).holds left = true := by
  obtain ⟨hstarts, hcovers⟩ := Range.covers_without? (starts_of_holds h) hleft
  refine holds_of_covers hstarts fun spot hspot => check_without hband ?_
  rw [hcovers] at hspot
  exact check_of_covers h hspot

/-- The names, the regions and the formats of a sheet that loses lines. -/
theorem names_without (s : Sheet) (axis : Axis) (band : Span) :
    (s.without axis band).names = s.names.mapRanges fun range => range.without? axis band := by
  cases axis <;> rfl

theorem merged_without (s : Sheet) (axis : Axis) (band : Span) :
    (s.without axis band).merged =
      (s.merged.filterMap fun range => range.without? axis band).filter (!·.isSingle) := by
  cases axis <;> rfl

theorem formats_without (s : Sheet) (axis : Axis) (band : Span) :
    (s.without axis band).formats = s.formats.filterMap fun _ format =>
      (format.range.without? axis band).map fun range => { format with range } := by
  cases axis <;> rfl

/-- **A tidy sheet that loses lines stays tidy.** -/
theorem Tidy.without (h : s.Tidy) (hband : band.first + band.count ≤ s.extent axis) :
    (s.without axis band).Tidy where
  cells {spot c} hc := by
    exact ⟨check_of_cell?_without hc, (h.cells (cell?_restored_of_without hband hc)).2⟩
  names {k n} hn := by
    rw [names_without, NameTable.mapRanges, Table.get?_filterMap] at hn
    obtain ⟨old, hold, hn⟩ := Option.bind_eq_some_iff.mp hn
    obtain ⟨left, hleft, rfl⟩ := Option.map_eq_some_iff.mp hn
    exact holds_without hband (h.names hold) hleft
  merged region hregion := by
    rw [merged_without, List.mem_filter, List.mem_filterMap] at hregion
    obtain ⟨⟨old, hold, hleft⟩, hsingle⟩ := hregion
    exact ⟨holds_without hband (h.merged old hold).1 hleft, by simpa using hsingle⟩
  apart := by
    rw [merged_without]
    refine List.Pairwise.filter _ (List.pairwise_filterMap.mpr ?_)
    refine h.apart.imp_of_mem fun {r q} hr hq hrq r' hr' q' hq' spot hspot => ?_
    -- Both were left with the cells that they covered.
    rw [(Range.covers_without? (starts_of_holds (h.merged r hr).1) hr').2] at hspot
    rw [(Range.covers_without? (starts_of_holds (h.merged q hq).1) hq').2]
    exact hrq _ hspot
  formats {n format} hformat := by
    rw [formats_without, Table.get?_filterMap] at hformat
    obtain ⟨old, hold, hformat⟩ := Option.bind_eq_some_iff.mp hformat
    obtain ⟨left, hleft, rfl⟩ := Option.map_eq_some_iff.mp hformat
    exact holds_without hband (h.formats hold) hleft

end Sheet

/-! ## 5. All sheets of a workbook -/

namespace Workbook

variable {wb wb' : Workbook} {key : Key}

section AllSheets

variable {P : Sheet → Prop}

/-- What holds of the sheet of a new workbook holds of all its sheets. -/
theorem forall_new {settings : Settings} (h : ∀ name rows cols, P (.new name rows cols)) :
    ∀ id s, (new settings).sheet? id = some s → P s := by
  rintro ⟨i⟩ s hs
  rw [List.mem_singleton.mp (List.mem_of_getElem? hs)]
  exact h ..

/-- **What holds of all sheets does so after one of them was changed,** if the change keeps it. -/
theorem forall_onSheet (h : ∀ id s, wb.sheet? id = some s → P s) (id : SheetId)
    {change : Sheet → Sheet} (hchange : ∀ s, wb.sheet? id = some s → P s → P (change s)) :
    ∀ j s, (wb.onSheet id change).sheet? j = some s → P s := by
  intro j s hs
  rw [sheet?_onSheet] at hs
  split at hs
  · rename_i hid
    subst hid
    obtain ⟨old, hold, rfl⟩ := Option.map_eq_some_iff.mp hs
    exact hchange old hold (h id old hold)
  · exact h j s hs

/-- **And after all of them were changed,** if each change keeps it. -/
theorem forall_onSheets (h : ∀ id s, wb.sheet? id = some s → P s)
    {change : SheetId → Sheet → Sheet} (hchange : ∀ id s, P s → P (change id s)) :
    ∀ id s, (wb.onSheets change).sheet? id = some s → P s := by
  intro id s hs
  rw [sheet?_onSheets] at hs
  obtain ⟨old, hold, rfl⟩ := Option.map_eq_some_iff.mp hs
  exact hchange id old (h id old hold)

/-- What holds of all sheets and of a new one holds of all sheets after the new one was added. -/
theorem forall_appended (h : ∀ id s, wb.sheet? id = some s → P s) {new : Sheet} (hnew : P new) :
    ∀ id s, ({ wb with sheets := wb.sheets ++ [new] } : Workbook).sheet? id = some s → P s := by
  intro id s hs
  rw [sheet?, List.getElem?_append] at hs
  split at hs
  · exact h id s hs
  · rw [List.mem_singleton.mp (List.mem_of_getElem? hs)]
    exact hnew

end AllSheets

/-! ## 6. Tidy workbooks -/

/-- **A workbook of tidy sheets.** -/
def Tidy (wb : Workbook) : Prop := ∀ id s, wb.sheet? id = some s → s.Tidy

theorem Tidy.onSheet (h : wb.Tidy) (id : SheetId) {change : Sheet → Sheet}
    (hchange : ∀ s, wb.sheet? id = some s → s.Tidy → (change s).Tidy) :
    (wb.onSheet id change).Tidy :=
  forall_onSheet h id hchange

theorem Tidy.onSheets (h : wb.Tidy) {change : SheetId → Sheet → Sheet}
    (hchange : ∀ id s, s.Tidy → (change id s).Tidy) : (wb.onSheets change).Tidy :=
  forall_onSheets h hchange

theorem Tidy.recalculate (h : wb.Tidy) (key : Key) : (wb.recalculate key).1.Tidy := by
  unfold Workbook.recalculate
  split
  · exact h
  · exact h.onSheet key.sheet fun s _ hs =>
      hs.mapContent key.spot Content.eq_of_isPlain_withResult

/-- A place is a spot of its sheet. -/
theorem Has.check (hon : wb.Has key) {s : Sheet} (hs : wb.sheet? key.sheet = some s) :
    s.check key.spot = .ok () := by
  obtain ⟨on, hsheet, hcheck⟩ := hon
  rwa [← Option.some.inj (hsheet.symm.trans hs)]

/-- What is written is written on a sheet. -/
theorem Tidy.writeAny (h : wb.Tidy) (hon : wb.Has key) (content : Content) :
    (wb.writeAny key content).Tidy := by
  have hwrite {content : Content} (hplain : content.isPlain = false) :
      (wb.writeContent key content).Tidy :=
    h.onSheet key.sheet fun _ hs htidy => htidy.writeContent (hon.check hs) hplain
  cases content with
  | value v => exact h.onSheet key.sheet fun _ hs htidy => htidy.writeValue (hon.check hs) v
  | formula text e edges result => exact hwrite rfl
  | unparsed text => exact hwrite rfl
  | discarded => exact hwrite rfl

/-- Finding edges and triggers again moves nothing. -/
theorem Tidy.rebuild (h : wb.Tidy) : wb.rebuild.Tidy := by
  refine h.onSheets fun id s hs => hs.map ?_ ?_ _
  · exact fun hc => hc.withContent Content.eq_of_isPlain_rebuiltContent
  · exact fun _ _ => rfl

/-- Formulas that follow the cells stay where they are. -/
theorem Tidy.follow (h : wb.Tidy) (lost : SheetId) (name : String) (axis : Axis) (band : Span) :
    (wb.onSheets (followSheet lost name axis band)).Tidy := by
  refine h.onSheets fun id s hs => hs.map ?_ ?_ _
  · exact fun hc => hc.withContent Content.eq_of_isPlain_mapExpr
  · exact fun _ _ => rfl

theorem Tidy.removeBand (h : wb.Tidy) {id : SheetId} {s : Sheet} (hs : wb.sheet? id = some s)
    {axis : Axis} {band : Span} (hband : band.first + band.count ≤ s.extent axis) :
    (wb.removeBand id axis band).Tidy := by
  refine (h.follow id (wb.sheetName id) axis band).onSheet id fun t ht htidy => htidy.without ?_
  rw [sheet?_onSheets, hs] at ht
  rw [← Option.some.inj ht]
  cases axis <;> exact hband

/-- **A new format is cut to its sheet.** -/
theorem Tidy.addFormat (h : wb.Tidy) {sheet : SheetId} {s : Sheet}
    (hs : (wb.sheet? sheet).map Sheet.outline = some s.outline) (ids : List Nat)
    (definition : Range × List Rule) : (addFormat sheet s (wb, ids) definition).1.Tidy := by
  have hsheet : (wb.onSheet sheet fun t => { t with
      formats := t.formats.put wb.nextFormat (wb.retrigger sheet
        ⟨definition.1.cut s.rows s.cols, definition.2, []⟩) }).Tidy := by
    refine h.onSheet sheet fun t ht htidy => ?_
    refine ⟨htidy.cells, htidy.names, htidy.merged, htidy.apart, fun {n format} hformat => ?_⟩
    rw [Table.get?_put] at hformat
    split at hformat
    · rw [ht, Option.map_some] at hs
      rw [← Option.some.inj hformat]
      exact (holds_eq (Option.some.inj hs) _).trans (s.holds_cut definition.1)
    · exact htidy.formats hformat
  exact hsheet

/-- **Whatever is done to a workbook, its sheets stay tidy.** -/
theorem Tidy.change {choosing : Bool} (hchange : Change choosing wb wb') (h : wb.Tidy) : wb'.Tidy := by
  cases hchange with
  | setStyle _ hon style =>
    exact h.onSheet _ fun s hs htidy => htidy.settle (hon.check hs) _
  | @applyFormat sheet format hformat =>
    obtain ⟨on, n, hsheet, hformat⟩ := hformat
    refine h.onSheet sheet fun s hs htidy => htidy.restyleSheet fun change hmem => ?_
    obtain rfl : on = s := Option.some.inj (hsheet.symm.trans hs)
    obtain ⟨spot, hspot, rfl⟩ := List.mem_map.mp hmem
    have hholds := htidy.formats hformat
    exact Sheet.check_of_covers hholds ((Sheet.mem_cells_of_holds hholds).mp hspot)
  | addFormat hs ids definition => exact h.addFormat hs ids definition
  | @removeFormat sheet _ id format hs hformat =>
    refine h.onSheet sheet fun s _ htidy => ?_
    have hcells := htidy.mapCells
      (fun spot c => if format.range.covers spot then c.restore else c) fun hc => by
        split
        · exact hc.restore
        · exact hc
    refine ⟨hcells.cells, htidy.names, htidy.merged, htidy.apart, fun {n format} hkept => ?_⟩
    rw [Table.erase, Table.get?_filter] at hkept
    exact htidy.formats (Option.filter_eq_some_iff.mp hkept).1
  | resetFormatting sheet =>
    refine h.onSheet sheet fun s _ htidy => ⟨fun {spot c} hc => ?_, htidy.names, htidy.merged,
      htidy.apart, htidy.formats⟩
    rw [cell?_resetTouched] at hc
    split at hc
    · obtain ⟨old, hold, hc⟩ := Option.bind_eq_some_iff.mp hc
      exact ⟨(htidy.cells hold).1, Cell.kept_reset? hc⟩
    · exact htidy.cells hc
  | merge hs hmerge =>
    refine h.onSheet _ fun s _ _ => ?_
    exact (h _ _ hs).merge hmerge
  | unmerge id range => exact h.onSheet id fun s _ htidy => htidy.unmerge range
  | onArrows id change =>
    exact h.onSheet id fun s _ htidy =>
      ⟨htidy.cells, htidy.names, htidy.merged, htidy.apart, htidy.formats⟩
  | changeSettings settings => exact h
  | rebuild => exact h.rebuild
  | addSheet hname rows cols =>
    refine Tidy.rebuild ?_
    exact forall_appended h (Sheet.tidy_new ..)
  | resetSheet _ id rows cols =>
    exact (h.onSheet id fun s _ _ => Sheet.tidy_new s.name rows cols).rebuild
  | @defineName id s name range names hs hholds hnames =>
    refine (h.onSheet id fun t ht htidy => ?_).rebuild
    obtain rfl : s = t := Option.some.inj (hs.symm.trans ht)
    refine ⟨htidy.cells, fun {k n} hn => ?_, htidy.merged, htidy.apart, htidy.formats⟩
    obtain ⟨u, -, rfl⟩ := map_eq_ok_iff.mp hnames
    rw [Table.get?_put] at hn
    split at hn
    · rw [← Option.some.inj hn]
      exact hholds
    · exact htidy.names hn
  | removeName id name =>
    refine (h.onSheet id fun t _ htidy => ?_).rebuild
    refine ⟨htidy.cells, fun {k n} hn => ?_, htidy.merged, htidy.apart, htidy.formats⟩
    rw [NameTable.remove, Table.erase, Table.get?_filter] at hn
    exact htidy.names (Option.filter_eq_some_iff.mp hn).1
  | removeBand _ hs axis band hband => exact (h.removeBand hs hband).rebuild

theorem Tidy.edit (hedit : Edit wb wb') (h : wb.Tidy) : wb'.Tidy := by
  cases hedit with
  | evaluate key => exact h.recalculate key
  | write hon hplan => exact h.writeAny hon _
  | change hchange => exact h.change hchange

theorem Tidy.edits (h : wb.Tidy) (hedits : Edits wb wb') : wb'.Tidy := by
  induction hedits with
  | refl => exact h
  | tail _ hedit ih => exact ih.edit hedit

theorem tidy_new (settings : Settings) : (new settings).Tidy :=
  forall_new Sheet.tidy_new

/-- **In every workbook there can be, all sheets are tidy.** -/
theorem Reachable.tidy (h : wb.Reachable) : wb.Tidy :=
  h.induction tidy_new fun hedit hwb => hwb.edit hedit

end Workbook

end Spreadsheet
