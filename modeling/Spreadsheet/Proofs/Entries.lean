/-
# Blocks as functions of the cell

* A block lists its entries row by row and finds the one for a spot by counting.  On a sheet counting
  finds the right place, so a block is as good as a function that has an entry for each spot
  (`Block.over`): setting an entry changes the function at one spot (`Block.set_over`).
* So what is set in a captured block is told by a list of writes alone (`Block.foldl_set_over`): a
  spot that is written to once holds what is written (`overwrite_of_mem`), and one that is not holds
  what was captured (`overwrite_of_notMem`).
* A block that was written leaves in each cell what the entry for it becomes there
  (`content_writeBlock_over`).
-/
import Mathlib.Data.List.Nodup
import Mathlib.Logic.Function.Basic
import Spreadsheet.Proofs.Tidiness
import Spreadsheet.Proofs.Undo

namespace Spreadsheet

open Grid Formula Conditional

/-! ## 1. Where a cell is listed -/

namespace Grid

/-- A place in a table that is listed row by row. -/
theorem getElem?_flatMap_map {α β γ : Type} (f : α → β → γ) (cols : List β) {j : Nat}
    (hj : j < cols.length) : ∀ (rows : List α) (i : Nat),
      (rows.flatMap fun row => cols.map (f row))[i * cols.length + j]? =
        rows[i]?.map (f · cols[j])
  | [], i => by simp
  | row :: rows, 0 => by
    simp [List.getElem?_append_left, hj]
  | row :: rows, i + 1 => by
    have hplace : (i + 1) * cols.length + j = (i * cols.length + j) + cols.length := by
      rw [Nat.succ_mul]
      omega
    rw [List.flatMap_cons, hplace, List.getElem?_append_right (by simp), List.length_map,
      Nat.add_sub_cancel, getElem?_flatMap_map f cols hj rows i, List.getElem?_cons_succ]

end Grid

namespace Sheet

variable {s : Sheet} {range : Range} {spot : Spot}

/-- A range whose corners are on the sheet is on the sheet. -/
theorem holds_of_checkRange (h : s.checkRange range = .ok ()) : s.holds range = true := by
  obtain ⟨hrow, hcol⟩ := Workbook.check_eq_ok_iff.mp (Workbook.checkRange_eq_ok_iff.mp h).2
  simp only [holds, Range.fits, Bool.and_eq_true, decide_eq_true_eq]
  exact ⟨hrow, hcol⟩

/-- **Counting finds the cell.** -/
theorem getElem?_cells (h : s.checkRange range = .ok ()) (hspot : range.covers spot = true) :
    range.cells[(spot.row - range.rows.first) * range.cols.count +
      (spot.col - range.cols.first)]? = some spot := by
  have hlast := last_lt_of_holds (holds_of_checkRange h)
  have hrows := hlast .rows
  have hcols := hlast .columns
  have hextent := s.extent_le .columns
  obtain ⟨hrow, hcol⟩ := Range.covers_iff.mp hspot
  rw [Span.covers_iff] at hrow hcol
  simp only [Range.along, Axis.limit, maxColumns] at hrows hcols hextent
  have hcount : (range.cols.lines Axis.columns.words).length = range.cols.count := by
    have hpos := range.cols.count_pos
    rw [Span.lines, List.length_range']
    simp only [Span.last, Axis.words] at hcols hcol ⊢
    omega
  have hcolumn : spot.col - range.cols.first < (range.cols.lines Axis.columns.words).length := by
    rw [Span.lines, List.length_range']
    omega
  have hlisted := getElem?_flatMap_map (fun row col => (⟨row, col⟩ : Spot)) _ hcolumn
    (range.rows.lines Axis.rows.words) (spot.row - range.rows.first)
  rw [hcount] at hlisted
  rw [Range.cells, hlisted]
  have hline : (range.rows.lines Axis.rows.words)[spot.row - range.rows.first]? = some spot.row := by
    rw [Span.lines, List.getElem?_range' (by omega)]
    congr 1
    omega
  rw [hline, Option.map_some]
  congr 2
  simp only [Span.lines, List.getElem_range']
  omega

end Sheet

/-! ## 2. Blocks as functions -/

/-- **The block that has given entries for the cells of a range.** -/
def Block.over (range : Range) (entry : Spot → Entry) : Block := ⟨range, range.cells.map entry⟩

/-- **The entries after a list of writes.** -/
def overwrite (entry : Spot → Entry) (writes : List (Spot × Entry)) : Spot → Entry :=
  writes.foldl (fun entry w => Function.update entry w.1 w.2) entry

/-- **A spot that is not written to keeps its entry.** -/
theorem overwrite_of_notMem {spot : Spot} : ∀ {writes : List (Spot × Entry)} (entry : Spot → Entry),
    spot ∉ writes.map (·.1) → overwrite entry writes spot = entry spot
  | [], _, _ => rfl
  | w :: writes, entry, h => by
    rw [List.map_cons, List.mem_cons, not_or] at h
    exact (overwrite_of_notMem _ h.2).trans (Function.update_of_ne h.1 _ _)

/-- **A spot that is written to once holds what is written.** -/
theorem overwrite_of_mem {w : Spot × Entry} : ∀ {writes : List (Spot × Entry)}
    (entry : Spot → Entry), (writes.map (·.1)).Nodup → w ∈ writes →
      overwrite entry writes w.1 = w.2
  | first :: writes, entry, hnodup, hw => by
    obtain ⟨hfirst, hrest⟩ := List.nodup_cons.mp hnodup
    rcases List.mem_cons.mp hw with rfl | hw
    · exact (overwrite_of_notMem _ hfirst).trans (Function.update_self ..)
    · have hlater := overwrite_of_mem (Function.update entry first.1 first.2) hrest hw
      exact hlater

/-- A spot is left alone by writes, or holds one of them. -/
theorem overwrite_cases (spot : Spot) : ∀ (writes : List (Spot × Entry)) (entry : Spot → Entry),
    overwrite entry writes spot = entry spot ∨ ∃ w ∈ writes, overwrite entry writes spot = w.2
  | [], _ => .inl rfl
  | w :: writes, entry => by
    rcases overwrite_cases spot writes (Function.update entry w.1 w.2) with h | ⟨w', hw', h⟩
    · by_cases hspot : spot = w.1
      · refine .inr ⟨w, List.mem_cons_self, ?_⟩
        subst hspot
        exact h.trans (Function.update_self ..)
      · exact .inl (h.trans (Function.update_of_ne hspot _ _))
    · exact .inr ⟨w', List.mem_cons_of_mem _ hw', h⟩

section OnSheet

variable {s : Sheet} {range : Range}

/-- The place of a spot is where it is listed. -/
theorem Block.index?_over (h : s.checkRange range = .ok ()) (entry : Spot → Entry) (spot : Spot) :
    (Block.over range entry).index? spot =
      if spot ∈ range.cells then some (range.cells.idxOf spot) else none := by
  have hmem : spot ∈ range.cells ↔ _ := Sheet.mem_cells_of_holds (Sheet.holds_of_checkRange h)
  unfold Block.index? Block.over
  by_cases hspot : range.covers spot = true
  · rw [if_pos hspot, if_pos (hmem.mpr hspot)]
    obtain ⟨hlt, hfound⟩ := List.getElem?_eq_some_iff.mp (Sheet.getElem?_cells h hspot)
    conv_rhs => rw [← hfound, (Workbook.nodup_cells range).idxOf_getElem]
  · rw [if_neg hspot, if_neg fun hin => hspot (hmem.mp hin)]

/-- **Setting an entry changes the function at one spot.** -/
theorem Block.set_over (h : s.checkRange range = .ok ()) (entry : Spot → Entry) (spot : Spot)
    (e : Entry) : (Block.over range entry).set spot e =
      Block.over range (Function.update entry spot e) := by
  rw [Block.set, Block.index?_over h, Block.over, Block.over,
    (Workbook.nodup_cells range).map_update]
  by_cases hspot : spot ∈ range.cells
  · rw [if_pos hspot, if_pos hspot]
  · rw [if_neg hspot, if_neg hspot]

/-- **A list of writes overwrites the function.** -/
theorem Block.foldl_set_over (h : s.checkRange range = .ok ()) (entry : Spot → Entry)
    (writes : List (Spot × Entry)) :
    writes.foldl (fun block w => block.set w.1 w.2) (Block.over range entry) =
      Block.over range (overwrite entry writes) := by
  induction writes generalizing entry with
  | nil => rfl
  | cons w writes ih =>
    rw [List.foldl_cons, Block.set_over h, ih]
    rfl

end OnSheet

/-! ## 3. Capturing and writing -/

namespace Workbook

variable {wb : Workbook} {sheet : SheetId} {range : Range} {s : Sheet}

/-- **What is captured** is the entry of each cell. -/
theorem capture_eq (hs : wb.sheet sheet = .ok s) (hcheck : s.checkRange range = .ok ()) :
    wb.capture sheet range = .ok (Block.over range fun spot => (s.cell spot).entry) := by
  rw [capture, hs]
  show (s.checkRange range >>= _) = _
  rw [hcheck]
  rfl

/-- **What was written as a block stands where it was written:** a cell holds what its entry becomes,
apart from the latest result of a formula. -/
theorem content_writeBlock_over {entry : Spot → Entry} {kind : ChangeKind} {spot : Spot}
    (hs : wb.sheet sheet = .ok s) (hcheck : s.checkRange range = .ok ())
    (hok : (wb.writeBlock sheet (.over range entry) kind).answer = .ok ())
    (hspot : range.covers spot = true) :
    ∃ content, wb.contentOfEntry ⟨sheet, spot⟩ (entry spot) = .ok content ∧
      Content.Restored content
        ((wb.writeBlock sheet (.over range entry) kind).workbook.content ⟨sheet, spot⟩) := by
  have hblock : s.checkRange (Block.over range entry).range = .ok () := hcheck
  obtain ⟨hiff, hleft⟩ := writeBlock_of_checkRange kind hs hblock
  obtain ⟨-, planned, hplanned⟩ := hiff.mp hok
  have hkeys : (keysOf sheet range).zip (range.cells.map entry) =
      (keysOf sheet range).map fun key => (key, entry key.spot) := by
    simp only [keysOf, List.map_map, Function.comp_def, List.zip_map']
  have hkey : (⟨sheet, spot⟩ : Key) ∈ keysOf sheet range :=
    List.mem_map_of_mem
      ((Sheet.mem_cells_of_holds (Sheet.holds_of_checkRange hcheck)).mpr hspot)
  have hcontent : wb.planEntries ((keysOf sheet range).map fun key => (key, entry key.spot)) =
      .ok planned := hkeys ▸ hplanned
  exact ⟨_, content_of_planned hcontent (has_of_checkRange hs hcheck hkey) hkey,
    (hleft hok planned hplanned).restored _⟩

end Workbook

end Spreadsheet
