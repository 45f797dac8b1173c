/-
# Removing rows and columns

* When a band of lines is removed from a sheet, everything that knows places follows: cells move up,
  formulas on all sheets are changed, named ranges, merged regions and the ranges of formats lose
  the lines of the band.  What loses all its lines is gone.
* Each of them follows by a computation of its own.  The cells are moved as a table, while the places
  of touched cells are renumbered one by one.
* A sheet keeps at least one line on each axis.
* Arrows do not follow; removing a band takes all of them away, on all sheets.
-/
import Spreadsheet.Workbook.Rebuild

namespace Spreadsheet

open Grid Formula Conditional

namespace Workbook

/-! ## 1. Following the cells -/

/-- Whether a reference of a formula follows the cells of the sheet that loses lines. -/
def pointsAt (sameSheet : Bool) (name : String) : Option String → Bool
  | none => sameSheet
  | some other => Text.asciiCapital other == Text.asciiCapital name

/-- A sheet whose formulas follow the cells of a sheet that lost a band of lines. -/
def followSheet (lost : SheetId) (name : String) (axis : Axis) (band : Span) (id : SheetId)
    (s : Sheet) : Sheet :=
  let change (e : Expr) : Expr := e.without (pointsAt (id == lost) name) axis band.first band.count
  { s with
    cells := s.cells.map fun _ c => { c with content := c.content.mapExpr change }
    formats := s.formats.map fun _ format => format.mapExpr change
    arrows := .empty }

end Workbook

/-! ## 2. Removing lines -/

/-- **The sheet without a band of lines.** -/
def Sheet.without (s : Sheet) (axis : Axis) (band : Span) : Sheet :=
  let shrunk : Sheet :=
    { s with
      cells := s.cells.without axis band
      names := s.names.mapRanges fun range => range.without? axis band
      merged := (s.merged.filterMap fun range => range.without? axis band).filter (!·.isSingle)
      formats := s.formats.filterMap fun _ format =>
        (format.range.without? axis band).map fun range => { format with range }
      touched := s.touched.filterMap fun spot => spot.without? axis band }
  match axis with
  | .rows => shrunk.resize (s.rows - band.count) s.cols
  | .columns => shrunk.resize s.rows (s.cols - band.count)

namespace Workbook

/-- Removes a band of lines from a sheet. -/
def removeBand (wb : Workbook) (id : SheetId) (axis : Axis) (band : Span) : Workbook :=
  (wb.onSheets (followSheet id (wb.sheetName id) axis band)).onSheet id (·.without axis band)

/-- **Removes `count` lines from `first` on,** or as many as there are. -/
def deleteLines (wb : Workbook) (id : SheetId) (axis : Axis) (first count : Nat) : Reply Unit :=
  Reply.guard wb (wb.sheet id) fun s =>
    Reply.guard wb (s.check ((⟨0, 0⟩ : Spot).withAlong axis first)) fun _ =>
      let count := min count (s.extent axis - first)
      if h : 0 < count then (wb.removeBand id axis ⟨first, count, h⟩).refresh ()
      else .keep wb (.ok ())

end Workbook

end Spreadsheet
