/-
# Ranges of cells

* A range is a rectangle: a span of rows and a span of columns.  It always has a cell.
* All questions are answered per axis; the cells are listed row by row.
* Written, a range is its first position and, unless it is a single cell, a colon and its last.
-/
import Spreadsheet.Grid.Position
import Spreadsheet.Grid.Span

namespace Spreadsheet.Grid

/-! ## 1. The type -/

/-- **A rectangle of cells.** -/
structure Range where
  rows : Span
  cols : Span
deriving DecidableEq, Repr

/-- The range with this first cell and these extents, each extent at least one. -/
def Range.make (row col height width : Nat) : Range := ⟨.make row height, .make col width⟩

/-- The range of one cell. -/
def Range.single (s : Spot) : Range := ⟨.single s.row, .single s.col⟩

/-- The range between two cells in any order. -/
def Range.between (a b : Spot) : Range := ⟨.between a.row b.row, .between a.col b.col⟩

/-- The range of signed extents from a cell, cut to the largest grid. -/
def Range.signed (row col height width : Int) : Range :=
  ⟨.signed maxRows row height, .signed maxColumns col width⟩

/-- The span of a range on an axis. -/
def Range.along (r : Range) : Axis → Span
  | .rows => r.rows
  | .columns => r.cols

/-- The range with another span on an axis. -/
def Range.withAlong (r : Range) (axis : Axis) (s : Span) : Range :=
  match axis with
  | .rows => { r with rows := s }
  | .columns => { r with cols := s }

/-- The last row. -/
def Range.lastRow (r : Range) : Nat := r.rows.last Axis.rows.words

/-- The last column. -/
def Range.lastCol (r : Range) : Nat := r.cols.last Axis.columns.words

/-- The first cell. -/
def Range.first (r : Range) : Spot := ⟨r.rows.first, r.cols.first⟩

/-- The last cell. -/
def Range.last (r : Range) : Spot := ⟨r.lastRow, r.lastCol⟩

/-- Number of cells by the extents. -/
def Range.size (r : Range) : Nat := r.rows.count * r.cols.count

/-- Whether the range is one cell. -/
def Range.isSingle (r : Range) : Bool := r.rows.count == 1 && r.cols.count == 1

/-! ## 2. Questions -/

/-- **Whether a cell belongs to the range.** -/
def Range.covers (r : Range) (s : Spot) : Bool :=
  r.rows.covers Axis.rows.words s.row && r.cols.covers Axis.columns.words s.col

/-- Whether all cells of `q` belong to `r`. -/
def Range.includes (r q : Range) : Bool :=
  r.rows.includes Axis.rows.words q.rows && r.cols.includes Axis.columns.words q.cols

/-- Whether the ranges share a cell. -/
def Range.meets (r q : Range) : Bool :=
  r.rows.meets Axis.rows.words q.rows && r.cols.meets Axis.columns.words q.cols

/-- **The cells in order.** -/
def Range.cells (r : Range) : List Spot :=
  (r.rows.lines Axis.rows.words).flatMap fun row =>
    (r.cols.lines Axis.columns.words).map fun col => ⟨row, col⟩

/-- Whether the range lies on a grid of that many rows and columns. -/
def Range.fits (r : Range) (rows columns : Nat) : Bool :=
  r.lastRow < rows && r.lastCol < columns

theorem Range.covers_iff {r : Range} {s : Spot} :
    r.covers s = true ↔ r.rows.covers Axis.rows.words s.row = true ∧
      r.cols.covers Axis.columns.words s.col = true := by
  simp [covers]

/-- **The cells are those that the range covers.** -/
theorem Range.mem_cells {r : Range} {s : Spot} (hrow : r.rows.first < Axis.rows.words)
    (hcol : r.cols.first < Axis.columns.words) : s ∈ r.cells ↔ r.covers s = true := by
  obtain ⟨row, col⟩ := s
  rw [covers_iff, ← Span.mem_lines hrow, ← Span.mem_lines hcol]
  simp [cells]

/-- A range of one cell has that cell. -/
theorem Range.cells_of_isSingle {r : Range} (h : r.isSingle = true) : r.cells = [r.first] := by
  have hlines {s : Span} {words : Nat} (h : s.count = 1) : s.lines words = [s.first] := by
    have hlast : s.last words - s.first + 1 = 1 := by
      rw [Span.last, h]
      omega
    rw [Span.lines, hlast]
    rfl
  simp only [isSingle, Bool.and_eq_true, beq_iff_eq] at h
  rw [cells, hlines h.1, hlines h.2]
  rfl

/-- The first cell is among the cells. -/
theorem Range.first_mem_cells (r : Range) : r.first ∈ r.cells := by
  simp [cells, first, Span.lines]

/-- **A range covers what a range covers that it includes.** -/
theorem Range.covers_of_includes {r q : Range} {s : Spot} (h : r.includes q = true)
    (hs : q.covers s = true) : r.covers s = true := by
  simp only [includes, Bool.and_eq_true] at h
  rw [covers_iff] at hs ⊢
  exact ⟨Span.covers_of_includes h.1 hs.1, Span.covers_of_includes h.2 hs.2⟩

@[simp] theorem Range.includes_refl (r : Range) : r.includes r = true := by
  simp [includes, Span.includes]

/-! ## 3. Cutting -/

/-- The cells that two ranges share, if any. -/
def Range.common? (r q : Range) : Option Range :=
  if r.meets q then
    some ⟨r.rows.common Axis.rows.words q.rows, r.cols.common Axis.columns.words q.cols⟩
  else
    none

/-- **The range cut to a grid.**  A range beyond the grid falls on its edge, so cutting never
fails. -/
def Range.cut (r : Range) (rows columns : Nat) : Range :=
  ⟨r.rows.cut Axis.rows.words rows, r.cols.cut Axis.columns.words columns⟩

/-- What is left of a range after a band of lines was removed. -/
def Range.without? (r : Range) (axis : Axis) (band : Span) : Option Range :=
  ((r.along axis).without? axis.words band).map (r.withAlong axis)

/-- **Where a spot is after a band of lines was removed;** nowhere, if it was on one of them. -/
def Spot.without? (s : Spot) (axis : Axis) (band : Span) : Option Spot :=
  let line := s.along axis
  if line < band.first then some (s.withAlong axis line)
  else if band.first + band.count ≤ line then some (s.withAlong axis (line - band.count))
  else none

/-! ## 4. Text -/

/-- A range as it is written. -/
def Range.text (r : Range) : String :=
  if r.isSingle then r.first.text else r.first.text ++ ":" ++ r.last.text

/-- A range as it is written, unless the number of one of its ends is no word. -/
def Range.text? (r : Range) : Option String :=
  if r.isSingle then r.first.text?
  else do return (← r.first.text?) ++ ":" ++ (← r.last.text?)

/-- **Why a text names no range.** -/
inductive RangeFault where
  | empty
  | corner (text : String) (fault : AddressFault)
  | address (fault : AddressFault)
deriving DecidableEq, Repr

/-- What is said about a text that names no range. -/
def RangeFault.message : RangeFault → String
  | .empty => "Invalid cell range: empty range"
  | .corner text fault => s!"Invalid cell range: {text}: {fault.message}"
  | .address fault => fault.message

/-- **The range that a text names:** two positions around the first colon, or one position. -/
def Range.read (text : String) : Except RangeFault Range := do
  let cs := Text.trimChars text.toList
  if cs.isEmpty then throw .empty
  match cs.dropWhile (· != ':') with
  | [] =>
    let p ← (readPosition cs).mapError .address
    return .single p.spot
  | _ :: after =>
    let corner (cs' : List Char) : Except RangeFault Position :=
      (readPosition (Text.trimChars cs')).mapError (.corner (String.ofList cs))
    let a ← corner (cs.takeWhile (· != ':'))
    let b ← corner after
    return .between a.spot b.spot

/-! ## 5. Targets -/

/-- **A range on a certain sheet.** -/
structure Target where
  sheet : SheetId
  range : Range
deriving DecidableEq, Repr

/-- Whether a cell of the workbook belongs to the target. -/
def Target.covers (t : Target) (k : Key) : Bool := t.sheet == k.sheet && t.range.covers k.spot

/-- Whether all cells of `u` belong to `t`. -/
def Target.includes (t u : Target) : Bool := t.sheet == u.sheet && t.range.includes u.range

theorem Target.covers_of_includes {t u : Target} {k : Key} (h : t.includes u = true)
    (hk : u.covers k = true) : t.covers k = true := by
  simp only [includes, covers, Bool.and_eq_true, beq_iff_eq] at h hk ⊢
  exact ⟨h.1.trans hk.1, Range.covers_of_includes h.2 hk.2⟩

/-- A single cell covers no other cell. -/
theorem Target.eq_of_covers_single {id : SheetId} {spot : Spot} {k : Key}
    (h : (⟨id, .single spot⟩ : Target).covers k = true) : k = ⟨id, spot⟩ := by
  obtain ⟨kd, row, col⟩ := k
  obtain ⟨r, c⟩ := spot
  simp only [covers, Bool.and_eq_true, beq_iff_eq, Range.covers_iff, Span.covers_iff] at h
  obtain ⟨rfl, hrow, hcol⟩ := h
  simp only [Range.single, Span.single, Span.last] at hrow hcol
  obtain rfl : row = r := by omega
  obtain rfl : col = c := by omega
  rfl

@[simp] theorem Target.includes_refl (t : Target) : t.includes t = true := by
  simp [includes]

/-- A target as it is written in listings. -/
def Target.text (t : Target) : String := t.sheet.text ++ "!" ++ t.range.text

end Spreadsheet.Grid
