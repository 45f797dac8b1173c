/-
# Sheets

* A sheet has a name, extents, the cells that hold something, its named ranges, its merged regions,
  its conditional formats and the arrows drawn on it.
* Beside the cells it keeps the places of those that conditional formats have touched.
* Cells come into being when they are written to, and are listed row by row.
* Extents are at least one line and at most the largest grid.
-/
import Spreadsheet.Conditional.Rule
import Spreadsheet.Error
import Spreadsheet.Grid.Rows
import Spreadsheet.Workbook.Cell

namespace Spreadsheet

open Grid Formula Conditional

/-! ## 1. Arrows -/

/-- **The arrows drawn on a sheet,** by the cell they were asked for: to the ranges that its formula
reads, and to the cells whose formulas read it. -/
structure Arrows where
  precedents : Table Spot (List Target)
  dependents : Table Spot (List Key)

namespace Arrows

/-- No arrows. -/
def empty : Arrows := ⟨.empty, .empty⟩

instance : Inhabited Arrows := ⟨empty⟩

/-- Takes the arrows of a cell away. -/
def drop (a : Arrows) (spot : Spot) : Arrows := ⟨a.precedents.erase spot, a.dependents.erase spot⟩

end Arrows

/-! ## 2. The type -/

/-- An extent that a sheet can have on an axis. -/
def extentWithin (axis : Axis) (extent : Nat) : Nat := max 1 (min extent axis.limit)

theorem extentWithin_pos (axis : Axis) (extent : Nat) : 0 < extentWithin axis extent :=
  Nat.lt_of_lt_of_le Nat.one_pos (Nat.le_max_left _ _)

theorem extentWithin_le (axis : Axis) (extent : Nat) : extentWithin axis extent ≤ axis.limit := by
  cases axis <;> simp only [extentWithin, Axis.limit, maxRows, maxColumns] <;> omega

/-- **A sheet.**  There is no sheet without lines and none beyond the largest grid. -/
structure Sheet where
  name : String
  rows : Nat
  cols : Nat
  cells : Table Spot Cell := .empty
  names : NameTable := .empty
  merged : List Range := []
  formats : Table Nat Format := .empty
  /-- The places of the cells on which a format has imposed a style, each of them once. -/
  touched : List Spot := []
  arrows : Arrows := .empty
  rows_pos : 0 < rows
  rows_le : rows ≤ maxRows
  cols_pos : 0 < cols
  cols_le : cols ≤ maxColumns

namespace Sheet

/-- An empty sheet. -/
def new (name : String) (rows cols : Nat) : Sheet where
  name := name
  rows := extentWithin .rows rows
  cols := extentWithin .columns cols
  rows_pos := extentWithin_pos .rows rows
  rows_le := extentWithin_le .rows rows
  cols_pos := extentWithin_pos .columns cols
  cols_le := extentWithin_le .columns cols

instance : Inhabited Sheet := ⟨.new "" 1 1⟩

/-- The extent on an axis. -/
def extent (s : Sheet) : Axis → Nat
  | .rows => s.rows
  | .columns => s.cols

/-- All of the sheet. -/
def bounds (s : Sheet) : Range := .make 0 0 s.rows s.cols

/-- **The sheet with other extents.**  Cells outside are lost. -/
def resize (s : Sheet) (rows cols : Nat) : Sheet :=
  { s with
    rows := extentWithin .rows rows
    cols := extentWithin .columns cols
    cells := s.cells.filter fun spot _ =>
      spot.row < extentWithin .rows rows && spot.col < extentWithin .columns cols
    rows_pos := extentWithin_pos .rows rows
    rows_le := extentWithin_le .rows rows
    cols_pos := extentWithin_pos .columns cols
    cols_le := extentWithin_le .columns cols }

/-! ## 3. Checks -/

/-- Whether a range lies on the sheet. -/
def holds (s : Sheet) (range : Range) : Bool := range.fits s.rows s.cols

/-- **The cells of a range on the sheet are those that the range covers.** -/
theorem mem_cells_of_holds {s : Sheet} {range : Range} (h : s.holds range = true) {spot : Spot} :
    spot ∈ range.cells ↔ range.covers spot = true := by
  simp only [holds, Range.fits, Bool.and_eq_true, decide_eq_true_eq] at h
  have hrows := s.rows_le
  have hcols := s.cols_le
  refine Range.mem_cells (Span.first_lt_words h.1 ?_) (Span.first_lt_words h.2 ?_)
  · simp only [maxRows, Axis.words] at hrows ⊢
    omega
  · simp only [maxColumns, Axis.words] at hcols ⊢
    omega

/-- Accepts the spots of the sheet. -/
def check (s : Sheet) (spot : Spot) : Except Error Unit :=
  if s.rows ≤ spot.row then .error (.rowBeyond spot.row (s.rows - 1))
  else if s.cols ≤ spot.col then .error (.columnBeyond spot.col (s.cols - 1))
  else .ok ()

/-- Accepts the ranges of the sheet by their corners. -/
def checkRange (s : Sheet) (range : Range) : Except Error Unit := do
  s.check range.first
  s.check range.last

/-! ## 4. Cells -/

/-- The cell at a spot, if there is one. -/
def cell? (s : Sheet) (spot : Spot) : Option Cell := s.cells.get? spot

/-- The cell at a spot, an empty one if there is none. -/
def cell (s : Sheet) (spot : Spot) : Cell := (s.cell? spot).getD default

/-- Puts a cell, be it blank or not. -/
def put (s : Sheet) (spot : Spot) (c : Cell) : Sheet := { s with cells := s.cells.put spot c }

/-- **Puts a cell that is worth keeping,** and removes one that is not. -/
def settle (s : Sheet) (spot : Spot) (c : Cell) : Sheet :=
  { s with cells := s.cells.set spot (if c.isBlank then none else some c) }

/-- Takes the arrows of a cell away. -/
def dropArrows (s : Sheet) (spot : Spot) : Sheet := { s with arrows := s.arrows.drop spot }

/-- **Writes a value.**  Arrows are lost only with what was more than a value. -/
def writeValue (s : Sheet) (spot : Spot) (v : Value) : Sheet :=
  let c := s.cell spot
  let s := if c.content.isPlain then s else s.dropArrows spot
  s.settle spot { c with content := .value v }

/-- **Writes what a text became that was meant as a formula.**  Arrows are lost. -/
def writeContent (s : Sheet) (spot : Spot) (content : Content) : Sheet :=
  (s.dropArrows spot).put spot { s.cell spot with content }

/-- Changes the content of a cell that is there. -/
def mapContent (s : Sheet) (spot : Spot) (change : Content → Content) : Sheet :=
  { s with
    cells := s.cells.map fun j c =>
      if spot = j then { c with content := change c.content } else c }

theorem cell?_put (s : Sheet) (spot j : Spot) (c : Cell) :
    (s.put spot c).cell? j = if spot = j then some c else s.cell? j :=
  s.cells.get?_put spot j c

theorem cell?_settle (s : Sheet) (spot j : Spot) (c : Cell) :
    (s.settle spot c).cell? j =
      if spot = j then (if c.isBlank then none else some c) else s.cell? j :=
  s.cells.get?_set spot j _

/-- A written value is all that is left of what the cell held, if the cell is worth keeping. -/
theorem cell?_writeValue (s : Sheet) (spot j : Spot) (v : Value) :
    (s.writeValue spot v).cell? j =
      if spot = j then
        (if ({ s.cell spot with content := .value v } : Cell).isBlank then none
          else some { s.cell spot with content := .value v })
      else s.cell? j := by
  unfold writeValue
  rw [cell?_settle]
  split
  · rfl
  · split <;> rfl

theorem cell?_writeContent (s : Sheet) (spot j : Spot) (content : Content) :
    (s.writeContent spot content).cell? j =
      if spot = j then some { s.cell spot with content } else s.cell? j := by
  rw [writeContent, cell?_put]
  rfl

/-- Changing the content of a cell leaves the others alone. -/
theorem cell?_mapContent (s : Sheet) (spot j : Spot) (change : Content → Content) :
    (s.mapContent spot change).cell? j =
      if spot = j then (s.cell? j).map fun c => { c with content := change c.content }
      else s.cell? j := by
  rw [cell?, mapContent, Table.get?_map]
  split <;> simp [cell?]

/-! ## 5. Merged regions -/

/-- The merged region that a spot belongs to. -/
def regionAt? (s : Sheet) (spot : Spot) : Option Range := s.merged.find? (·.covers spot)

theorem covers_of_regionAt? {s : Sheet} {spot : Spot} {region : Range}
    (h : s.regionAt? spot = some region) : region.covers spot = true := by
  simpa using List.find?_some h

/-- **Merges the cells of a range** that shares none with another region.  A single cell stays as
it is. -/
def merge (s : Sheet) (range : Range) : Except Error Sheet :=
  if !s.holds range then .error (.rangeBeyond range)
  else if s.merged.any range.meets then .error (.overlapsMerged range)
  else if range.isSingle then .ok s
  else .ok { s with merged := s.merged ++ [range] }

/-- Splits a merged region. -/
def unmerge (s : Sheet) (range : Range) : Sheet := { s with merged := s.merged.erase range }

end Sheet

end Spreadsheet
