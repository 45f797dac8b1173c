/-
# Filling

* A fill continues the cells of a source range into a target range beside it, line by line: down or
  up if the ranges have the same columns, to the right or to the left if they have the same rows.
* A line is filled by a *walk* over the target that starts at the source.  A merged region is one
  step, and so is as much room as the merged region has that is copied; hidden cells of merged
  regions are neither copied nor written.
* The items of the source are taken in turn.  Formulas are copied and move with their cell; values
  are continued by the series that the line's values begin.
* The whole fill is planned first and then written as one action.
-/
import Spreadsheet.Series
import Spreadsheet.Workbook.Block

namespace Spreadsheet

open Grid Formula Conditional

/-! ## 1. Lines -/

/-- The axis across. -/
def Grid.Axis.across : Axis → Axis
  | .rows => .columns
  | .columns => .rows

/-- The spot at a place of a line, where the line runs along an axis. -/
def Grid.Axis.spot (axis : Axis) (line place : Nat) : Spot :=
  match axis with
  | .rows => ⟨place, line⟩
  | .columns => ⟨line, place⟩

/-- The places of a range on an axis. -/
def Grid.Range.lastAlong (r : Range) (axis : Axis) : Nat := (r.along axis).last axis.words

/-- **A cell to be copied:** where it is, what it holds, and over how many further places of its line
it extends. -/
structure FillItem where
  spot : Spot
  content : Content
  extra : Nat

namespace Sheet

/-- Over how many further places of its line a cell extends; nothing for a hidden cell. -/
def extra? (s : Sheet) (axis : Axis) (spot : Spot) : Option Nat :=
  match s.regionAt? spot with
  | none => some 0
  | some region => if region.first = spot then some ((region.along axis).count - 1) else none

/-- The place where the merged region of a spot starts, or the spot's own. -/
def startAlong (s : Sheet) (axis : Axis) (spot : Spot) : Nat :=
  match s.regionAt? spot with
  | none => spot.along axis
  | some region => (region.along axis).first

theorem startAlong_le (s : Sheet) (axis : Axis) (spot : Spot) :
    s.startAlong axis spot ≤ spot.along axis := by
  unfold startAlong
  split
  · exact Nat.le_refl _
  · rename_i region h
    have hcovers := covers_of_regionAt? h
    cases axis <;>
      simp_all [Range.covers, Span.covers, Range.along, Spot.along]

/-- **The cells of a line to be copied,** in order. -/
def fillItems (s : Sheet) (axis : Axis) (line first last : Nat) : List FillItem :=
  (List.range' first (last + 1 - first)).filterMap fun place =>
    let spot := axis.spot line place
    (s.extra? axis spot).map fun extra => ⟨spot, (s.cell spot).content, extra⟩

/-! ## 2. Walks -/

/-- The item that is taken in a step; the items are taken in turn. -/
def itemInTurn (items : List FillItem) (step : Nat) : Option FillItem :=
  items[step % items.length]?

/-- **The places where a walk away from the source lands,** from `place` on to `last`. -/
def walkForward (s : Sheet) (axis : Axis) (line : Nat) (items : List FillItem)
    (place last step : Nat) : List Nat :=
  if last < place then []
  else
    match s.extra? axis (axis.spot line place) with
    | none => s.walkForward axis line items (place + 1) last step
    | some extra =>
      let room := ((itemInTurn items step).elim 0 (·.extra))
      place :: s.walkForward axis line items (place + max room extra + 1) last (step + 1)
termination_by last + 1 - place

/-- Where a step towards the start of the target lands that has the room up to `place`. -/
def landing (s : Sheet) (axis : Axis) (line : Nat) (items : List FillItem)
    (first place step : Nat) : Nat :=
  let room := ((itemInTurn items step).elim 0 (·.extra))
  let extra := place - s.startAlong axis (axis.spot line place)
  let top := max (place - max room extra) first
  max (s.startAlong axis (axis.spot line top)) first

theorem landing_le (s : Sheet) (axis : Axis) (line : Nat) (items : List FillItem)
    {first place : Nat} (step : Nat) (h : first ≤ place) :
    s.landing axis line items first place step ≤ place := by
  have hstart (top : Nat) : s.startAlong axis (axis.spot line top) ≤ top := by
    have := s.startAlong_le axis (axis.spot line top)
    cases axis <;> simpa [Axis.spot, Spot.along] using this
  unfold landing
  simp only
  refine Nat.max_le.mpr ⟨Nat.le_trans (hstart _) (Nat.max_le.mpr ⟨by omega, h⟩), h⟩

/-- **The places where a walk back from the source lands,** from `place` to `first`. -/
def walkBackward (s : Sheet) (axis : Axis) (line : Nat) (items : List FillItem)
    (first place step : Nat) : List Nat :=
  if h : first ≤ place then
    let here := s.landing axis line items first place step
    if here = 0 then [here]
    else here :: s.walkBackward axis line items first (here - 1) (step + 1)
  else
    []
termination_by place
decreasing_by
  have := s.landing_le axis line items step h
  omega

/-! ## 3. Plans -/

/-- What a cell gets from an item: the formula moved there, a text that is no formula as it is, or the
value of the series at an index. -/
def fillEntry (item : FillItem) (series : Series) (index : Int) (spot : Spot) : Entry :=
  match item.content with
  | .formula text _ _ _ | .unparsed text =>
    match parse text with
    | .ok e =>
      .formula (e.moved ((spot.row : Int) - item.spot.row)
        ((spot.col : Int) - item.spot.col)).source
    | .error _ => .formula text
  | _ => .ofValue (series.value index)

/-- Writes what one line of the target gets into a block. -/
def planLine (s : Sheet) (axis : Axis) (source target : Range) (block : Block) (line : Nat) :
    Block :=
  let last := source.lastAlong axis
  let items := s.fillItems axis line (source.along axis).first last
  if items.isEmpty then block
  else
    let series := Series.detect (items.map (·.content.shown))
    let write (items : List FillItem) (index : Nat → Int) (block : Block) (landed : Nat × Nat) :
        Block :=
      let spot := axis.spot line landed.1
      match itemInTurn items landed.2 with
      | some item => block.set spot (fillEntry item series (index landed.2) spot)
      | none => block
    let first := (target.along axis).first
    if last < first then
      ((s.walkForward axis line items first (target.lastAlong axis) 0).zipIdx).foldl
        (write items fun k => items.length + k) block
    else
      let items := items.reverse
      ((s.walkBackward axis line items first (target.lastAlong axis) 0).zipIdx).foldl
        (write items fun k => -(k + 1)) block

end Sheet

namespace Workbook

/-- **The block that a fill writes.** -/
def planFill (wb : Workbook) (sheet : SheetId) (axis : Axis) (source target : Range) :
    Except Error Block := do
  let s ← wb.sheet sheet
  let block ← wb.capture sheet target
  let lines := source.along axis.across
  return (List.range' lines.first lines.count).foldl (s.planLine axis source target) block

/-! ## 4. Filling -/

/-- **The axis along which a target is filled from a source,** if it can be. -/
def fillAxis (wb : Workbook) (request : FillRequest) : Except Error Axis := do
  let ⟨sheet, source, target⟩ := request
  let s ← wb.sheet sheet
  s.checkRange source
  s.checkRange target
  if source.meets target then throw (.fillOntoItself source target)
  let axis ←
    if source.cols = target.cols then pure Axis.rows
    else if source.rows = target.rows then pure Axis.columns
    else throw (.fillAskew source target)
  match s.merged.find? fun region => region.meets target && !target.includes region with
  | some region => throw (.splitsMerged region target)
  | none => return axis

/-- **Continues a source range into a target range,** if whoever is asked before approves. -/
def fill (wb : Workbook) (approves : FillRequest → Bool) (request : FillRequest) : Reply Unit :=
  Reply.guard wb (wb.fillAxis request) fun axis =>
    if !approves request then
      ⟨.error (.fillRefused request.source request.target), wb, [.beforeFill request]⟩
    else
      let r : Reply Action :=
        Reply.guard wb (wb.planFill request.sheet axis request.source request.target) fun block =>
          wb.perform { sheet := request.sheet, block, kind := .fill }
      ⟨r.answer.map fun _ => (), r.workbook, .beforeFill request :: r.events⟩

end Workbook

end Spreadsheet
