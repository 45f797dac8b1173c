/-
# Conditional formats at work

* Applying a format gives every cell of its range a style anew: the cell's own style under the
  changes of those rules that hold there, or no imposed style if none holds.  Whether a rule holds
  is asked before any cell is touched.
* The sheet notes where a style was imposed, and undoing what formats did visits those places only.
* A format has to be applied again when a cell changes that one of its rules may read for some cell
  of the range.  Those cells are found by spreading what a rule reads for the first cell over the
  range, along the axes on which it moves.
* Formats change styles and nothing else.
-/
import Spreadsheet.Workbook.Recalculation

namespace Spreadsheet

open Grid Formula Conditional

/-! ## 1. Rules -/

namespace Workbook

/-- The value of a formula of a rule for a cell that stands `rows` and `columns` away from the
first cell of the range. -/
def ruleValue? (wb : Workbook) (home : Key) (rows columns : Nat) (f : RuleFormula) :
    Option Operand :=
  f.parsed.bind fun e => (wb.evaluate home (e.moved rows columns)).toOption

/-- The number that a value is; text that looks like one is none. -/
def asNumber? : Option Operand → Option Float
  | some (.number x) => some x
  | _ => none

/-- **Whether a condition holds for a cell.** -/
def conditionHolds (wb : Workbook) (home : Key) (rows columns : Nat) : Condition → Bool
  | .expression f =>
    match wb.ruleValue? home rows columns f with
    | some (.bool b) => b
    | _ => false
  | .comparison how first second =>
    let number (f : RuleFormula) : Option Float := asNumber? (wb.ruleValue? home rows columns f)
    match (wb.value home).number?, number first with
    | some x, some y => how.holds wb.settings.tolerance x y (second.bind number)
    | _, _ => false

/-- The changes that the rules of a format make to a cell of its range, the last one winning. -/
def changesAt (wb : Workbook) (sheet : SheetId) (format : Format) (spot : Spot) :
    List StyleChange :=
  ((applicationOrder format.rules).filter fun rule =>
    wb.conditionHolds ⟨sheet, spot⟩ (spot.row - format.range.rows.first)
      (spot.col - format.range.cols.first) rule.1.condition).map (·.1.change)

/-! ## 2. Applying formats -/

/-- A cell on which a rule imposes a change of what is seen, a new one if there is none. -/
def imposedOn (c : Option Cell) (change : StyleChange) : Option Cell :=
  let c := c.getD default
  some (c.impose (c.style.apply change))

/-- A cell after a format made changes to it, one rule after the other; a cell without changes is
not brought into being. -/
def restyled (c : Option Cell) (changes : List StyleChange) : Option Cell :=
  changes.foldl imposedOn (c.map Cell.restore)

/-- The sheet after a format made changes to cells.  Those on which it imposed something are noted. -/
def restyleSheet (s : Sheet) (changes : List (Spot × List StyleChange)) : Sheet :=
  { s with
    cells := changes.foldl (fun cells c => cells.set c.1 (restyled (cells.get? c.1) c.2)) s.cells
    touched := changes.foldl (fun touched c =>
      if c.2.isEmpty then touched else touched.insert c.1) s.touched }

/-- **Applies a format** to the cells of its range. -/
def applyFormat (wb : Workbook) (sheet : SheetId) (format : Format) : Workbook :=
  let changes := format.range.cells.map fun spot => (spot, wb.changesAt sheet format spot)
  wb.onSheet sheet (restyleSheet · changes)

/-- The formats of a sheet with their numbers. -/
def formats (wb : Workbook) (sheet : SheetId) : List (Nat × Format) :=
  (wb.sheet? sheet).elim [] (·.formats.entries)

/-- Applies formats one after the other, if they are enabled. -/
def applyFormats (wb : Workbook) (formats : List (SheetId × Format)) : Workbook :=
  if wb.settings.formatsEnabled then formats.foldl (fun wb f => wb.applyFormat f.1 f.2) wb else wb

/-- All formats in order. -/
def allFormats (wb : Workbook) : List (SheetId × Format) :=
  wb.numbered.flatMap fun (id, s) => s.formats.entries.map fun e => (id, e.2)

/-- **Applies the formats again that cells trigger.** -/
def refreshFormats (wb : Workbook) (changed : List Key) : Workbook :=
  wb.applyFormats (wb.allFormats.filter (·.2.isTriggeredBy changed))

/-- **Recalculates everything,** the conditional formats last. -/
def calculate (wb : Workbook) : Reply Tally :=
  let r := wb.evaluateFormulas
  { r with workbook := r.workbook.applyFormats r.workbook.allFormats }

/-! ## 3. Triggers -/

/-- **What a rule may read over a whole range,** given what it reads for the first cell. -/
def spread (edge : Edge) (range : Range) : Range :=
  let extra (fixed : Bool) (s : Span) : Int := if fixed then 0 else (s.count : Int) - 1
  let read := edge.target.range
  .signed read.rows.first read.cols.first
    (read.rows.count + extra edge.origin.row.fixed range.rows)
    (read.cols.count + extra edge.origin.col.fixed range.cols)

/-- What the rules of a format read for the first cell.  What a formula reads that could not stand
there is not known. -/
def ruleEdges (wb : Workbook) (sheet : SheetId) (range : Range) (rules : List Rule) : List Edge :=
  rules.flatMap fun rule =>
    (rule.condition.formulas.filterMap (·.parsed)).flatMap fun e =>
      ((wb.edges ⟨sheet, range.first⟩ rule.condition.checksSelf e).toOption).getD []

/-- Adds a trigger unless an earlier one covers it. -/
def addTrigger (triggers : List Target) (t : Target) : List Target :=
  if triggers.any (·.includes t) then triggers else triggers ++ [t]

/-- **The triggers of a format:** its own range, and what its rules may read. -/
def triggers (wb : Workbook) (sheet : SheetId) (range : Range) (rules : List Rule) :
    List Target :=
  (wb.ruleEdges sheet range rules).foldl (fun triggers edge =>
    match wb.sheet? edge.target.sheet with
    | none => triggers
    | some s => addTrigger triggers ⟨edge.target.sheet, (spread edge range).cut s.rows s.cols⟩)
    [⟨sheet, range⟩]

/-- The format with the triggers that it has now. -/
def retrigger (wb : Workbook) (sheet : SheetId) (format : Format) : Format :=
  { format with triggers := wb.triggers sheet format.range format.rules }

/-! ## 4. Adding and removing -/

/-- Adds a format to a sheet of given extents, under the next number. -/
def addFormat (sheet : SheetId) (s : Sheet) (added : Workbook × List Nat)
    (definition : Range × List Rule) : Workbook × List Nat :=
  let (wb, ids) := added
  let id := wb.nextFormat
  let format := wb.retrigger sheet ⟨definition.1.cut s.rows s.cols, definition.2, []⟩
  let wb := wb.onSheet sheet fun s => { s with formats := s.formats.put id format }
  ({ wb with nextFormat := id + 1 }, ids ++ [id])

/-- **Adds formats,** cut to the sheet, and applies them. -/
def addFormats (wb : Workbook) (sheet : SheetId) (definitions : List (Range × List Rule)) :
    Reply (List Nat) :=
  Reply.guard wb (wb.sheet sheet) fun s =>
    let (wb, ids) := definitions.foldl (addFormat sheet s) (wb, [])
    let added := (wb.formats sheet).filter fun f => ids.contains f.1
    ⟨.ok ids, wb.applyFormats (added.map fun f => (sheet, f.2)), []⟩

/-- **Removes a format** and what it imposed, and applies the formats again that share cells with
it.  Answers whether there was one. -/
def removeFormat (wb : Workbook) (sheet : SheetId) (id : Nat) : Reply Bool :=
  Reply.guard wb (wb.sheet sheet) fun s =>
    match s.formats.get? id with
    | none => .keep wb (.ok false)
    | some format =>
      let wb := wb.onSheet sheet fun s =>
        { s with
          formats := s.formats.erase id
          cells := s.cells.map fun spot c => if format.range.covers spot then c.restore else c }
      let sharing := (wb.formats sheet).filter fun f => f.2.range.meets format.range
      ⟨.ok true, wb.applyFormats (sharing.map fun f => (sheet, f.2)), []⟩

/-- **Applies one format again.**  While formats are disabled nothing is asked of it. -/
def reapplyFormat (wb : Workbook) (sheet : SheetId) (id : Nat) : Reply Unit :=
  if !wb.settings.formatsEnabled then .keep wb (.ok ())
  else
    Reply.guard wb (wb.sheet sheet) fun s =>
      match s.formats.get? id with
      | none => .keep wb (.error (.noFormat id sheet))
      | some format => ⟨.ok (), wb.applyFormats [(sheet, format)], []⟩

/-- **Applies all formats of a sheet again.** -/
def reapplyFormats (wb : Workbook) (sheet : SheetId) : Reply Unit :=
  Reply.guard wb (wb.sheet sheet) fun s =>
    ⟨.ok (), wb.applyFormats (s.formats.entries.map fun f => (sheet, f.2)), []⟩

/-! ## 5. Styles of cells -/

/-- The sheet without what formats did to its cells: the places that are noted are gone through, and
none is noted any more. -/
def resetTouched (s : Sheet) : Sheet :=
  { s with
    cells := s.touched.foldl (fun cells spot =>
      cells.set spot ((cells.get? spot).bind Cell.reset?)) s.cells
    touched := [] }

/-- **The cells at noted places are reset,** and dropped if that leaves them blank. -/
theorem cell?_resetTouched (s : Sheet) (spot : Spot) :
    (resetTouched s).cell? spot =
      if spot ∈ s.touched then (s.cell? spot).bind Cell.reset? else s.cell? spot := by
  have hcells (touched : List Spot) (cells : Table Spot Cell) :
      (touched.foldl (fun cells spot => cells.set spot ((cells.get? spot).bind Cell.reset?))
        cells).get? spot =
          if spot ∈ touched then (cells.get? spot).bind Cell.reset? else cells.get? spot := by
    induction touched generalizing cells with
    | nil => rfl
    | cons place touched ih =>
      rw [List.foldl_cons, ih, Table.get?_set]
      by_cases hplace : place = spot
      · subst hplace
        simp [Cell.bind_reset?_bind_reset?]
      · simp [hplace, Ne.symm hplace]
  exact hcells s.touched s.cells

/-- **Undoes what formats did to the cells of a sheet.** -/
def resetFormatting (wb : Workbook) (sheet : SheetId) : Reply Unit :=
  Reply.guard wb (wb.sheet sheet) fun _ => ⟨.ok (), wb.onSheet sheet resetTouched, []⟩

/-- **Gives a cell a style of its own.** -/
def setStyle (wb : Workbook) (key : Key) (style : Style) : Reply Unit :=
  Reply.guard wb (wb.sheet key.sheet) fun s =>
    Reply.guard wb (s.check key.spot) fun _ =>
      let wb := wb.onSheet key.sheet fun s =>
        s.settle key.spot ((s.cell key.spot).choose style)
      ⟨.ok (), wb.refreshFormats [key], []⟩

end Workbook

end Spreadsheet
