/-
# Sheets of a workbook

* Sheets can be added and emptied, ranges of them can be named, and cells can be merged.
* Whatever changes what formulas refer to - the sheets there are, their extents, the names - has all
  edges found again.  A new name or an emptied sheet also has everything recalculated; a new sheet
  has not.
-/
import Spreadsheet.Workbook.Rebuild

namespace Spreadsheet

open Grid Formula Conditional

namespace Workbook

/-! ## 1. Adding sheets -/

/-- **Accepts the names that a new sheet can have.** -/
def checkSheetName (wb : Workbook) (name : String) : Except SheetNameFault Unit :=
  if name.isEmpty then .error .empty
  else if maxSheetName < name.length then .error .tooLong
  else
    match forbiddenInSheetName.find? (name.toList.contains ·) with
    | some c => .error (.forbidden c)
    | none => if (wb.sheetNamed? name).isSome then .error (.taken name) else .ok ()

/-- **Adds a sheet of given extents.**  Formulas that named it before now find it. -/
def addSheetSized (wb : Workbook) (name : String) (rows cols : Nat) : Reply SheetId :=
  Reply.guard wb ((wb.checkSheetName name).mapError .sheetName) fun _ =>
    let wb' := { wb with sheets := wb.sheets ++ [Sheet.new name rows cols] }
    ⟨.ok ⟨wb.sheets.length⟩, wb'.rebuild, []⟩

/-- **Adds a sheet** of the extents that the settings name. -/
def addSheet (wb : Workbook) (name : String) : Reply SheetId :=
  wb.addSheetSized name wb.settings.rows wb.settings.cols

/-- **Empties a sheet** and gives it other extents. -/
def resetSheet (wb : Workbook) (id : SheetId) (rows cols : Nat) : Reply Unit :=
  Reply.guard wb (wb.sheet id) fun _ =>
    (wb.onSheet id fun s => .new s.name rows cols).refresh ()

/-! ## 2. Names -/

/-- **Gives a name to a range of a sheet.** -/
def defineName (wb : Workbook) (id : SheetId) (name : String) (range : Range) : Reply Unit :=
  Reply.guard wb (wb.sheet id) fun s =>
    if !s.holds range then .keep wb (.error (.rangeBeyond range))
    else
      Reply.guard wb ((s.names.define name range).mapError .name) fun names =>
        (wb.onSheet id fun s => { s with names }).refresh ()

/-- **Takes a name back.**  Answers whether it was given. -/
def removeName (wb : Workbook) (id : SheetId) (name : String) : Reply Bool :=
  Reply.guard wb (wb.sheet id) fun s =>
    if s.names.contains name then
      (wb.onSheet id fun s => { s with names := s.names.remove name }).refresh true
    else
      .keep wb (.ok false)

/-! ## 3. Merged regions -/

/-- **Merges the cells of a range.** -/
def merge (wb : Workbook) (id : SheetId) (range : Range) : Reply Unit :=
  Reply.guard wb (wb.sheet id) fun s =>
    Reply.guard wb (s.merge range) fun s => ⟨.ok (), wb.onSheet id fun _ => s, []⟩

/-- **Splits a merged region.**  Answers whether there was one. -/
def unmerge (wb : Workbook) (id : SheetId) (range : Range) : Reply Bool :=
  Reply.guard wb (wb.sheet id) fun s =>
    ⟨.ok (s.merged.contains range), wb.onSheet id (·.unmerge range), []⟩

/-- The merged region that a cell belongs to. -/
def mergedAt? (wb : Workbook) (key : Key) : Option Range :=
  (wb.sheet? key.sheet).bind (·.regionAt? key.spot)

end Workbook

end Spreadsheet
