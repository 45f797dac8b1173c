/-
# Finding all edges again

* What a formula reads depends on the sheets there are, on their extents and on the names that are
  given.  When one of these changes, all edges and all triggers are found again.
* A formula that now reads its own cell is given up, and one that now refers beyond the edge of a
  sheet has no edges.
-/
import Spreadsheet.Workbook.Edit

namespace Spreadsheet

open Grid Formula Conditional

namespace Workbook

/-- **What a cell holds after its edges were found again.** -/
def rebuiltContent (wb : Workbook) (key : Key) (content : Content) : Content :=
  match content.expr? with
  | none => content
  | some e =>
    match wb.edges key true e with
    | .ok edges => content.withEdges edges
    | .error (.ownCell _ _) => .discarded
    | .error (.beyondSheet _ _) => content.withEdges []

/-- Whether finding the edges again gives the formula of a cell up. -/
def isGivenUp (wb : Workbook) (key : Key) (content : Content) : Bool :=
  content.expr?.any fun e =>
    match wb.edges key true e with
    | .error (.ownCell _ _) => true
    | _ => false

/-- A sheet after its edges were found again; a cell whose formula is given up loses its arrows. -/
def rebuiltSheet (wb : Workbook) (id : SheetId) (s : Sheet) : Sheet :=
  let givenUp := (s.cells.entries.filter fun e => wb.isGivenUp ⟨id, e.1⟩ e.2.content).map (·.1)
  { s with
    cells := s.cells.map fun spot c => { c with content := wb.rebuiltContent ⟨id, spot⟩ c.content }
    formats := s.formats.map fun _ format => wb.retrigger id format
    arrows := givenUp.foldl Arrows.drop s.arrows }

/-- **Finds all edges and triggers again.** -/
def rebuild (wb : Workbook) : Workbook := wb.onSheets wb.rebuiltSheet

/-- Finds all edges again and recalculates everything. -/
def refresh {α : Type} (wb : Workbook) (answer : α) : Reply α :=
  let r := wb.rebuild.calculate
  ⟨.ok answer, r.workbook, r.events⟩

end Workbook

end Spreadsheet
