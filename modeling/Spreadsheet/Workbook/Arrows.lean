/-
# Drawing arrows

Arrows show what a formula reads, or which formulas read a cell.  They are drawn as things stand and
do not follow later changes; writing a formula, or over one, takes the arrows of its cell away.
-/
import Spreadsheet.Workbook.Edges

namespace Spreadsheet

open Grid Formula

/-- The two kinds of arrow. -/
inductive ArrowKind where
  | precedents
  | dependents
deriving DecidableEq, Repr

namespace Workbook

/-- Changes the arrows of a sheet. -/
def onArrows (wb : Workbook) (id : SheetId) (change : Arrows → Arrows) : Workbook :=
  wb.onSheet id fun s => { s with arrows := change s.arrows }

/-- **Draws the arrows of a cell.**  Answers whether there is anything to point at; if there is not,
older arrows stay. -/
def drawArrows (wb : Workbook) (kind : ArrowKind) (key : Key) : Reply Bool :=
  Reply.guard wb (wb.sheet key.sheet) fun s =>
    Reply.guard wb (s.check key.spot) fun _ =>
      match kind with
      | .precedents =>
        match wb.precedents key with
        | [] => .keep wb (.ok false)
        | targets => ⟨.ok true, wb.onArrows key.sheet fun a =>
            { a with precedents := a.precedents.put key.spot targets }, []⟩
      | .dependents =>
        match wb.dependents key with
        | [] => .keep wb (.ok false)
        | readers => ⟨.ok true, wb.onArrows key.sheet fun a =>
            { a with dependents := a.dependents.put key.spot readers }, []⟩

/-- **Takes the arrows of a cell away.**  Answers whether there were any. -/
def eraseArrows (wb : Workbook) (kind : ArrowKind) (key : Key) : Reply Bool :=
  Reply.guard wb (wb.sheet key.sheet) fun s =>
    match kind with
    | .precedents =>
      ⟨.ok (s.arrows.precedents.contains key.spot), wb.onArrows key.sheet fun a =>
        { a with precedents := a.precedents.erase key.spot }, []⟩
    | .dependents =>
      ⟨.ok (s.arrows.dependents.contains key.spot), wb.onArrows key.sheet fun a =>
        { a with dependents := a.dependents.erase key.spot }, []⟩

/-- **Takes all arrows of a sheet away.** -/
def eraseAllArrows (wb : Workbook) (id : SheetId) : Reply Unit :=
  Reply.guard wb (wb.sheet id) fun _ => ⟨.ok (), wb.onArrows id fun _ => .empty, []⟩

end Workbook

end Spreadsheet
