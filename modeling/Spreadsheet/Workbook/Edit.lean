/-
# Editing cells

* An edit first writes, then lets the change spread, then applies the formats again that the written
  and the evaluated cells trigger, and at last tells of the change.
* A text meant as a formula becomes one if it can be read and may stand in its cell.  One that
  cannot be read is kept as a text.  One that refers beyond the edge of a sheet is refused.  One
  that reads its own cell is refused, too, and leaves the cell empty.
-/
import Spreadsheet.Workbook.Formats

namespace Spreadsheet

open Grid Formula Conditional

namespace Workbook

/-! ## 1. After writing -/

/-- **Completes an edit.**  With automatic recalculation the change spreads; cells on the stack have
been evaluated already. -/
def complete {α : Type} (wb : Workbook) (changed : List Key) (stack : List (List Key))
    (event : Event) (earlier : List Event) (answer : Except Error α) : Reply α :=
  let visited := if wb.settings.autoRecalculate then wb.graph.visits stack changed else []
  let (wb, events) := wb.recalculateEach visited
  ⟨answer, wb.refreshFormats (changed ++ visited), earlier ++ events ++ [event]⟩

/-! ## 2. Values -/

/-- Writes a value. -/
def writeValue (wb : Workbook) (key : Key) (v : Value) : Workbook :=
  wb.onSheet key.sheet (·.writeValue key.spot v)

/-- **Writing a value leaves the other cells alone.** -/
theorem cell?_writeValue_of_ne (wb : Workbook) {key j : Key} (v : Value) (h : key ≠ j) :
    (wb.writeValue key v).cell? j = wb.cell? j :=
  wb.cell?_onSheet_of_ne
    (fun s spot hspot => by rw [Sheet.cell?_writeValue, if_neg hspot]) h

/-- **Sets the value of a cell.** -/
def setValue (wb : Workbook) (key : Key) (v : Value) : Reply Unit :=
  Reply.guard wb (wb.sheet key.sheet) fun s =>
    Reply.guard wb (s.check key.spot) fun _ =>
      (wb.writeValue key v).complete [key] []
        (.changed key.sheet (.single key.spot) .data) [] (.ok ())

/-- The places of a range in order. -/
def keysOf (sheet : SheetId) (range : Range) : List Key := range.cells.map fun spot => ⟨sheet, spot⟩

/-- **Sets the values of a range,** row by row. -/
def setValues (wb : Workbook) (sheet : SheetId) (range : Range) (values : List Value) :
    Reply Unit :=
  Reply.guard wb (wb.sheet sheet) fun s =>
    Reply.guard wb (s.checkRange range) fun _ =>
      if values.length ≠ range.size then .keep wb (.error (.valueCount range values.length))
      else
        let keys := keysOf sheet range
        let wb := (keys.zip values).foldl (fun wb kv => wb.writeValue kv.1 kv.2) wb
        wb.complete keys [] (.changed sheet range .data) [] (.ok ())

/-! ## 3. Formulas -/

/-- A text meant as a formula as it is kept: without blanks around it, and with the equals sign. -/
def formulaText (text : String) : String :=
  match Text.trimChars text.toList with
  | '=' :: rest => String.ofList ('=' :: rest)
  | cs => String.ofList ('=' :: cs)

/-- **What a cell holds after a text was written into it that is meant as a formula.**  Until it is
evaluated, a formula has the value that the cell had before. -/
def contentOf (wb : Workbook) (key : Key) (text : String) : Except ReferenceFault Content :=
  let text := formulaText text
  match parse text with
  | .error _ => .ok (.unparsed text)
  | .ok e => (wb.edges key true e).map fun edges => .formula text e edges (.value (wb.value key))

/-- Writes what a text became that was meant as a formula. -/
def writeContent (wb : Workbook) (key : Key) (content : Content) : Workbook :=
  wb.onSheet key.sheet (·.writeContent key.spot content)

theorem cell?_writeContent_of_ne (wb : Workbook) {key j : Key} (content : Content) (h : key ≠ j) :
    (wb.writeContent key content).cell? j = wb.cell? j :=
  wb.cell?_onSheet_of_ne
    (fun s spot hspot => by rw [Sheet.cell?_writeContent, if_neg hspot]) h

/-- **Sets the formula of a cell** and answers its status. -/
def setFormula (wb : Workbook) (key : Key) (text : String) : Reply Status :=
  Reply.guard wb (wb.sheet key.sheet) fun s =>
    Reply.guard wb (s.check key.spot) fun _ =>
      let event := .changed key.sheet (.single key.spot) .formula
      match wb.contentOf key text with
      | .ok content =>
        let (wb, events) := (wb.writeContent key content).recalculate key
        let r := wb.complete [key] [[key]] event events (.ok ())
        { r with answer := .ok (r.workbook.status key) }
      | .error (.ownCell sheet spot) =>
        (wb.writeContent key .discarded).complete [key] [[key]] event []
          (.error (.reference (.ownCell sheet spot)))
      | .error fault => .keep wb (.error (.reference fault))

/-- **Deletes the formula of a cell** and its value.  A cell that holds a value that was written
stays as it is, and nothing is told. -/
def deleteFormula (wb : Workbook) (key : Key) : Reply Unit :=
  Reply.guard wb (wb.sheet key.sheet) fun s =>
    Reply.guard wb (s.check key.spot) fun _ =>
      if (s.cell key.spot).content.isPlain then .keep wb (.ok ())
      else
        (wb.writeValue key .empty).complete [key] []
          (.changed key.sheet (.single key.spot) .formulaRemoved) [] (.ok ())

/-- **Evaluates one cell** and answers its status. -/
def recalculateCell (wb : Workbook) (key : Key) : Reply Status :=
  Reply.guard wb (wb.sheet key.sheet) fun s =>
    Reply.guard wb (s.check key.spot) fun _ =>
      let (wb, events) := wb.recalculate key
      ⟨.ok (wb.status key), wb, events⟩

end Workbook

end Spreadsheet
