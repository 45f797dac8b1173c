/-
# Blocks of cells

* A block is a range with an entry for each of its cells: nothing, a value, or a text meant as a
  formula.  It can be captured from a sheet and written back as one edit.
* Before anything is written, every entry is looked at; one that would be refused rejects the whole
  block.  A formula that reads its own cell is no reason to: its cell is left empty.
* An action is a block to be written that remembers, once it was applied, what was there before.
-/
import Spreadsheet.Workbook.Edit

namespace Spreadsheet

open Grid Formula Conditional

/-! ## 1. Entries -/

/-- **What a block has for a cell.** -/
inductive Entry where
  | empty
  | value (v : Value)
  | formula (text : String)
deriving DecidableEq, Repr

/-- The entry for a value; an empty one is no value. -/
def Entry.ofValue : Value → Entry
  | .empty => .empty
  | v => .value v

/-- **The entry that a cell is captured as:** its formula if it has one, else its value. -/
def Cell.entry (c : Cell) : Entry :=
  match c.content.formulaText? with
  | some text => .formula text
  | none => .ofValue c.value

/-! ## 2. Blocks -/

/-- **A block of entries,** row by row. -/
structure Block where
  range : Range
  entries : List Entry
deriving DecidableEq, Repr

namespace Block

/-- The block without values and formulas. -/
def blank (range : Range) : Block := ⟨range, List.replicate range.size .empty⟩

/-- The place of a spot in the list of entries. -/
def index? (b : Block) (spot : Spot) : Option Nat :=
  if b.range.covers spot then
    some ((spot.row - b.range.rows.first) * b.range.cols.count + (spot.col - b.range.cols.first))
  else
    none

/-- The entry for a spot of the range. -/
def get? (b : Block) (spot : Spot) : Option Entry := (b.index? spot).bind (b.entries[·]?)

/-- **Sets the entry for a spot.**  Spots outside the range are ignored. -/
def set (b : Block) (spot : Spot) (entry : Entry) : Block :=
  match b.index? spot with
  | some i => { b with entries := b.entries.set i entry }
  | none => b

/-- The entries with their spots, row by row. -/
def toList (b : Block) : List (Spot × Entry) := b.range.cells.zip b.entries

end Block

namespace Workbook

/-- **Captures a range of a sheet.** -/
def capture (wb : Workbook) (sheet : SheetId) (range : Range) : Except Error Block := do
  let s ← wb.sheet sheet
  s.checkRange range
  return ⟨range, range.cells.map fun spot => (s.cell spot).entry⟩

/-! ## 3. Writing -/

/-- What a cell is to hold for an entry, and whether it then has to be evaluated.  The fault is one
that rejects the block. -/
def contentOfEntry (wb : Workbook) (key : Key) : Entry → Except ReferenceFault Content
  | .empty => .ok (.value .empty)
  | .value v => .ok (.value v)
  | .formula text =>
    match wb.contentOf key text with
    | .ok content => .ok content
    | .error (.ownCell _ _) => .ok .discarded
    | .error fault => .error fault

/-- Writes what a cell is to hold. -/
def writeAny (wb : Workbook) (key : Key) : Content → Workbook
  | .value v => wb.writeValue key v
  | content => wb.writeContent key content

/-- **Writes a block as one edit.** -/
def writeBlock (wb : Workbook) (sheet : SheetId) (block : Block) (kind : ChangeKind) :
    Reply Unit :=
  Reply.guard wb (wb.sheet sheet) fun s =>
    Reply.guard wb (s.checkRange block.range) fun _ =>
      if block.entries.length ≠ block.range.size then
        .keep wb (.error (.blockCount block.range block.entries.length))
      else
        let keys := keysOf sheet block.range
        let planned := (keys.zip block.entries).mapM fun (key, entry) =>
          (wb.contentOfEntry key entry).map fun content => (key, content)
        Reply.guard wb (planned.mapError .reference) fun planned =>
          let wb := planned.foldl (fun wb kc => wb.writeAny kc.1 kc.2) wb
          let formulas := (planned.filter (·.2.expr?.isSome)).map (·.1)
          let (wb, events) := wb.recalculateEach formulas
          wb.complete keys [] (.changed sheet block.range kind) events (.ok ())

/-- **Copies the formula of a cell** to the other cells of a range. -/
def copyFormula (wb : Workbook) (home : Key) (target : Range) : Reply Unit :=
  Reply.guard wb (wb.sheet home.sheet) fun s =>
    Reply.guard wb (s.check target.last) fun _ =>
      match (s.cell home.spot).content.expr? with
      | none => .keep wb (.error (.nothingToCopy home.spot))
      | some e =>
        Reply.guard wb (wb.capture home.sheet target) fun block =>
          let entry (spot : Spot) : Entry :=
            .formula (e.moved ((spot.row : Int) - home.spot.row)
              ((spot.col : Int) - home.spot.col)).source
          let others := target.cells.filter (· != home.spot)
          let block := others.foldl (fun block spot => block.set spot (entry spot)) block
          wb.writeBlock home.sheet block .formula

end Workbook

/-! ## 4. Actions -/

/-- **A block that is written so that it can be taken back.** -/
structure Action where
  sheet : SheetId
  block : Block
  kind : ChangeKind
  previous : Option Block := none

namespace Action

/-- The name of an action. -/
def name (a : Action) : String :=
  match a.kind with
  | .fill => "Auto Fill"
  | .formula => "Set Formulas"
  | .data | .formulaRemoved => "Set Cells"

/-- **Writes the block** and remembers what was there.  Answers the action that can be taken
back. -/
def apply (a : Action) (wb : Workbook) : Reply Action :=
  Reply.guard wb (wb.capture a.sheet a.block.range) fun previous =>
    let r := wb.writeBlock a.sheet a.block a.kind
    { r with answer := r.answer.map fun _ => { a with previous := some previous } }

/-- **Writes back what was there.**  What was there is forgotten, whether or not it could be
written; an action without it does nothing. -/
def revert (a : Action) (wb : Workbook) : Reply Unit × Action :=
  match a.previous with
  | none => (.keep wb (.ok ()), a)
  | some previous => (wb.writeBlock a.sheet previous a.kind, { a with previous := none })

end Action

namespace Workbook

/-- **Carries an action out** and tells of it. -/
def perform (wb : Workbook) (a : Action) : Reply Action :=
  let r := a.apply wb
  match r.answer with
  | .ok a => { r with events := r.events ++ [.acted a.name] }
  | .error _ => r

end Workbook

end Spreadsheet
