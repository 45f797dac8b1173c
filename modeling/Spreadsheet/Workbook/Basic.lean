/-
# Workbooks

* A workbook is a row of sheets and its settings.  A sheet is identified by its place, and sheets
  are only ever added behind the others.
* Formulas read a workbook through what they can ask of it: the sheet of a name, the value of a
  cell, the range of a name.
* An operation answers or is rejected, leaves a workbook behind, and tells what happened.
-/
import Spreadsheet.Formula.Evaluation
import Spreadsheet.Workbook.Sheet

namespace Spreadsheet

open Grid Formula Conditional

/-! ## 1. The type -/

/-- **Settings of a workbook.** -/
structure Settings where
  /-- Rows of a new sheet. -/
  rows : Nat := 200
  /-- Columns of a new sheet. -/
  cols : Nat := 100
  /-- Whether edits recalculate what depends on them. -/
  autoRecalculate : Bool := true
  /-- Whether conditional formats are applied. -/
  formatsEnabled : Bool := true
  /-- Below which difference rules take numbers for equal. -/
  tolerance : Float := 0.00001

instance : Inhabited Settings := ⟨{}⟩

/-- **A workbook.**  The number of a sheet is its place in the list. -/
structure Workbook where
  sheets : List Sheet
  settings : Settings
  /-- Number of the next conditional format, on whatever sheet. -/
  nextFormat : Nat := 0

namespace Workbook

/-- The workbook with one empty sheet. -/
def new (settings : Settings) : Workbook where
  sheets := [.new "Sheet1" settings.rows settings.cols]
  settings := settings

instance : Inhabited Workbook := ⟨new {}⟩

/-! ## 2. Sheets -/

/-- The sheet of an identity. -/
def sheet? (wb : Workbook) (id : SheetId) : Option Sheet := wb.sheets[id.number]?

/-- The sheet of an identity, or the error that there is none. -/
def sheet (wb : Workbook) (id : SheetId) : Except Error Sheet :=
  match wb.sheet? id with
  | some s => .ok s
  | none => .error (.noSheet id)

/-- The sheets with their identities. -/
def numbered (wb : Workbook) : List (SheetId × Sheet) :=
  wb.sheets.zipIdx.map fun s => (⟨s.2⟩, s.1)

/-- **The sheet of a name,** whatever its case. -/
def sheetNamed? (wb : Workbook) (name : String) : Option SheetId :=
  (wb.sheets.findIdx? fun s => Text.small s.name == Text.small name).map .mk

/-- Changes one sheet. -/
def onSheet (wb : Workbook) (id : SheetId) (change : Sheet → Sheet) : Workbook :=
  { wb with sheets := wb.sheets.modify id.number change }

/-- Changes all sheets. -/
def onSheets (wb : Workbook) (change : SheetId → Sheet → Sheet) : Workbook :=
  { wb with sheets := wb.numbered.map fun s => change s.1 s.2 }

/-- The name of a sheet, for messages. -/
def sheetName (wb : Workbook) (id : SheetId) : String := (wb.sheet? id).elim "" (·.name)

theorem sheet?_onSheet (wb : Workbook) (id j : SheetId) (change : Sheet → Sheet) :
    (wb.onSheet id change).sheet? j =
      if id = j then (wb.sheet? j).map change else wb.sheet? j := by
  obtain ⟨i⟩ := id
  obtain ⟨j⟩ := j
  by_cases h : i = j <;> simp [sheet?, onSheet, h]

/-- **The numbered sheets are the sheets there are.** -/
theorem mem_numbered {wb : Workbook} {id : SheetId} {s : Sheet} :
    (id, s) ∈ wb.numbered ↔ wb.sheet? id = some s := by
  obtain ⟨i⟩ := id
  simp only [numbered, sheet?, List.mem_map, Prod.exists, Prod.mk.injEq, SheetId.mk.injEq]
  constructor
  · rintro ⟨s', i', hmem, rfl, rfl⟩
    exact List.mem_zipIdx_iff_getElem?.mp hmem
  · exact fun h => ⟨s, i, List.mem_zipIdx_iff_getElem?.mpr h, rfl, rfl⟩

/-- Changing one sheet leaves the others in their places. -/
theorem numbered_onSheet (wb : Workbook) (id : SheetId) (change : Sheet → Sheet) :
    (wb.onSheet id change).numbered =
      wb.numbered.map fun s => (s.1, if id = s.1 then change s.2 else s.2) := by
  obtain ⟨i⟩ := id
  refine List.ext_getElem? fun j => ?_
  by_cases h : i = j <;> simp [numbered, onSheet, h, Function.comp_def]

theorem sheet?_onSheets (wb : Workbook) (change : SheetId → Sheet → Sheet) (id : SheetId) :
    (wb.onSheets change).sheet? id = (wb.sheet? id).map (change id) := by
  obtain ⟨i⟩ := id
  simp [sheet?, onSheets, numbered, Function.comp_def]

/-! ## 3. Cells -/

/-- The cell at a place, if there is one. -/
def cell? (wb : Workbook) (key : Key) : Option Cell :=
  (wb.sheet? key.sheet).bind (·.cell? key.spot)

/-- The cell at a place, an empty one if there is none. -/
def cell (wb : Workbook) (key : Key) : Cell := (wb.cell? key).getD default

/-- What the cell at a place holds. -/
def content (wb : Workbook) (key : Key) : Content := (wb.cell key).content

/-- **The value at a place.** -/
def value (wb : Workbook) (key : Key) : Value := (wb.cell key).value

/-- The status at a place. -/
def status (wb : Workbook) (key : Key) : Status := (wb.cell key).content.status

/-- The style that is seen at a place. -/
def style (wb : Workbook) (key : Key) : Style := (wb.cell key).style

/-- The ranges that the formula at a place reads. -/
def precedents (wb : Workbook) (key : Key) : List Target :=
  (wb.cell key).content.edges.map (·.target)

/-- The range that a name stands for on a sheet. -/
def namedRange? (wb : Workbook) (id : SheetId) (name : String) : Option Range :=
  (wb.sheet? id).bind (·.names.range? name)

/-- Changes the content of a cell that is there. -/
def mapContent (wb : Workbook) (key : Key) (change : Content → Content) : Workbook :=
  wb.onSheet key.sheet (·.mapContent key.spot change)

theorem cell?_onSheet (wb : Workbook) (id : SheetId) (change : Sheet → Sheet) (key : Key) :
    (wb.onSheet id change).cell? key =
      if id = key.sheet then (wb.sheet? key.sheet).bind fun s => (change s).cell? key.spot
      else wb.cell? key := by
  unfold cell?
  rw [sheet?_onSheet]
  split
  · rw [Option.bind_map]; rfl
  · rfl

/-- **What leaves the other spots of a sheet alone leaves the other places alone.** -/
theorem cell?_onSheet_of_ne (wb : Workbook) {key j : Key} {change : Sheet → Sheet}
    (hchange : ∀ s spot, key.spot ≠ spot → (change s).cell? spot = s.cell? spot) (h : key ≠ j) :
    (wb.onSheet key.sheet change).cell? j = wb.cell? j := by
  obtain ⟨id, spot⟩ := key
  obtain ⟨jd, jspot⟩ := j
  rw [cell?_onSheet]
  by_cases hid : id = jd
  · subst hid
    have hspot : spot ≠ jspot := fun hspot => h (by rw [hspot])
    rw [if_pos rfl, cell?]
    exact congrArg _ (funext fun s => hchange s jspot hspot)
  · rw [if_neg hid]

/-- **Changing the content of a cell leaves the others alone.** -/
theorem cell?_mapContent (wb : Workbook) (key j : Key) (change : Content → Content) :
    (wb.mapContent key change).cell? j =
      if key = j then (wb.cell? j).map fun c => { c with content := change c.content }
      else wb.cell? j := by
  obtain ⟨id, spot⟩ := key
  obtain ⟨jd, jspot⟩ := j
  rw [mapContent, cell?_onSheet]
  by_cases hid : id = jd
  · subst hid
    simp only [cell?, Sheet.cell?_mapContent, Key.mk.injEq, true_and, if_true]
    cases wb.sheet? id <;> simp
  · simp [hid]

/-- The places of all cells with a formula, be it one or not, in order. -/
def formulaKeys (wb : Workbook) : List Key :=
  wb.numbered.flatMap fun (id, s) =>
    (s.cells.entries.filter (·.2.content.formulaText?.isSome)).map fun e => ⟨id, e.1⟩

/-- **What is not true of nothing is true of the content of a cell that is there.** -/
theorem content_iff {P : Content → Prop} (hempty : ¬ P (.value .empty)) {wb : Workbook}
    {key : Key} : P (wb.content key) ↔ ∃ s c, wb.sheet? key.sheet = some s ∧
      s.cell? key.spot = some c ∧ P c.content := by
  constructor
  · intro h
    cases hc : wb.cell? key with
    | none =>
      rw [content, cell, hc] at h
      exact absurd h hempty
    | some c =>
      rw [content, cell, hc] at h
      obtain ⟨s, hs, hsc⟩ := Option.bind_eq_some_iff.mp hc
      exact ⟨s, c, hs, hsc, h⟩
  · rintro ⟨s, c, hs, hc, h⟩
    simpa only [content, cell, cell?, hs, Option.bind_some, hc, Option.getD_some] using h

/-- **The listed places are those of the cells with a formula.** -/
theorem mem_formulaKeys {wb : Workbook} {key : Key} :
    key ∈ wb.formulaKeys ↔ (wb.content key).formulaText?.isSome = true := by
  obtain ⟨id, spot⟩ := key
  rw [content_iff (P := (·.formulaText?.isSome = true)) nofun]
  simp only [formulaKeys, List.mem_flatMap, List.mem_map, List.mem_filter, Prod.exists,
    mem_numbered, Key.mk.injEq, Sheet.cell?, Table.get?_eq_some_iff]
  constructor
  · rintro ⟨id', s, hs, spot', c, ⟨hmem, htext⟩, rfl, rfl⟩
    exact ⟨s, c, hs, hmem, htext⟩
  · rintro ⟨s, c, hs, hmem, htext⟩
    exact ⟨id, s, hs, spot, c, ⟨hmem, htext⟩, rfl, rfl⟩

/-- **What formulas read of a workbook.** -/
def source (wb : Workbook) : Source where
  sheet? := wb.sheetNamed?
  value := wb.value
  name? := wb.namedRange?

/-- **The outcome of a formula in a cell.** -/
def evaluate (wb : Workbook) (home : Key) (e : Expr) : Outcome :=
  Formula.evaluate ⟨wb.source, home⟩ e

end Workbook

/-! ## 4. Replies -/

/-- Kinds of change that are announced. -/
inductive ChangeKind where
  | data
  | formula
  | formulaRemoved
  | fill
deriving DecidableEq, Repr

/-- A fill that was asked for. -/
structure FillRequest where
  sheet : SheetId
  source : Range
  target : Range
deriving DecidableEq, Repr

/-- **What happened,** in the order in which it is told. -/
inductive Event where
  | changed (sheet : SheetId) (range : Range) (kind : ChangeKind)
  | beforeFill (request : FillRequest)
  | acted (name : String)
  | failed (cell : Key) (fault : Fault)

/-- **What an operation comes to.** -/
structure Reply (α : Type) where
  answer : Except Error α
  workbook : Workbook
  events : List Event := []

namespace Reply

/-- The reply of an operation that did nothing but answer. -/
def keep {α : Type} (wb : Workbook) (answer : Except Error α) : Reply α := ⟨answer, wb, []⟩

/-- Goes on if a check passed, and leaves the workbook alone if not. -/
def guard {α β : Type} (wb : Workbook) (check : Except Error β) (go : β → Reply α) : Reply α :=
  match check with
  | .ok b => go b
  | .error e => keep wb (.error e)

@[simp] theorem guard_ok {α β : Type} (wb : Workbook) (b : β) (go : β → Reply α) :
    guard wb (.ok b) go = go b := rfl

@[simp] theorem guard_error {α β : Type} (wb : Workbook) (e : Error) (go : β → Reply α) :
    guard wb (.error e) go = keep wb (.error e) := rfl

end Reply

end Spreadsheet
