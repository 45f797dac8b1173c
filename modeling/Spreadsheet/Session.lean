/-
# Sessions

* A session is a workbook under a run of commands.  It keeps the actions that were carried out, so
  that they can be taken back, and whether fills are approved.
* Every way of changing a workbook is a command, so what holds of the first workbook and is kept by
  every command holds of every workbook there can be.
-/
import Spreadsheet.Workbook.Arrows
import Spreadsheet.Workbook.Fill
import Spreadsheet.Workbook.Removal
import Spreadsheet.Workbook.Sheets

namespace Spreadsheet

open Grid Formula Conditional

/-! ## 1. Commands and answers -/

/-- **What can be asked of a session.** -/
inductive Command where
  | setValue (key : Key) (v : Value)
  | setValues (sheet : SheetId) (range : Range) (values : List Value)
  | setFormula (key : Key) (text : String)
  | deleteFormula (key : Key)
  | copyFormula (home : Key) (target : Range)
  | setStyle (key : Key) (style : Style)
  | fill (request : FillRequest)
  | approveFills (approve : Bool)
  | perform (sheet : SheetId) (block : Block) (kind : ChangeKind)
  | revert (action : Nat)
  | apply (action : Nat)
  | recalculate (key : Key)
  | calculate
  | propagate (changed : List Key)
  | rebuild
  | changeSettings (settings : Settings)
  | addSheet (name : String)
  | addSheetSized (name : String) (rows cols : Nat)
  | deleteLines (sheet : SheetId) (axis : Axis) (first count : Nat)
  | resetSheet (sheet : SheetId) (rows cols : Nat)
  | defineName (sheet : SheetId) (name : String) (range : Range)
  | removeName (sheet : SheetId) (name : String)
  | merge (sheet : SheetId) (range : Range)
  | unmerge (sheet : SheetId) (range : Range)
  | addFormats (sheet : SheetId) (definitions : List (Range × List Rule))
  | removeFormat (sheet : SheetId) (format : Nat)
  | reapplyFormat (sheet : SheetId) (format : Nat)
  | reapplyFormats (sheet : SheetId)
  | resetFormatting (sheet : SheetId)
  | drawArrows (kind : ArrowKind) (key : Key)
  | eraseArrows (kind : ArrowKind) (key : Key)
  | eraseAllArrows (sheet : SheetId)

/-- **What a command answers.** -/
inductive Answer where
  | done
  | flag (b : Bool)
  | status (s : Status)
  | tally (t : Workbook.Tally)
  | cells (keys : List Key)
  | sheet (id : SheetId)
  | formats (ids : List Nat)
  | kept (action : Nat)
  | acted (name : String)

/-! ## 2. Sessions -/

/-- **A workbook under a run of commands.** -/
structure Session where
  workbook : Workbook
  /-- Whether fills are approved. -/
  approves : Bool := true
  /-- The actions that were carried out, by their numbers. -/
  actions : List Action := []

/-- What a command comes to. -/
structure Turn where
  session : Session
  answer : Except Error Answer
  events : List Event

namespace Session

/-- The session that starts with a new workbook. -/
def start (settings : Settings) : Session := { workbook := .new settings }

instance : Inhabited Session := ⟨start {}⟩

/-- The turn of an operation on the workbook. -/
def turn {α : Type} (s : Session) (r : Reply α) (answer : α → Answer) : Turn :=
  ⟨{ s with workbook := r.workbook }, r.answer.map answer, r.events⟩

/-- The turn of an operation that has nothing to answer. -/
def turnDone (s : Session) (r : Reply Unit) : Turn := s.turn r fun _ => .done

/-- The turn of a command that cannot be rejected. -/
def turnTo (s : Session) : Turn := ⟨s, .ok .done, []⟩

/-- Carries an action out and keeps it. -/
def perform (s : Session) (a : Action) : Turn :=
  let r := s.workbook.perform a
  let kept := r.answer.toOption.toList
  let t := s.turn r fun _ => .kept s.actions.length
  { t with session := { t.session with actions := s.actions ++ kept } }

/-- Takes a kept action back. -/
def revert (s : Session) (number : Nat) : Turn :=
  match s.actions[number]? with
  | none => s.turnTo
  | some a =>
    let (r, a) := a.revert s.workbook
    let t := s.turn r fun _ => .acted a.name
    { t with session := { t.session with actions := s.actions.set number a } }

/-- Carries a kept action out again; nothing is told of the action as such. -/
def apply (s : Session) (number : Nat) : Turn :=
  match s.actions[number]? with
  | none => s.turnTo
  | some a =>
    let r := a.apply s.workbook
    let t := s.turn r fun a => .acted a.name
    let actions := r.answer.toOption.elim s.actions (s.actions.set number)
    { t with session := { t.session with actions } }

/-- **Does what a command asks.** -/
def step (s : Session) : Command → Turn
  | .setValue key v => s.turnDone (s.workbook.setValue key v)
  | .setValues sheet range values => s.turnDone (s.workbook.setValues sheet range values)
  | .setFormula key text => s.turn (s.workbook.setFormula key text) .status
  | .deleteFormula key => s.turnDone (s.workbook.deleteFormula key)
  | .copyFormula home target => s.turnDone (s.workbook.copyFormula home target)
  | .setStyle key style => s.turnDone (s.workbook.setStyle key style)
  | .fill request => s.turnDone (s.workbook.fill (fun _ => s.approves) request)
  | .approveFills approve => { s with approves := approve }.turnTo
  | .perform sheet block kind => s.perform { sheet, block, kind }
  | .revert number => s.revert number
  | .apply number => s.apply number
  | .recalculate key => s.turn (s.workbook.recalculateCell key) .status
  | .calculate => s.turn s.workbook.calculate .tally
  | .propagate changed => s.turn (s.workbook.propagate changed) .cells
  | .rebuild => { s with workbook := s.workbook.rebuild }.turnTo
  | .changeSettings settings => { s with workbook := { s.workbook with settings } }.turnTo
  | .addSheet name => s.turn (s.workbook.addSheet name) .sheet
  | .addSheetSized name rows cols => s.turn (s.workbook.addSheetSized name rows cols) .sheet
  | .deleteLines sheet axis first count =>
    s.turnDone (s.workbook.deleteLines sheet axis first count)
  | .resetSheet sheet rows cols => s.turnDone (s.workbook.resetSheet sheet rows cols)
  | .defineName sheet name range => s.turnDone (s.workbook.defineName sheet name range)
  | .removeName sheet name => s.turn (s.workbook.removeName sheet name) .flag
  | .merge sheet range => s.turnDone (s.workbook.merge sheet range)
  | .unmerge sheet range => s.turn (s.workbook.unmerge sheet range) .flag
  | .addFormats sheet definitions => s.turn (s.workbook.addFormats sheet definitions) .formats
  | .removeFormat sheet format => s.turn (s.workbook.removeFormat sheet format) .flag
  | .reapplyFormat sheet format => s.turnDone (s.workbook.reapplyFormat sheet format)
  | .reapplyFormats sheet => s.turnDone (s.workbook.reapplyFormats sheet)
  | .resetFormatting sheet => s.turnDone (s.workbook.resetFormatting sheet)
  | .drawArrows kind key => s.turn (s.workbook.drawArrows kind key) .flag
  | .eraseArrows kind key => s.turn (s.workbook.eraseArrows kind key) .flag
  | .eraseAllArrows sheet => s.turnDone (s.workbook.eraseAllArrows sheet)

/-- **The session after a run of commands.** -/
def run (s : Session) (commands : List Command) : Session :=
  commands.foldl (fun s c => (s.step c).session) s

end Session

end Spreadsheet
