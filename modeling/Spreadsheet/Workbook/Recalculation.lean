/-
# Recalculation

* A change spreads from cell to cell along the graph: the readers of what changed are evaluated in
  order, and after each of them its own readers.  Cells that are being worked on further up are
  left out, which is the only guard against circles.
* Which cells are evaluated, and in which order, depends on the graph alone; evaluating them does
  not change the graph.  So the *visits* of a change are a list that is known beforehand.
* Evaluating one cell changes its result and nothing else.
-/
import Spreadsheet.Workbook.Edges

namespace Spreadsheet

open Grid Formula Conditional

/-! ## 1. Visits -/

namespace Graph

/-- Whether a cell is being worked on.  The stack holds the readers of what is being worked on, from
the inside out. -/
def onStack (stack : List (List Key)) (k : Key) : Bool := stack.any (·.contains k)

/-- **The readers of changed cells that are not being worked on yet.** -/
def frame (g : Graph) (stack : List (List Key)) (changed : List Key) : List Key :=
  (g.readers changed).filter fun k => !onStack stack k

/-- Number of formulas that are not being worked on. -/
def idle (g : Graph) (stack : List (List Key)) : Nat :=
  (g.filter fun reader => !onStack stack reader.1).length

/-- **Going on from a cell of a frame leaves fewer formulas idle.** -/
theorem idle_frame_lt {g : Graph} {stack : List (List Key)} {changed : List Key} {k : Key}
    (h : k ∈ g.frame stack changed) :
    g.idle (g.frame stack changed :: stack) < g.idle stack := by
  obtain ⟨hread, hidle⟩ := List.mem_filter.mp h
  obtain ⟨reader, hmem, rfl⟩ := List.mem_map.mp (mem_keys_of_mem_readers hread)
  have hsub : g.filter (fun r => !onStack (g.frame stack changed :: stack) r.1) =
      (g.filter fun r => !onStack stack r.1).filter
        fun r => !(g.frame stack changed).contains r.1 := by
    rw [List.filter_filter]
    congr 1
    funext r
    simp [onStack]
  rw [idle, idle, hsub]
  refine Nat.lt_of_le_of_ne (List.length_filter_le _ _) fun heq => ?_
  have hall := List.length_filter_eq_length_iff.mp heq reader (List.mem_filter.mpr ⟨hmem, hidle⟩)
  rw [List.contains_iff_mem.mpr h] at hall
  cases hall

/-- **The cells that a change makes evaluate,** in order.  A cell occurs once for every way that
leads to it. -/
def visits (g : Graph) (stack : List (List Key)) (changed : List Key) : List Key :=
  (g.frame stack changed).attach.flatMap fun ⟨k, _⟩ =>
    k :: g.visits (g.frame stack changed :: stack) [k]
termination_by g.idle stack
decreasing_by exact idle_frame_lt (by assumption)

/-- The visits of a change are its frame, each cell followed by the visits of its own change. -/
theorem visits_eq (g : Graph) (stack : List (List Key)) (changed : List Key) :
    g.visits stack changed = (g.frame stack changed).flatMap fun k =>
      k :: g.visits (g.frame stack changed :: stack) [k] := by
  rw [visits]
  simp only [List.flatMap_subtype, List.unattach_attach]

/-- A change that nothing reads makes nothing evaluate. -/
theorem visits_of_frame_nil {g : Graph} {stack : List (List Key)} {changed : List Key}
    (h : g.frame stack changed = []) : g.visits stack changed = [] := by
  rw [visits_eq, h, List.flatMap_nil]

/-- A frame holds the readers that are not being worked on. -/
theorem mem_frame {g : Graph} {stack : List (List Key)} {changed : List Key} {k : Key} :
    k ∈ g.frame stack changed ↔ k ∈ g.readers changed ∧ onStack stack k = false := by
  simp [frame]

end Graph

namespace Workbook

/-! ## 2. Evaluating cells -/

/-- The event of an evaluation that failed in a way that no formula should. -/
def failureEvents (key : Key) : Outcome → List Event
  | .ok _ => []
  | .error fault => if (Failure.ofFault fault).status = .unspecified then [.failed key fault] else []

/-- **Evaluates one cell.**  A cell without a formula stays as it is. -/
def recalculate (wb : Workbook) (key : Key) : Workbook × List Event :=
  match (wb.cell key).content.expr? with
  | none => (wb, [])
  | some e =>
    let outcome := wb.evaluate key e
    (wb.mapContent key (·.withResult (.ofOutcome outcome)), failureEvents key outcome)

/-- **Evaluating a cell keeps the graph.** -/
theorem graph_recalculate (wb : Workbook) (key : Key) :
    (wb.recalculate key).1.graph = wb.graph := by
  unfold recalculate
  split
  · rfl
  · exact wb.graph_mapContent key fun c => by cases c <;> rfl

@[simp] theorem settings_recalculate (wb : Workbook) (key : Key) :
    (wb.recalculate key).1.settings = wb.settings := by
  unfold recalculate
  split <;> rfl

/-- **Evaluating a cell leaves the others alone.** -/
theorem cell?_recalculate_of_ne (wb : Workbook) {key j : Key} (h : key ≠ j) :
    (wb.recalculate key).1.cell? j = wb.cell? j := by
  unfold recalculate
  split
  · rfl
  · simp [cell?_mapContent, h]

/-- Evaluates cells one after the other. -/
def recalculateEach (wb : Workbook) (keys : List Key) : Workbook × List Event :=
  keys.foldl (fun (wb, events) k =>
    let (wb, more) := wb.recalculate k
    (wb, events ++ more)) (wb, [])

/-- **Evaluating several cells is evaluating the first and then the rest,** as far as the workbook is
concerned. -/
theorem recalculateEach_cons_fst (wb : Workbook) (key : Key) (keys : List Key) :
    (wb.recalculateEach (key :: keys)).1 = ((wb.recalculate key).1.recalculateEach keys).1 := by
  have hfst (ks : List Key) (start : Workbook × List Event) :
      (ks.foldl (fun (wb, events) k =>
        let (wb, more) := wb.recalculate k
        (wb, events ++ more)) start).1 = ks.foldl (fun wb k => (wb.recalculate k).1) start.1 := by
    induction ks generalizing start with
    | nil => rfl
    | cons k ks ih => exact ih _
  simp only [recalculateEach, hfst, List.foldl_cons]

@[simp] theorem recalculateEach_nil_fst (wb : Workbook) : (wb.recalculateEach []).1 = wb := rfl

theorem recalculateEach_append_fst (wb : Workbook) (keys more : List Key) :
    (wb.recalculateEach (keys ++ more)).1 =
      ((wb.recalculateEach keys).1.recalculateEach more).1 := by
  induction keys generalizing wb with
  | nil => rfl
  | cons key keys ih =>
    rw [List.cons_append, recalculateEach_cons_fst, ih, recalculateEach_cons_fst]

/-- **Spreads a change.**  Answers the cells that were evaluated. -/
def propagate (wb : Workbook) (changed : List Key) : Reply (List Key) :=
  let visited := wb.graph.visits [] changed
  let (wb, events) := wb.recalculateEach visited
  ⟨.ok visited, wb, events⟩

/-! ## 3. Evaluating everything -/

/-- The cells that are evaluated when a formula and all that follows from it are. -/
def sweep (g : Graph) (key : Key) : List Key := key :: g.visits [[key]] [key]

/-- **What a full recalculation did:** how many formulas there are, how many evaluations it took,
and how many of the formulas have no value afterwards. -/
structure Tally where
  formulas : Nat
  evaluations : Nat
  failures : Nat
deriving DecidableEq, Repr

/-- Evaluates every formula with all that follows from it, in order. -/
def evaluateFormulas (wb : Workbook) : Reply Tally :=
  let keys := wb.formulaKeys
  let visited := keys.flatMap (sweep wb.graph)
  let (wb, events) := wb.recalculateEach visited
  let failures := keys.filter fun k => wb.status k != .normal
  ⟨.ok ⟨keys.length, visited.length, failures.length⟩, wb, events⟩

end Workbook

end Spreadsheet
