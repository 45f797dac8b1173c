/-
# Calls within calls

A change spreads by a function that calls itself: it finds the readers of what changed, leaves out
those that are being worked on, and evaluates the others one after the other, each followed by a
call for that cell alone.  The list of visits is what it evaluates in the end; here it is looked at
while it runs.

* A *descent* is such a run at one moment: the workbook as it is by then, and the calls that are
  under way, each with its frame and with the cells of the frame that still have to be evaluated.
* Nothing but the guard of the stack keeps a descent from going in circles.  A call that goes
  deeper has a frame of cells that stand in no other frame, so frames never overlap, and there are
  no more of them than formulas with edges (`Nested`).
* Evaluating a cell keeps the graph, so what is ahead of a descent is a list that is known
  (`ahead`), and every step uses some of it up (`left_lt_of_step`).
* So every call ends, whatever circles the graph has, and it ends with what the functions of the
  workbook say (`descent_ends`).
-/
import Mathlib.Data.List.Lattice
import Mathlib.Data.List.Perm.Subperm
import Mathlib.Logic.Relation
import Spreadsheet.Proofs.Walk
import Spreadsheet.Workbook.Edit

namespace Spreadsheet

open Grid Formula Conditional
open Relation (ReflTransGen)

/-! ## 1. Descents -/

/-- **A call that is under way:** its frame, and the cells of the frame that have to be evaluated
yet. -/
structure Level where
  frame : List Key
  waiting : List Key

/-- **A recalculation at one moment.** -/
structure Descent where
  workbook : Workbook
  /-- What was told so far. -/
  events : List Event := []
  /-- The cells that were evaluated so far, in order. -/
  visited : List Key := []
  /-- The frame below the first call, if there is one: cells that were evaluated beforehand. -/
  seeded : List (List Key) := []
  /-- The calls with a frame, from the inside out. -/
  levels : List Level := []
  /-- The cells that a call was just made for, if it has not looked for their readers yet. -/
  pending : Option (List Key) := none
  /-- The formulas that a full recalculation has to start from yet. -/
  roots : List Key := []

namespace Descent

variable {w w' : Descent} {wb : Workbook}

/-- The active stack, from the inside out. -/
def stack (w : Descent) : List (List Key) := w.levels.map (·.frame) ++ w.seeded

/-- **How deep the calls are nested,** the one that has no frame yet included. -/
def depth (w : Descent) : Nat := w.levels.length + w.pending.elim 0 fun _ => 1

/-- The frame of a call for changed cells. -/
def next (w : Descent) (changed : List Key) : List Key :=
  w.workbook.graph.frame w.stack changed

/-- Evaluates a cell and makes the call for it. -/
def visit (w : Descent) (k : Key) : Descent :=
  { w with
    workbook := (w.workbook.recalculate k).1
    events := w.events ++ (w.workbook.recalculate k).2
    visited := w.visited ++ [k]
    pending := some [k] }

/-- **One step of a recalculation.**  A call asks the workbook as it is at that moment for its
frame. -/
inductive Step : Descent → Descent → Prop
  /-- A call that finds nothing to evaluate returns. -/
  | skip {w : Descent} {changed : List Key} (hpending : w.pending = some changed)
      (hnext : w.next changed = []) : Step w { w with pending := none }
  /-- A call puts its frame on the stack. -/
  | enter {w : Descent} {changed : List Key} (hpending : w.pending = some changed)
      (hnext : w.next changed ≠ []) :
      Step w { w with pending := none, levels := ⟨w.next changed, w.next changed⟩ :: w.levels }
  /-- The innermost call goes on with the next cell of its frame. -/
  | turn {w : Descent} {frame waiting : List Key} {k : Key} {outer : List Level}
      (hpending : w.pending = none) (hlevels : w.levels = ⟨frame, k :: waiting⟩ :: outer) :
      Step w ({ w with levels := ⟨frame, waiting⟩ :: outer }.visit k)
  /-- The innermost call takes its frame off the stack. -/
  | leave {w : Descent} {frame : List Key} {outer : List Level}
      (hpending : w.pending = none) (hlevels : w.levels = ⟨frame, []⟩ :: outer) :
      Step w { w with levels := outer }
  /-- A full recalculation goes on with its next formula, which takes the place of the last one
  below the first call. -/
  | root {w : Descent} {k : Key} {roots : List Key}
      (hpending : w.pending = none) (hlevels : w.levels = []) (hroots : w.roots = k :: roots) :
      Step w ({ w with seeded := [[k]], roots }.visit k)

/-- Nothing is left to do. -/
structure Ended (w : Descent) : Prop where
  pending : w.pending = none
  levels : w.levels = []
  roots : w.roots = []

/-- **A descent goes on until nothing is left to do.** -/
theorem step_or_ended (w : Descent) : (∃ w', Step w w') ∨ w.Ended := by
  cases hpending : w.pending with
  | some changed =>
    by_cases hnext : w.next changed = []
    · exact .inl ⟨_, .skip hpending hnext⟩
    · exact .inl ⟨_, .enter hpending hnext⟩
  | none =>
    rcases hlevels : w.levels with _ | ⟨⟨frame, _ | ⟨k, waiting⟩⟩, outer⟩
    · rcases hroots : w.roots with _ | ⟨k, roots⟩
      · exact .inr ⟨hpending, hlevels, hroots⟩
      · exact .inl ⟨_, .root hpending hlevels hroots⟩
    · exact .inl ⟨_, .leave hpending hlevels⟩
    · exact .inl ⟨_, .turn hpending hlevels⟩

/-! ## 2. Frames -/

end Descent

namespace Workbook

/-- **The formulas with edges,** in order. -/
def carriers (wb : Workbook) : List Key :=
  wb.formulaKeys.filter fun k => !(wb.content k).edges.isEmpty

theorem mem_carriers {wb : Workbook} {key : Key} :
    key ∈ wb.carriers ↔ (wb.content key).edges ≠ [] := by
  simp only [carriers, List.mem_filter, Bool.not_eq_true', List.isEmpty_eq_false_iff,
    and_iff_right_iff_imp]
  intro hedges
  obtain ⟨e, he⟩ := Content.exists_expr_of_edges hedges
  exact mem_formulaKeys.mpr (Content.isSome_formulaText? he)

/-- What reads something has edges. -/
theorem mem_carriers_of_mem_readers {wb : Workbook} {changed : List Key} {key : Key}
    (h : key ∈ wb.graph.readers changed) : key ∈ wb.carriers := by
  obtain ⟨x, -, edge, hedge, -⟩ := mem_readers.mp h
  exact mem_carriers.mpr (List.ne_nil_of_mem hedge)

end Workbook

namespace Descent

variable {w w' : Descent} {wb : Workbook}

/-- **How frames lie on the stack:** above the seeded frame none is empty, no cell stands in two of
them, and all of them consist of formulas with edges.  The graph is that of the workbook at the
beginning. -/
structure Nested (wb : Workbook) (w : Descent) : Prop where
  graph : w.workbook.graph = wb.graph
  nonempty : ∀ level ∈ w.levels, level.frame ≠ []
  disjoint : w.stack.Pairwise List.Disjoint
  carriers : ∀ level ∈ w.levels, level.frame ⊆ wb.carriers
  seeded : w.seeded.length ≤ 1

/-- A frame has no cell of the stack. -/
theorem disjoint_next (changed : List Key) {frame : List Key} (h : frame ∈ w.stack) :
    (w.next changed).Disjoint frame := by
  intro k hk hframe
  have hidle := (Graph.mem_frame.mp hk).2
  rw [Graph.onStack, List.any_eq_false] at hidle
  exact hidle frame h (List.contains_iff_mem.mpr hframe)

/-- **Every step keeps the frames apart.** -/
theorem Nested.step (h : w.Nested wb) (hstep : Step w w') : w'.Nested wb := by
  obtain ⟨hgraph, hnonempty, hdisjoint, hcarriers, hseeded⟩ := h
  cases hstep with
  | skip hpending hnext => exact ⟨hgraph, hnonempty, hdisjoint, hcarriers, hseeded⟩
  | @enter changed hpending hnext =>
    have hnew : w.next changed ⊆ wb.carriers := fun k hk =>
      Workbook.mem_carriers_of_mem_readers (hgraph ▸ (Graph.mem_frame.mp hk).1)
    refine ⟨hgraph, ?_, ?_, ?_, hseeded⟩
    · exact List.forall_mem_cons.mpr ⟨hnext, hnonempty⟩
    · exact List.pairwise_cons.mpr ⟨fun frame => disjoint_next changed, hdisjoint⟩
    · exact List.forall_mem_cons.mpr ⟨hnew, hcarriers⟩
  | turn hpending hlevels =>
    simp only [stack, hlevels] at hnonempty hdisjoint hcarriers
    refine ⟨?_, ?_, hdisjoint, ?_, hseeded⟩
    · exact (Workbook.graph_recalculate _ _).trans hgraph
    · exact List.forall_mem_cons.mpr (List.forall_mem_cons.mp hnonempty)
    · exact List.forall_mem_cons.mpr (List.forall_mem_cons.mp hcarriers)
  | leave hpending hlevels =>
    simp only [stack, hlevels] at hnonempty hdisjoint hcarriers
    exact ⟨hgraph, (List.forall_mem_cons.mp hnonempty).2, hdisjoint.of_cons,
      (List.forall_mem_cons.mp hcarriers).2, hseeded⟩
  | root hpending hlevels hroots =>
    refine ⟨(Workbook.graph_recalculate _ _).trans hgraph, ?_, ?_, ?_, Nat.le_refl 1⟩
    · simp [visit, hlevels]
    · simp [stack, visit, hlevels]
    · simp [visit, hlevels]

/-- The frames of a descent stay apart all the way. -/
theorem Nested.steps (h : w.Nested wb) (hsteps : ReflTransGen Step w w') : w'.Nested wb := by
  induction hsteps with
  | refl => exact h
  | tail _ hstep ih => exact ih.step hstep

/-- **Lists that do not overlap are no more than the elements they consist of.** -/
theorem length_le_of_disjoint {α : Type} {all : List α} {frames : List (List α)}
    (hnonempty : ∀ frame ∈ frames, frame ≠ []) (hdisjoint : frames.Pairwise List.Disjoint)
    (hall : ∀ frame ∈ frames, frame ⊆ all) : frames.length ≤ all.length := by
  -- One element of each list tells the lists apart.
  let first (frame : {frame // frame ∈ frames}) : α := frame.1.head (hnonempty _ frame.2)
  have hfirst (frame : {frame // frame ∈ frames}) : first frame ∈ frame.1 := List.head_mem _
  have hnodup : (frames.attach.map first).Nodup := by
    rw [List.nodup_iff_pairwise_ne, List.pairwise_map]
    have hattach : frames.attach.Pairwise fun f g => f.1.Disjoint g.1 := by
      rw [← List.pairwise_map (f := Subtype.val), List.attach_map_subtype_val]
      exact hdisjoint
    refine hattach.imp fun {f g} hfg heq => ?_
    have hmem := hfirst g
    rw [← heq] at hmem
    exact hfg (hfirst f) hmem
  have hsub : frames.attach.map first ⊆ all := by
    intro a ha
    obtain ⟨frame, -, rfl⟩ := List.mem_map.mp ha
    exact hall _ frame.2 (hfirst frame)
  have hle := (hnodup.subperm hsub).length_le
  rwa [List.length_map, List.length_attach] at hle

/-- **There are no more calls with a frame than formulas with edges.** -/
theorem Nested.levels_le (h : w.Nested wb) : w.levels.length ≤ wb.carriers.length := by
  have hle : (w.levels.map (·.frame)).length ≤ wb.carriers.length :=
    length_le_of_disjoint (List.forall_mem_map.mpr h.nonempty)
      (List.pairwise_append.mp h.disjoint).1 (List.forall_mem_map.mpr h.carriers)
  rwa [List.length_map] at hle

/-- **Neither the stack nor the nesting of the calls is higher than the formulas with edges, and
one.** -/
theorem Nested.bounded (h : w.Nested wb) :
    w.stack.length ≤ wb.carriers.length + 1 ∧ w.depth ≤ wb.carriers.length + 1 := by
  have hlevels := h.levels_le
  have hseeded := h.seeded
  have hpending : (w.pending.elim 0 fun _ => 1) ≤ 1 := by cases w.pending <;> simp
  simp only [stack, depth, List.length_append, List.length_map]
  omega

/-! ## 3. What is ahead -/

/-- What the calls that are under way have to evaluate yet. -/
def aheadOf (g : Graph) (seeded : List (List Key)) : List Level → List Key
  | [] => []
  | level :: outer =>
    (level.waiting.flatMap fun k =>
      k :: g.visits (level.frame :: (outer.map (·.frame) ++ seeded)) [k]) ++ aheadOf g seeded outer

/-- **What a descent has to evaluate yet,** in order. -/
def ahead (w : Descent) : List Key :=
  (w.pending.elim [] fun changed => w.workbook.graph.visits w.stack changed) ++
    (aheadOf w.workbook.graph w.seeded w.levels ++ w.roots.flatMap (Workbook.sweep w.workbook.graph))

/-- Nothing is ahead of a descent that has ended. -/
theorem Ended.ahead_eq (h : w.Ended) : w.ahead = [] := by
  simp [ahead, aheadOf, h.pending, h.levels, h.roots]

/-- How much a descent has to do yet: an evaluation counts for more than the call that follows, and
the call for more than the return. -/
def left (w : Descent) : Nat :=
  3 * w.ahead.length + 2 * (w.pending.elim 0 fun _ => 1) + w.levels.length

/-- **What was ahead of a step is ahead of it afterwards or was visited by it.** -/
theorem visited_ahead_of_step (hstep : Step w w') :
    w'.visited ++ w'.ahead = w.visited ++ w.ahead := by
  cases hstep with
  | skip hpending hnext =>
    have hnone := Graph.visits_of_frame_nil hnext
    simp [ahead, hpending, hnone]
  | @enter changed hpending hnext =>
    have hvisits := w.workbook.graph.visits_eq w.stack changed
    simp only [stack] at hvisits
    simp [ahead, aheadOf, hpending, hvisits, next, stack]
  | turn hpending hlevels =>
    simp [ahead, aheadOf, visit, stack, hpending, hlevels, Workbook.graph_recalculate]
  | leave hpending hlevels => simp [ahead, aheadOf, hpending, hlevels]
  | root hpending hlevels hroots =>
    simp [ahead, aheadOf, visit, stack, Workbook.sweep, hpending, hlevels, hroots,
      Workbook.graph_recalculate]

/-- What a descent has visited and what is ahead of it are together what was ahead of it. -/
theorem visited_ahead_of_steps (hsteps : ReflTransGen Step w w') :
    w'.visited ++ w'.ahead = w.visited ++ w.ahead := by
  induction hsteps with
  | refl => rfl
  | tail _ hstep ih => exact (visited_ahead_of_step hstep).trans ih

/-- **Every step leaves less to do.** -/
theorem left_lt_of_step (hstep : Step w w') : w'.left < w.left := by
  have hahead := congrArg List.length (visited_ahead_of_step hstep)
  simp only [List.length_append] at hahead
  cases hstep with
  | skip hpending hnext =>
    simp only [left, hpending, Option.elim] at hahead ⊢
    omega
  | enter hpending hnext =>
    simp only [left, hpending, Option.elim, List.length_cons] at hahead ⊢
    omega
  | turn hpending hlevels =>
    simp only [left, visit, hpending, hlevels, Option.elim, List.length_cons,
      List.length_append, List.length_nil] at hahead ⊢
    omega
  | leave hpending hlevels =>
    simp only [left, hpending, hlevels, Option.elim, List.length_cons] at hahead ⊢
    omega
  | root hpending hlevels hroots =>
    simp only [left, visit, hpending, hlevels, Option.elim, List.length_append,
      List.length_cons, List.length_nil] at hahead ⊢
    omega

/-- **No descent goes on for ever.** -/
theorem accessible (w : Descent) : Acc (fun w' w => Step w w') w :=
  Subrelation.accessible left_lt_of_step ((measure left).wf.apply w)

/-- Every descent comes to an end. -/
theorem exists_ended (w : Descent) : ∃ w', ReflTransGen Step w w' ∧ w'.Ended := by
  induction w.accessible with
  | intro w _ ih =>
    rcases w.step_or_ended with ⟨w', hstep⟩ | hended
    · obtain ⟨last, hsteps, hlast⟩ := ih w' hstep
      exact ⟨last, .head hstep hsteps, hlast⟩
    · exact ⟨w, .refl, hended⟩

/-! ## 4. What a descent comes to -/

/-- **What a descent did is to evaluate the cells it visited,** one after the other. -/
theorem recalculateEach_of_step (hstep : Step w w')
    (h : wb.recalculateEach w.visited = (w.workbook, w.events)) :
    wb.recalculateEach w'.visited = (w'.workbook, w'.events) := by
  have hvisit (k : Key) :
      wb.recalculateEach (w.visited ++ [k]) =
        ((w.workbook.recalculate k).1, w.events ++ (w.workbook.recalculate k).2) := by
    rw [Workbook.recalculateEach, List.foldl_append]
    rw [Workbook.recalculateEach] at h
    rw [h]
    rfl
  cases hstep with
  | skip => exact h
  | enter => exact h
  | turn => exact hvisit _
  | leave => exact h
  | root => exact hvisit _

/-- **An ended descent has visited what was ahead of it at the beginning,** and has evaluated that. -/
theorem recalculateEach_of_ended (hsteps : ReflTransGen Step w w') (hended : w'.Ended)
    (hvisited : w.visited = []) (hevents : w.events = []) :
    w'.visited = w.ahead ∧ w.workbook.recalculateEach w.ahead = (w'.workbook, w'.events) := by
  have hahead := visited_ahead_of_steps hsteps
  rw [hended.ahead_eq, List.append_nil, hvisited, List.nil_append] at hahead
  have heach : w.workbook.recalculateEach w'.visited = (w'.workbook, w'.events) := by
    clear hended hahead
    induction hsteps with
    | refl => simp [hvisited, hevents, Workbook.recalculateEach]
    | tail _ hstep ih => exact recalculateEach_of_step hstep ih
  exact ⟨hahead, hahead ▸ heach⟩

end Descent

/-! ## 5. Calls -/

/-- **Where recalculations start from.** -/
inductive Call where
  /-- A change spreads. -/
  | propagate (changed : List Key)
  /-- An edit is completed; the cells below the first call have been evaluated already. -/
  | complete (changed root : List Key)
  /-- Everything is recalculated. -/
  | calculate

namespace Call

open Descent

/-- The stack that an edit starts with. -/
def seed (root : List Key) : List (List Key) := if root = [] then [] else [root]

/-- The beginning of a recalculation. -/
def start (wb : Workbook) : Call → Descent
  | .propagate changed => { workbook := wb, pending := some changed }
  | .complete changed root =>
    { workbook := wb
      seeded := seed root
      pending := if wb.settings.autoRecalculate then some changed else none }
  | .calculate => { workbook := wb, roots := wb.formulaKeys }

/-- **What the functions of a workbook say** agrees with what a descent came to. -/
def Agrees (wb : Workbook) (w : Descent) : Call → Prop
  | .propagate changed => wb.propagate changed = ⟨.ok w.visited, w.workbook, w.events⟩
  | .complete changed root =>
    ∀ {α : Type} (event : Event) (earlier : List Event) (answer : Except Error α),
      wb.complete changed (seed root) event earlier answer =
        ⟨answer, w.workbook.refreshFormats (changed ++ w.visited), earlier ++ w.events ++ [event]⟩
  | .calculate =>
    wb.calculate =
      ⟨.ok ⟨wb.formulaKeys.length, w.visited.length,
          (wb.formulaKeys.filter fun k => w.workbook.status k != .normal).length⟩,
        w.workbook.applyFormats w.workbook.allFormats, w.events⟩

variable {wb : Workbook} {w : Descent}

/-- Recalculations start with frames that lie as they should. -/
theorem nested_start (wb : Workbook) (call : Call) : (call.start wb).Nested wb := by
  cases call with
  | propagate changed => constructor <;> simp [start, stack]
  | complete changed root =>
    constructor
    case graph => rfl
    case seeded => simp only [start, seed]; split <;> simp
    case disjoint => simp only [start, stack, seed]; split <;> simp
    all_goals simp [start]
  | calculate => constructor <;> simp [start, stack]

/-- **What is ahead when a change starts to spread.** -/
theorem ahead_start_propagate (wb : Workbook) (changed : List Key) :
    ((Call.propagate changed).start wb).ahead = wb.graph.visits [] changed := by
  simp [ahead, start, stack, aheadOf]

/-- What is ahead when an edit starts to be completed. -/
theorem ahead_start_complete (wb : Workbook) (changed root : List Key) :
    ((Call.complete changed root).start wb).ahead =
      if wb.settings.autoRecalculate then wb.graph.visits (seed root) changed else [] := by
  cases hauto : wb.settings.autoRecalculate <;> simp [ahead, start, stack, aheadOf, hauto]

/-- **What is visited in the end is what the functions of the workbook evaluate.** -/
theorem agrees_of_ended {call : Call} (hsteps : ReflTransGen Step (call.start wb) w)
    (hended : w.Ended) : call.Agrees wb w := by
  cases call with
  | propagate changed =>
    obtain ⟨hvisited, heach⟩ := recalculateEach_of_ended hsteps hended rfl rfl
    rw [ahead_start_propagate] at hvisited heach
    simp only [start] at heach
    simp only [Agrees, Workbook.propagate, heach, hvisited]
  | complete changed root =>
    obtain ⟨hvisited, heach⟩ := recalculateEach_of_ended hsteps hended rfl rfl
    rw [ahead_start_complete] at hvisited heach
    simp only [start] at heach
    intro α event earlier answer
    simp only [Workbook.complete, heach, hvisited]
  | calculate =>
    obtain ⟨hvisited, heach⟩ := recalculateEach_of_ended hsteps hended rfl rfl
    have hahead : (Call.calculate.start wb).ahead =
        wb.formulaKeys.flatMap (Workbook.sweep wb.graph) := by
      simp [ahead, start, aheadOf]
    rw [hahead] at hvisited heach
    simp only [start] at heach
    simp only [Agrees, Workbook.calculate, Workbook.evaluateFormulas, heach, hvisited]

/-- **Every recalculation ends,** whatever circles the graph has: no run of steps goes on for ever,
and the one that there is leads to what the functions of the workbook say.  At every moment the
graph is what it was, the frames above the seeded one are not empty, no two frames of the stack have
a cell in common, and the calls are nested no deeper than there are formulas with edges, and one. -/
theorem descent_ends (wb : Workbook) (call : Call) :
    Acc (fun w' w => Step w w') (call.start wb) ∧
      (∃ w, ReflTransGen Step (call.start wb) w ∧ w.Ended) ∧
      ∀ w, ReflTransGen Step (call.start wb) w →
        w.workbook.graph = wb.graph ∧
        (∀ level ∈ w.levels, level.frame ≠ []) ∧
        w.stack.Pairwise List.Disjoint ∧
        w.stack.length ≤ wb.carriers.length + 1 ∧
        w.depth ≤ wb.carriers.length + 1 ∧
        ((∃ w', Step w w') ∨ w.Ended ∧ call.Agrees wb w) := by
  refine ⟨accessible _, exists_ended _, fun w hsteps => ?_⟩
  have hnested : w.Nested wb := (nested_start wb call).steps hsteps
  refine ⟨hnested.graph, hnested.nonempty, hnested.disjoint, hnested.bounded.1,
    hnested.bounded.2, ?_⟩
  rcases w.step_or_ended with hstep | hended
  · exact .inl hstep
  · exact .inr ⟨hended, agrees_of_ended hsteps hended⟩

end Call

end Spreadsheet
