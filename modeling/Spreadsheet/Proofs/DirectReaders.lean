/-
# Direct readers are evaluated once

While a change spreads, a cell is evaluated once for every way that leads to it.  Two kinds of cells
are evaluated exactly once, however many ways there are.

* The readers of the changed cells make the first frame, which is on the stack all the time.  What
  is on the stack is not visited further down, so a cell of a frame is visited when it has its turn
  and not otherwise; and frames are listed in scan order, so it has one turn
  (`Graph.count_visits`).
* A formula that is set is evaluated before the change spreads, and the walk starts with it on the
  stack, so it does not come up again (`Graph.count_visits_of_onStack`).

These are facts about the list of visits.  A descent has at every moment visited a part of this list
and has the rest ahead, so they are facts about each moment of a descent, too
(`Descent.once_at_all_times`, `Descent.never_again`).
-/
import Mathlib.Data.List.Nodup
import Spreadsheet.Proofs.Descent
import Spreadsheet.Proofs.Edits

namespace Spreadsheet

open Grid Formula Conditional
open Relation (ReflTransGen)

/-! ## 1. Turns -/

/-- **Lists in a row hold an element as often as there are lists that hold it,** if each list that
is made for the element holds it once, and no other one does. -/
theorem count_flatMap_of_single {α : Type} [DecidableEq α] {f : α → List α} {k : α} :
    ∀ {l : List α}, (∀ a ∈ l, (f a).count k = [a].count k) → (l.flatMap f).count k = l.count k
  | [], _ => rfl
  | a :: rest, h => by
    have hrest := count_flatMap_of_single fun b hb => h b (List.mem_cons_of_mem a hb)
    rw [List.flatMap_cons, List.count_append, h a List.mem_cons_self, hrest,
      ← List.count_append, List.singleton_append]

namespace Graph

variable {g : Graph} {stack : List (List Key)} {changed : List Key} {k : Key}

/-- **No cell stands in a frame twice.** -/
theorem nodup_frame (hscan : (g.map (·.1)).Pairwise Key.Before) (stack : List (List Key))
    (changed : List Key) : (g.frame stack changed).Nodup := by
  refine (pairwise_frame hscan stack changed).imp fun {k j} hbefore heq => ?_
  rw [heq] at hbefore
  exact j.not_before_self hbefore

/-- **A cell on the stack is not visited.** -/
theorem count_visits_of_onStack (h : onStack stack k = true) :
    (g.visits stack changed).count k = 0 := by
  refine List.count_eq_zero.mpr fun hmem => ?_
  rw [not_onStack_of_mem_visits hmem] at h
  cases h

/-- **A cell of the first frame is visited once.** -/
theorem count_visits (hscan : (g.map (·.1)).Pairwise Key.Before)
    (h : k ∈ g.frame stack changed) : (g.visits stack changed).count k = 1 := by
  rw [visits_eq, count_flatMap_of_single fun top _ => ?_]
  · exact List.count_eq_one_of_mem (nodup_frame hscan stack changed) h
  · -- Below its turn a cell stays on the stack.
    have hdeeper : (g.visits (g.frame stack changed :: stack) [top]).count k = 0 :=
      count_visits_of_onStack (onStack_cons.mpr (.inl h))
    rw [← List.singleton_append, List.count_append, hdeeper, Nat.add_zero]

/-- **A reader of what changed is visited once** by a walk that starts with an empty stack. -/
theorem count_visits_of_mem_readers (hscan : (g.map (·.1)).Pairwise Key.Before)
    (h : k ∈ g.readers changed) : (g.visits [] changed).count k = 1 :=
  count_visits hscan (mem_frame.mpr ⟨h, rfl⟩)

end Graph

/-! ## 2. At every moment -/

namespace Descent

variable {w : Descent} {wb : Workbook} {key : Key}

/-- **At every moment of a change that spreads,** a reader of what changed has been visited once, or
is ahead once. -/
theorem once_at_all_times {changed : List Key} (hreads : key ∈ wb.graph.readers changed)
    (hsteps : ReflTransGen Step ((Call.propagate changed).start wb) w) :
    w.visited.count key + w.ahead.count key = 1 := by
  have hall := visited_ahead_of_steps hsteps
  rw [Call.ahead_start_propagate] at hall
  rw [← List.count_append, hall]
  exact Graph.count_visits_of_mem_readers wb.pairwise_graph hreads

/-- **At no moment of an edit that is completed** has a cell been visited that was evaluated
beforehand. -/
theorem never_again {changed : List Key}
    (hsteps : ReflTransGen Step ((Call.complete changed [key]).start wb) w) :
    w.visited.count key = 0 := by
  have hall := visited_ahead_of_steps hsteps
  rw [Call.ahead_start_complete] at hall
  have hcount : (w.visited ++ w.ahead).count key = 0 := by
    rw [hall]
    change (if wb.settings.autoRecalculate then wb.graph.visits [[key]] changed else []).count
      key = 0
    split
    · exact Graph.count_visits_of_onStack (Graph.onStack_cons.mpr (.inl List.mem_cons_self))
    · rfl
  rw [List.count_append] at hcount
  omega

end Descent

/-! ## 3. Evaluations -/

namespace Workbook

variable {wb : Workbook} {key : Key}

open Descent (Step)

/-- **What setting a formula does,** if the text is one and its edges can be found: it writes the
formula, evaluates it, and completes the edit by a descent.  What it tells and leaves behind comes
from evaluating the cell and then those that the descent visits. -/
theorem setFormula_eq (hon : wb.Has key) {text : String} {e : Expr} {edges : List Edge}
    (hparse : parse (formulaText text) = .ok e) (hedges : wb.edges key true e = .ok edges) :
    let written := wb.writeContent key (.formula (formulaText text) e edges (.value (wb.value key)))
    ∀ w, ReflTransGen Step ((Call.complete [key] [key]).start (written.recalculate key).1) w →
      w.Ended →
        let evaluated := written.recalculateEach (key :: w.visited)
        let after := evaluated.1.refreshFormats (key :: w.visited)
        evaluated.1 = w.workbook ∧ wb.setFormula key text = ⟨.ok (after.status key), after,
          evaluated.2 ++ [.changed key.sheet (.single key.spot) .formula]⟩ := by
  intro written w hsteps hended
  obtain ⟨s, hs, hcheck⟩ := hon
  have hcontent : wb.contentOf key text =
      .ok (.formula (formulaText text) e edges (.value (wb.value key))) := by
    unfold contentOf
    dsimp only
    rw [hparse]
    dsimp only
    rw [hedges]
    rfl
  have heach : written.recalculateEach (key :: w.visited) =
      (w.workbook, (written.recalculate key).2 ++ w.events) := by
    obtain ⟨hvisited, heach⟩ := Descent.recalculateEach_of_ended hsteps hended rfl rfl
    rw [← hvisited] at heach
    change (written.recalculate key).1.recalculateEach w.visited = _ at heach
    refine Prod.ext ?_ ?_
    · rw [recalculateEach_cons_fst, heach]
    · rw [recalculateEach_cons_snd, heach]
  have hcomplete : ∀ answer : Except Error Unit,
      (written.recalculate key).1.complete [key] [[key]]
          (.changed key.sheet (.single key.spot) .formula) (written.recalculate key).2 answer =
        ⟨answer, w.workbook.refreshFormats (key :: w.visited),
          (written.recalculate key).2 ++ w.events ++
            [.changed key.sheet (.single key.spot) .formula]⟩ :=
    Call.agrees_of_ended hsteps hended _ _
  have hset : wb.setFormula key text = { (written.recalculate key).1.complete [key] [[key]]
      (.changed key.sheet (.single key.spot) .formula) (written.recalculate key).2 (.ok ()) with
        answer := .ok ((w.workbook.refreshFormats (key :: w.visited)).status key) } := by
    rw [setFormula, sheet, hs, Reply.guard_ok, hcheck, Reply.guard_ok]
    simp only [hcontent]
    rw [hcomplete]
  dsimp only
  rw [heach, hset, hcomplete]
  exact ⟨rfl, rfl⟩

/-- **Direct readers are evaluated once.**  However the formulas of a workbook read each other, a
formula that reads one of some changed cells, or several of them, is evaluated exactly once when the
change of those cells spreads, and at every moment until then it has been evaluated once or will be.
And a formula that is set is evaluated exactly once: setting it writes it and evaluates it, and the
descent that completes the edit comes to an end and at no moment has evaluated it again. -/
theorem direct_readers_once (wb : Workbook) :
    (∀ (changed : List Key) (key : Key),
      (∃ x ∈ changed, ∃ edge ∈ (wb.content key).edges, edge.target.covers x = true) →
        (∃ visited, visited.count key = 1 ∧ wb.propagate changed =
          ⟨.ok visited, (wb.recalculateEach visited).1, (wb.recalculateEach visited).2⟩) ∧
        ∀ w, ReflTransGen Step ((Call.propagate changed).start wb) w →
          w.visited.count key + w.ahead.count key = 1 ∧
            (w.Ended → w.visited.count key = 1 ∧
              wb.propagate changed = ⟨.ok w.visited, w.workbook, w.events⟩)) ∧
    ∀ (key : Key) (text : String) (e : Expr) (edges : List Edge), wb.Has key →
      parse (formulaText text) = .ok e → wb.edges key true e = .ok edges →
        let written :=
          wb.writeContent key (.formula (formulaText text) e edges (.value (wb.value key)))
        let spreading := (Call.complete [key] [key]).start (written.recalculate key).1
        (∃ w, ReflTransGen Step spreading w ∧ w.Ended) ∧
          ∀ w, ReflTransGen Step spreading w → (key :: w.visited).count key = 1 ∧
            (w.Ended →
              let evaluated := written.recalculateEach (key :: w.visited)
              let after := evaluated.1.refreshFormats (key :: w.visited)
              evaluated.1 = w.workbook ∧ wb.setFormula key text = ⟨.ok (after.status key), after,
                evaluated.2 ++ [.changed key.sheet (.single key.spot) .formula]⟩) := by
  constructor
  · intro changed key hreads
    have hreader := mem_readers.mpr hreads
    refine ⟨⟨wb.graph.visits [] changed,
      Graph.count_visits_of_mem_readers wb.pairwise_graph hreader, rfl⟩, fun w hsteps => ?_⟩
    have honce := Descent.once_at_all_times hreader hsteps
    refine ⟨honce, fun hended => ⟨?_, Call.agrees_of_ended hsteps hended⟩⟩
    rwa [hended.ahead_eq, List.count_nil, Nat.add_zero] at honce
  · intro key text e edges hon hparse hedges written spreading
    refine ⟨Descent.exists_ended spreading, fun w hsteps => ⟨?_, fun hended => ?_⟩⟩
    · rw [List.count_cons_self, Descent.never_again hsteps]
    · exact setFormula_eq hon hparse hedges w hsteps hended

/-- `A4` reads `A1` and `B1`, and `B1` reads `A4`, and `A2` and `A3` that read `A1`.  When `A1`
changes, `B1` is evaluated three times, but `A4` once; and so it is when its formula is set. -/
theorem direct_readers_once_circle :
    let a (row : Nat) : Key := ⟨⟨0⟩, ⟨row, 0⟩⟩
    let b : Key := ⟨⟨0⟩, ⟨0, 1⟩⟩
    let before := ((Session.start {}).run [.setValue (a 0) (.text "x"), .setFormula (a 1) "=A1",
      .setFormula (a 2) "=A1", .setFormula b "=A2&A3&A4"]).workbook
    let wb := (before.setFormula (a 3) "=A1&B1").workbook
    (∃ visited, (wb.propagate [a 0]).answer = .ok visited ∧ visited.count b = 3 ∧
        visited.count (a 3) = 1) ∧
      ∃ (written : Workbook) (visited : List Key), (a 3 :: visited).count (a 3) = 1 ∧
        wb = (written.recalculateEach (a 3 :: visited)).1.refreshFormats (a 3 :: visited) := by
  intro a b before wb
  constructor
  · have hreads : ∃ x ∈ [a 0], ∃ edge ∈ (wb.content (a 3)).edges, edge.target.covers x = true := by
      decide +kernel
    obtain ⟨⟨visited, hcount, hpropagate⟩, -⟩ :=
      (direct_readers_once wb).1 [a 0] (a 3) hreads
    have hanswer : (wb.propagate [a 0]).answer = .ok visited := by rw [hpropagate]
    have hmany : (wb.propagate [a 0]).answer.toOption.map (·.count b) = some 3 := by
      decide +kernel
    rw [hanswer] at hmany
    exact ⟨visited, hanswer, Option.some.inj hmany, hcount⟩
  · have hplace : (before.sheet? ⟨0⟩).any (fun s => (s.check (a 3).spot).isOk) = true := by
      decide +kernel
    have hbuilds : ((parse (formulaText "=A1&B1")).toOption.any fun e =>
        (before.edges (a 3) true e).isOk) = true := by
      decide +kernel
    clear_value before
    obtain ⟨s, hs, hcheck⟩ := (Option.any_eq_true _ _).mp hplace
    cases hparse : parse (formulaText "=A1&B1") with
    | error fault => rw [hparse] at hbuilds; cases hbuilds
    | ok e =>
      rw [hparse] at hbuilds
      change (before.edges (a 3) true e).isOk = true at hbuilds
      cases hedges : before.edges (a 3) true e with
      | error fault => rw [hedges] at hbuilds; cases hbuilds
      | ok edges =>
        obtain ⟨⟨w, hsteps, hended⟩, hmoments⟩ := (direct_readers_once before).2 (a 3) "=A1&B1" e
          edges ⟨s, hs, eq_ok_of_isOk hcheck⟩ hparse hedges
        obtain ⟨hcount, hset⟩ := hmoments w hsteps
        exact ⟨_, w.visited, hcount, congrArg Reply.workbook (hset hended).2⟩

end Workbook

end Spreadsheet
