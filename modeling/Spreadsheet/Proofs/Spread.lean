/-
# What a change reaches

* A cell that is being worked on further up is left out of the walk.  It stands in a frame all of
  whose cells get their turns, so whoever reads a visited cell is visited, too, whatever circles
  there are (`mem_visits_of_step`).
* So the visited cells are the least set that holds the readers of what changed and the readers of
  its own members (`isLeast_visits`).
* The turns change results and nothing else, and only of the cells that have one.
-/
import Mathlib.Order.Bounds.Defs
import Spreadsheet.Proofs.Freshness

namespace Spreadsheet

open Grid Formula

namespace Graph

variable {g : Graph} {stack : List (List Key)} {changed : List Key} {x d e k : Key}

/-! ## 1. Closed sets -/

/-- **A set of cells that a change does not lead out of:** it holds the readers of what changed and
the readers of its members. -/
structure Closed (g : Graph) (changed : List Key) (cells : Set Key) : Prop where
  of_changed : ∀ x ∈ changed, ∀ k, g.Step x k → k ∈ cells
  of_member : ∀ x ∈ cells, ∀ k, g.Step x k → k ∈ cells

theorem Closed.mem_of_transGen {cells : Set Key} (h : g.Closed changed cells) (hx : x ∈ changed)
    (hxk : Relation.TransGen g.Step x k) : k ∈ cells := by
  induction hxk with
  | single hstep => exact h.of_changed x hx _ hstep
  | tail _ hstep ih => exact h.of_member _ ih _ hstep

/-- The cells of a frame are visited, and so is what is visited from one of them. -/
theorem mem_visits_of_mem_frame (hk : k ∈ g.frame stack changed)
    (hd : d = k ∨ d ∈ g.visits (g.frame stack changed :: stack) [k]) :
    d ∈ g.visits stack changed := by
  rw [visits_eq]
  exact List.mem_flatMap.mpr ⟨k, hk, List.mem_cons.mpr hd⟩

/-- **Whoever reads a visited cell is visited,** unless it is being worked on further up. -/
theorem mem_visits_of_step (hd : d ∈ g.visits stack changed) (he : g.Step d e) :
    onStack stack e = true ∨ e ∈ g.visits stack changed := by
  induction stack, changed using visits.induct g with
  | case1 stack changed ih =>
    rw [visits_eq] at hd
    obtain ⟨top, htop, hd⟩ := List.mem_flatMap.mp hd
    have hinner : onStack (g.frame stack changed :: stack) e = true ∨
        e ∈ g.visits (g.frame stack changed :: stack) [top] := by
      rcases List.mem_cons.mp hd with rfl | hd
      · cases hon : onStack (g.frame stack changed :: stack) e with
        | true => exact .inl rfl
        | false => exact .inr (mem_visits_of_mem_readers he hon)
      · exact ih top htop hd
    rcases hinner with hon | hmem
    · -- In this frame `e` has a turn of its own; further up it is the business of another frame.
      rcases onStack_cons.mp hon with hframe | hon
      · exact .inr (mem_visits_of_mem_frame hframe (.inl rfl))
      · exact .inl hon
    · exact .inr (mem_visits_of_mem_frame htop (.inr hmem))

/-- **The visited cells are the least closed set.** -/
theorem isLeast_visits (g : Graph) (changed : List Key) :
    IsLeast {cells | g.Closed changed cells} {k | k ∈ g.visits [] changed} := by
  refine ⟨⟨fun x hx k hstep => ?_, fun x hx k hstep => ?_⟩, fun cells hclosed k hk => ?_⟩
  · exact mem_visits_of_mem_readers (mem_readers_iff.mpr ⟨x, hx, hstep⟩) rfl
  · exact (mem_visits_of_step hx hstep).resolve_left Bool.false_ne_true
  · obtain ⟨x, hx, hxk⟩ := transGen_of_mem_visits hk
    exact hclosed.mem_of_transGen hx hxk

end Graph

namespace Workbook

variable {wb : Workbook} {key : Key}

/-! ## 2. Turns -/

/-- **A cell that is the same apart from the result of its formula.** -/
structure SameButResult (c c' : Cell) : Prop where
  text_eq : c'.content.formulaText? = c.content.formulaText?
  expr_eq : c'.content.expr? = c.content.expr?
  edges_eq : c'.content.edges = c.content.edges
  style_eq : c'.style = c.style
  baseline_eq : c'.baseline = c.baseline
  imposed_eq : c'.imposed = c.imposed

theorem SameButResult.refl (c : Cell) : SameButResult c c := ⟨rfl, rfl, rfl, rfl, rfl, rfl⟩

theorem SameButResult.trans {c c' c'' : Cell} (h : SameButResult c c')
    (h' : SameButResult c' c'') : SameButResult c c'' :=
  ⟨h'.text_eq.trans h.text_eq, h'.expr_eq.trans h.expr_eq, h'.edges_eq.trans h.edges_eq,
    h'.style_eq.trans h.style_eq, h'.baseline_eq.trans h.baseline_eq,
    h'.imposed_eq.trans h.imposed_eq⟩

theorem sameButResult_withResult (c : Cell) (result : Result) :
    SameButResult c { c with content := c.content.withResult result } :=
  ⟨by cases c.content <;> rfl, by simp, by simp, rfl, rfl, rfl⟩

/-- **A cell of the workbook that is there as it was,** apart from the result of its formula. -/
structure Undisturbed (wb wb' : Workbook) (key : Key) : Prop where
  isSome_eq : (wb'.cell? key).isSome = (wb.cell? key).isSome
  cell_same : SameButResult (wb.cell key) (wb'.cell key)

theorem undisturbed_recalculate (wb : Workbook) (key j : Key) :
    wb.Undisturbed (wb.recalculate key).1 j := by
  unfold recalculate
  split
  · exact ⟨rfl, .refl _⟩
  · rename_i e _
    have hcell := wb.cell?_mapContent key j (·.withResult (.ofOutcome (wb.evaluate key e)))
    split at hcell
    · refine ⟨by rw [hcell, Option.isSome_map], ?_⟩
      rw [cell, cell, hcell]
      cases wb.cell? j with
      | none => exact .refl _
      | some c => exact sameButResult_withResult c _
    · refine ⟨by rw [hcell], ?_⟩
      rw [cell, cell, hcell]
      exact .refl _

/-- **Turns change results only.** -/
theorem undisturbed_recalculateEach (keys : List Key) (wb : Workbook) (j : Key) :
    wb.Undisturbed (wb.recalculateEach keys).1 j := by
  induction keys generalizing wb with
  | nil => exact ⟨rfl, .refl _⟩
  | cons key keys ih =>
    rw [recalculateEach_cons_fst]
    have hturn := wb.undisturbed_recalculate key j
    have hrest := ih (wb.recalculate key).1
    exact ⟨hrest.isSome_eq.trans hturn.isSome_eq, hturn.cell_same.trans hrest.cell_same⟩

/-- A cell without a turn stays as it is. -/
theorem cell?_recalculateEach_of_not_mem {keys : List Key} (h : key ∉ keys) (wb : Workbook) :
    (wb.recalculateEach keys).1.cell? key = wb.cell? key := by
  induction keys generalizing wb with
  | nil => rfl
  | cons k keys ih =>
    rw [List.mem_cons, not_or] at h
    rw [recalculateEach_cons_fst, ih h.2, cell?_recalculate_of_ne wb (Ne.symm h.1)]

/-- Turns change at most the result of what a cell holds. -/
theorem exists_content_recalculateEach (keys : List Key) (wb : Workbook) (key : Key) :
    (wb.recalculateEach keys).1.content key = wb.content key ∨
      ∃ result, (wb.recalculateEach keys).1.content key = (wb.content key).withResult result := by
  induction keys generalizing wb with
  | nil => exact .inl rfl
  | cons k keys ih =>
    rw [recalculateEach_cons_fst]
    rcases ih (wb.recalculate k).1 with hrest | ⟨result, hrest⟩
    · rw [hrest]
      exact content_recalculate wb k key
    · rw [hrest]
      rcases content_recalculate wb k key with hturn | ⟨earlier, hturn⟩
      · exact .inr ⟨result, by rw [hturn]⟩
      · exact .inr ⟨result, by rw [hturn, Content.withResult_withResult]⟩

/-- **What a formula holds in the end is the outcome of its last turn.** -/
theorem content_recalculateEach_of_last {e : Expr} (he : (wb.content key).expr? = some e)
    (before : List Key) {after : List Key} (hlast : key ∉ after) :
    (wb.recalculateEach (before ++ key :: after)).1.content key =
      (wb.content key).withResult
        (.ofOutcome ((wb.recalculateEach before).1.evaluate key e)) := by
  have he' : ((wb.recalculateEach before).1.content key).expr? = some e := by
    rw [(sameFormulas_recalculateEach before wb).expr_eq, he]
  rw [recalculateEach_append_fst, recalculateEach_cons_fst,
    (spares_recalculateEach hlast _).content_eq, content_recalculate_self he']
  rcases exists_content_recalculateEach before wb key with hbefore | ⟨result, hbefore⟩
  · rw [hbefore]
  · rw [hbefore, Content.withResult_withResult]

/-- What has a turn has edges. -/
theorem edges_ne_nil_of_mem_visits {stack : List (List Key)} {changed : List Key}
    (h : key ∈ wb.graph.visits stack changed) : (wb.content key).edges ≠ [] := by
  obtain ⟨x, -, hreach⟩ := Graph.transGen_of_mem_visits h
  obtain ⟨y, -, hstep⟩ := Relation.TransGen.tail'_iff.mp hreach
  obtain ⟨edge, hedge, -⟩ := step_graph.mp hstep
  exact List.ne_nil_of_mem hedge

/-- **A formula that had a turn among others:** at the last one it was evaluated where those before
had left the workbook, and it holds that outcome in the end. -/
structure HadTurn (wb : Workbook) (turns : List Key) (final : Workbook) (key : Key) (e : Expr)
    (before after : List Key) : Prop where
  expr_eq : (wb.content key).expr? = some e
  turns_eq : turns = before ++ key :: after
  last : key ∉ after
  content_eq : final.content key =
    (wb.content key).withResult (.ofOutcome ((wb.recalculateEach before).1.evaluate key e))

/-! ## 3. Propagation -/

/-- **A set of cells that a change of the workbook does not lead out of:** it holds every cell with
an edge that covers a changed cell, and every cell with an edge that covers a member. -/
def Closed (wb : Workbook) (changed : List Key) (cells : Set Key) : Prop :=
  (∀ x ∈ changed, ∀ key, (∃ edge ∈ (wb.content key).edges, edge.target.covers x = true) →
    key ∈ cells) ∧
  ∀ x ∈ cells, ∀ key, (∃ edge ∈ (wb.content key).edges, edge.target.covers x = true) →
    key ∈ cells

theorem closed_iff {changed : List Key} {cells : Set Key} :
    wb.Closed changed cells ↔ wb.graph.Closed changed cells := by
  simp only [Closed, ← step_graph]
  exact ⟨fun h => ⟨h.1, h.2⟩, fun h => ⟨h.1, h.2⟩⟩

/-- **A change reaches exactly what depends on it.**  Whatever circles there are, the cells that
propagation answers are the least set that holds the readers of the changed cells and of its own
members.  Each of them has a turn.  No other cell is changed in any way, and of no cell anything
but the result of its formula. -/
theorem propagate_reaches (wb : Workbook) (changed : List Key) :
    ∃ visited, (wb.propagate changed).answer = .ok visited ∧
      IsLeast {cells | wb.Closed changed cells} {key | key ∈ visited} ∧
      (∀ key ∈ visited, ∃ e before after,
        wb.HadTurn visited (wb.propagate changed).workbook key e before after) ∧
      (∀ key, key ∉ visited → (wb.propagate changed).workbook.cell? key = wb.cell? key) ∧
      ∀ key, wb.Undisturbed (wb.propagate changed).workbook key ∧
        (wb.propagate changed).workbook.style key = wb.style key := by
  have hsame (key : Key) : wb.Undisturbed (wb.propagate changed).workbook key :=
    undisturbed_recalculateEach _ wb key
  refine ⟨wb.graph.visits [] changed, rfl, ?_, fun key hkey => ?_, fun key hkey => ?_,
    fun key => ⟨hsame key, (hsame key).cell_same.style_eq⟩⟩
  · simp only [closed_iff]
    exact wb.graph.isLeast_visits changed
  · obtain ⟨e, he⟩ := Content.exists_expr_of_edges (edges_ne_nil_of_mem_visits hkey)
    obtain ⟨before, after, hsplit, hlast⟩ := exists_last hkey
    refine ⟨e, before, after, he, hsplit, hlast, ?_⟩
    have hfinal := content_recalculateEach_of_last he before hlast
    rw [← hsplit] at hfinal
    exact hfinal
  · exact cell?_recalculateEach_of_not_mem hkey wb

end Workbook

end Spreadsheet
