/-
# When an edit leaves everything fresh

* A cell is *fresh* if evaluating it alone would change neither its status nor its value.  A formula
  that does not call `INDIRECT` is fresh or not by its own content and the values it reads
  (`Fresh.congr`).
* After cells were evaluated one after the other, a formula is fresh if nothing it reads was
  evaluated after its own last turn (`fresh_of_last`).
* After an edit whoever reads a visited cell is visited after it, if scan order follows the graph
  wherever the change comes by.  So the last turn of a formula comes after all turns of what it
  reads, and a formula without a turn reads nothing that had one (`fresh_of_spread`).
-/
import Spreadsheet.Proofs.Readers

namespace Spreadsheet

open Grid Formula Conditional
open Relation (TransGen)

namespace Workbook

variable {wb wb' : Workbook} {key : Key} {e : Expr}

/-! ## 1. Formulas that their edges account for -/

/-- **A formula that its edges account for:** it does not call `INDIRECT`, and its edges are those
that its mentions give it. -/
structure Sound (wb : Workbook) (key : Key) (e : Expr) : Prop where
  expr_eq : (wb.content key).expr? = some e
  calls_eq : e.callsIndirect = false
  edges_eq : wb.edges key true e = .ok (wb.content key).edges

theorem step_graph {x : Key} :
    wb.graph.Step x key ↔ ∃ edge ∈ (wb.content key).edges, edge.target.covers x = true := by
  rw [Graph.Step, ← dependents, mem_dependents]

/-- **Such a formula has the same outcome wherever what it reads has the same value.** -/
theorem Sound.evaluate_eq (hs : wb.Sound key e) (hlayout : wb'.layout = wb.layout)
    (hagree : ∀ x, wb.graph.Step x key → wb'.value x = wb.value x) :
    wb'.evaluate key e = wb.evaluate key e := by
  have hread := read_eq_of_edges hlayout.symm hs.edges_eq fun x hx =>
    (hagree x (step_graph.mpr hx)).symm
  refine (evaluate_congr ?_ ?_ hs.calls_eq hread).symm
  · rfl
  · exact namedRange?_eq hlayout.symm key.sheet

/-- What keeps the layout and the content of the cell keeps its formula sound. -/
theorem Sound.congr (hs : wb.Sound key e) (hlayout : wb'.layout = wb.layout)
    (hexpr : (wb'.content key).expr? = (wb.content key).expr?)
    (hedges : (wb'.content key).edges = (wb.content key).edges) : wb'.Sound key e where
  expr_eq := hexpr.trans hs.expr_eq
  calls_eq := hs.calls_eq
  edges_eq := by rw [Workbook.edges_eq hlayout, hedges, hs.edges_eq]

/-! ## 2. Fresh cells -/

/-- **A cell that is fresh:** evaluating it alone would change neither its status nor its value. -/
def Fresh (wb : Workbook) (key : Key) : Prop :=
  (wb.recalculate key).1.status key = wb.status key ∧
    (wb.recalculate key).1.value key = wb.value key

instance : Decidable (wb.Fresh key) := inferInstanceAs (Decidable (_ ∧ _))

/-- **A formula is fresh if it holds the outcome that it has now.** -/
theorem fresh_iff (he : (wb.content key).expr? = some e) :
    wb.Fresh key ↔
      (wb.content key).withResult (.ofOutcome (wb.evaluate key e)) = wb.content key := by
  have hafter := content_recalculate_self he
  have hstatus (wb : Workbook) : wb.status key = (wb.content key).status := rfl
  have hvalue (wb : Workbook) : wb.value key = (wb.content key).shown := rfl
  rw [Fresh, hstatus, hstatus, hvalue, hvalue, hafter]
  obtain ⟨text, edges, result, hcontent⟩ := Content.eq_formula_of_expr? he
  simp only [hcontent, Content.withResult, Content.status, Content.shown, Content.formula.injEq,
    true_and]
  constructor
  · rintro ⟨hstatus, hshown⟩
    exact Result.ext_shown hstatus hshown
  · intro h
    rw [h]
    exact ⟨rfl, rfl⟩

/-- A formula is fresh if its result is that of its outcome. -/
theorem fresh_iff_result {text : String} {e : Expr} {edges : List Edge} {result : Result}
    (hcontent : wb.content key = .formula text e edges result) :
    wb.Fresh key ↔ Result.ofOutcome (wb.evaluate key e) = result := by
  rw [fresh_iff (e := e) (by rw [hcontent]; rfl), hcontent, Content.withResult]
  simp

/-- **Whether a formula is fresh is a matter of its own content and of the values it reads.** -/
theorem Fresh.congr (h : wb.Fresh key) (hs : wb.Sound key e) (hlayout : wb'.layout = wb.layout)
    (hcontent : wb'.content key = wb.content key)
    (hagree : ∀ x, wb.graph.Step x key → wb'.value x = wb.value x) : wb'.Fresh key := by
  have he' : (wb'.content key).expr? = some e := by rw [hcontent, hs.expr_eq]
  rw [fresh_iff he', hcontent, hs.evaluate_eq hlayout hagree]
  exact (fresh_iff hs.expr_eq).mp h

/-- Cells with the same content have the same value. -/
theorem value_eq_of_content {x : Key} (h : wb'.content x = wb.content x) :
    wb'.value x = wb.value x :=
  congrArg Content.shown h

/-- A formula that does not read its own cell is fresh once it was evaluated. -/
theorem fresh_recalculate (hs : wb.Sound key e) (hself : ¬ wb.graph.Step key key) :
    (wb.recalculate key).1.Fresh key := by
  have hafter := content_recalculate_self hs.expr_eq
  have he' : ((wb.recalculate key).1.content key).expr? = some e := by
    rw [hafter, Content.expr?_withResult, hs.expr_eq]
  have hagree : ∀ x, wb.graph.Step x key → (wb.recalculate key).1.value x = wb.value x := by
    intro x hx
    refine value_eq_of_content (content_recalculate_of_ne wb ?_)
    rintro rfl
    exact hself hx
  rw [fresh_iff he', hs.evaluate_eq (layout_recalculate wb key) hagree, hafter,
    Content.withResult_withResult]

/-- **Evaluating a fresh formula changes no content.** -/
theorem Fresh.content_recalculate (h : wb.Fresh key) (he : (wb.content key).expr? = some e)
    (j : Key) : (wb.recalculate key).1.content j = wb.content j := by
  by_cases hj : key = j
  · subst hj
    rw [content_recalculate_self he]
    exact (fresh_iff he).mp h
  · exact content_recalculate_of_ne wb hj

/-! ## 3. Cells in a row -/

/-- **Workbooks that differ in values and styles only:** layout, formulas and edges are the same. -/
structure SameFormulas (wb wb' : Workbook) : Prop where
  layout_eq : wb'.layout = wb.layout
  expr_eq : ∀ key, (wb'.content key).expr? = (wb.content key).expr?
  edges_eq : ∀ key, (wb'.content key).edges = (wb.content key).edges

theorem SameFormulas.refl (wb : Workbook) : SameFormulas wb wb :=
  ⟨rfl, fun _ => rfl, fun _ => rfl⟩

theorem SameFormulas.trans {wb'' : Workbook} (h : SameFormulas wb wb')
    (h' : SameFormulas wb' wb'') : SameFormulas wb wb'' :=
  ⟨h'.layout_eq.trans h.layout_eq, fun k => (h'.expr_eq k).trans (h.expr_eq k),
    fun k => (h'.edges_eq k).trans (h.edges_eq k)⟩

/-- The same edges make the same steps. -/
theorem step_congr (h : ∀ key, (wb'.content key).edges = (wb.content key).edges) :
    wb'.graph.Step = wb.graph.Step := by
  funext x key
  rw [eq_iff_iff, step_graph, step_graph, h]

theorem SameFormulas.sound (h : SameFormulas wb wb') (hs : wb.Sound key e) : wb'.Sound key e :=
  hs.congr h.layout_eq (h.expr_eq key) (h.edges_eq key)

theorem sameFormulas_recalculate (wb : Workbook) (key : Key) :
    SameFormulas wb (wb.recalculate key).1 where
  layout_eq := layout_recalculate wb key
  expr_eq j := by
    rcases content_recalculate wb key j with h | ⟨result, h⟩
    · rw [h]
    · rw [h, Content.expr?_withResult]
  edges_eq j := by
    rcases content_recalculate wb key j with h | ⟨result, h⟩
    · rw [h]
    · rw [h, Content.edges_withResult]

theorem sameFormulas_recalculateEach (keys : List Key) (wb : Workbook) :
    SameFormulas wb (wb.recalculateEach keys).1 := by
  induction keys generalizing wb with
  | nil => exact .refl wb
  | cons key keys ih =>
    rw [recalculateEach_cons_fst]
    exact (sameFormulas_recalculate wb key).trans (ih _)

theorem sameFormulas_applyFormats (formats : List (SheetId × Format)) (wb : Workbook) :
    SameFormulas wb (wb.applyFormats formats) where
  layout_eq := layout_applyFormats formats wb
  expr_eq key := by rw [content_applyFormats]
  edges_eq key := by rw [content_applyFormats]

/-- Formats do not matter to freshness. -/
theorem Fresh.applyFormats (h : wb.Fresh key) (hs : wb.Sound key e)
    (formats : List (SheetId × Format)) : (wb.applyFormats formats).Fresh key :=
  h.congr hs (layout_applyFormats formats wb) (content_applyFormats formats wb key)
    fun x _ => value_eq_of_content (content_applyFormats formats wb x)

theorem Fresh.of_applyFormats {formats : List (SheetId × Format)}
    (h : (wb.applyFormats formats).Fresh key) (hs : wb.Sound key e) : wb.Fresh key :=
  h.congr ((sameFormulas_applyFormats formats wb).sound hs) (layout_applyFormats formats wb).symm
    (content_applyFormats formats wb key).symm
    fun x _ => value_eq_of_content (content_applyFormats formats wb x).symm

/-- **A formula is fresh in the end if nothing it reads has a turn at or after its own last one.** -/
theorem fresh_of_last (hs : wb.Sound key e) (pre : List Key) {post : List Key}
    (hself : ¬ wb.graph.Step key key) (hlast : key ∉ post)
    (hquiet : ∀ d ∈ post, ¬ wb.graph.Step d key) :
    (wb.recalculateEach (pre ++ key :: post)).1.Fresh key := by
  rw [recalculateEach_append_fst, recalculateEach_cons_fst]
  have hbefore := sameFormulas_recalculateEach pre wb
  have hturn := sameFormulas_recalculate (wb.recalculateEach pre).1 key
  have hsame := hbefore.trans hturn
  have hfresh : ((wb.recalculateEach pre).1.recalculate key).1.Fresh key := by
    refine fresh_recalculate (hbefore.sound hs) ?_
    rw [step_congr hbefore.edges_eq]
    exact hself
  refine hfresh.congr (hsame.sound hs) (sameFormulas_recalculateEach post _).layout_eq
    (spares_recalculateEach hlast _).content_eq fun x hx => ?_
  rw [step_congr hsame.edges_eq] at hx
  exact value_eq_of_content
    (spares_recalculateEach (fun hmem => hquiet x hmem hx) _).content_eq

/-! ## 4. The last turn -/

/-- Where an element of a list stands for the last time. -/
theorem exists_last {α : Type} [DecidableEq α] {a : α} : ∀ {l : List α}, a ∈ l →
    ∃ pre post, l = pre ++ a :: post ∧ a ∉ post
  | b :: l, h => by
    by_cases hmem : a ∈ l
    · obtain ⟨pre, post, rfl, hlast⟩ := exists_last hmem
      exact ⟨b :: pre, post, rfl, hlast⟩
    · rcases List.mem_cons.mp h with rfl | h
      · exact ⟨[], l, rfl, hmem⟩
      · exact absurd h hmem

/-- **After a change was spread, a formula is fresh if it had a turn or was fresh already.**  No cell
on the stack follows from what changed. -/
theorem fresh_of_spread {stack : List (List Key)} {changed : List Key}
    (hself : ¬ wb.graph.Step key key) (horder : wb.graph.InOrderFor changed key)
    (hstack : Graph.onStack stack key = true → ∀ c ∈ changed, ¬ TransGen wb.graph.Step c key)
    (hs : wb.Sound key e) (hfresh : key ∉ wb.graph.visits stack changed → wb.Fresh key) :
    (wb.recalculateEach (wb.graph.visits stack changed)).1.Fresh key := by
  have hfollows {pre post : List Key} {d : Key}
      (h : wb.graph.visits stack changed = pre ++ d :: post) (hstep : wb.graph.Step d key) :
      key ∈ post := by
    refine (Graph.step_follows wb.pairwise_graph horder h hstep).resolve_left fun hon => ?_
    have hd : d ∈ wb.graph.visits stack changed := by rw [h]; simp
    obtain ⟨c, hc, hreach⟩ := Graph.transGen_of_mem_visits hd
    exact hstack hon c hc (hreach.tail hstep)
  by_cases hkey : key ∈ wb.graph.visits stack changed
  · obtain ⟨pre, post, hsplit, hlast⟩ := exists_last hkey
    rw [hsplit]
    refine fresh_of_last hs pre hself hlast ?_
    intro d hd hstep
    obtain ⟨mid, post', rfl⟩ := List.append_of_mem hd
    have hsplit' : wb.graph.visits stack changed = (pre ++ key :: mid) ++ d :: post' := by
      rw [hsplit, List.append_assoc]
      rfl
    exact hlast (List.mem_append_right _ (List.mem_cons_of_mem _ (hfollows hsplit' hstep)))
  · -- Nothing that a formula without a turn reads had one.
    have hquiet : ∀ d, wb.graph.Step d key → d ∉ wb.graph.visits stack changed := by
      intro d hstep hd
      obtain ⟨pre, post, hsplit⟩ := List.append_of_mem hd
      refine hkey ?_
      rw [hsplit]
      exact List.mem_append_right _ (List.mem_cons_of_mem _ (hfollows hsplit hstep))
    refine (hfresh hkey).congr hs (sameFormulas_recalculateEach _ wb).layout_eq
      (spares_recalculateEach hkey wb).content_eq fun d hstep => ?_
    exact value_eq_of_content (spares_recalculateEach (hquiet d hstep) wb).content_eq

/-! ## 5. Edits -/

/-- No formula of the workbook calls `INDIRECT`. -/
def NoIndirect (wb : Workbook) : Prop :=
  ∀ key e, (wb.content key).expr? = some e → e.callsIndirect = false

theorem noIndirect_of_formulaKeys (h : ∀ key ∈ wb.formulaKeys,
    (wb.content key).expr?.all (fun e => !e.callsIndirect) = true) : wb.NoIndirect := by
  intro key e he
  have hall := h key (mem_formulaKeys.mpr (Content.isSome_formulaText? he))
  rw [he] at hall
  simpa using hall

/-- **Every formula with edges is fresh.** -/
def EdgesFresh (wb : Workbook) : Prop := ∀ key, (wb.content key).edges ≠ [] → wb.Fresh key

/-- **What cells show where every formula with edges is fresh:** the outcome that the formula has for
the values that the cells show by then. -/
theorem edgesFresh_iff : wb.EdgesFresh ↔ ∀ key e, (wb.content key).expr? = some e →
    (wb.content key).edges ≠ [] → wb.value key = (Result.ofOutcome (wb.evaluate key e)).shown ∧
      wb.status key = (Result.ofOutcome (wb.evaluate key e)).status := by
  have hheld {key : Key} {e : Expr} (he : (wb.content key).expr? = some e) : wb.Fresh key ↔
      wb.value key = (Result.ofOutcome (wb.evaluate key e)).shown ∧
        wb.status key = (Result.ofOutcome (wb.evaluate key e)).status := by
    obtain ⟨text, edges, result, hcontent⟩ := Content.eq_formula_of_expr? he
    have hvalue : wb.value key = result.shown := congrArg Content.shown hcontent
    have hstatus : wb.status key = result.status := congrArg Content.status hcontent
    rw [fresh_iff_result hcontent, hvalue, hstatus]
    exact ⟨fun h => h ▸ ⟨rfl, rfl⟩, fun h => Result.ext_shown h.2.symm h.1.symm⟩
  constructor
  · exact fun h key e he hne => (hheld he).mp (h key hne)
  · intro h key hne
    obtain ⟨e, he⟩ := Content.exists_expr_of_edges hne
    exact (hheld he).mpr (h key e he hne)

/-- The formulas with edges are those in the graph. -/
theorem edgesFresh_of_graph (h : ∀ r ∈ wb.graph, wb.Fresh r.1) : wb.EdgesFresh := by
  intro key hne
  have hmem : (key, (wb.content key).edges.map (·.target)) ∈ wb.graph := mem_graph.mpr ⟨hne, rfl⟩
  exact h (key, _) hmem

/-- **After one cell was written and the change was spread, every formula with edges is fresh again.**
The written cell itself is fresh from the start if it has edges. -/
theorem edgesFresh_of_write {written final : Workbook} {x : Key} {stack : List (List Key)}
    (hfresh : wb.EdgesFresh) (ht : written.Tracked) (hlayout : written.layout = wb.layout)
    (hothers : ∀ j, x ≠ j → written.content j = wb.content j)
    (hx : ∀ e, written.Sound x e → ¬ written.graph.Step x x → written.Fresh x)
    (hstack : ∀ k, Graph.onStack stack k = true → k = x)
    (hfinal : final = written.spreadChange [x] stack) (hcalls : final.NoIndirect)
    (hacyclic : final.graph.Acyclic) (hsib : final.graph.SiblingsInOrder) : final.EdgesFresh := by
  subst hfinal
  have hspread := sameFormulas_recalculateEach (written.graph.visits stack [x]) written
  have hsame : SameFormulas written (written.spreadChange [x] stack) :=
    hspread.trans (sameFormulas_applyFormats _ _)
  have hstep := step_congr hsame.edges_eq
  rw [Graph.Acyclic, hstep] at hacyclic
  rw [Graph.SiblingsInOrder, hstep] at hsib
  intro key hne
  rw [hsame.edges_eq] at hne
  obtain ⟨e, he⟩ := Content.exists_expr_of_edges hne
  have hs : written.Sound key e :=
    ⟨he, hcalls key e ((hsame.expr_eq key).trans he), ht.edges_eq_ok he hne⟩
  refine Fresh.applyFormats ?_ (hspread.sound hs) _
  have hidle (hon : Graph.onStack stack key = true) (c : Key) (hc : c ∈ [x]) :
      ¬ TransGen written.graph.Step c key := by
    obtain rfl := List.mem_singleton.mp hc
    rw [hstack key hon]
    exact hacyclic c
  refine fresh_of_spread (fun hself => hacyclic key (.single hself))
    (Graph.SiblingsInOrder.inOrder hsib x key) hidle hs fun hunvisited => ?_
  -- A formula without a turn does not read what was written.
  have hnot : ¬ written.graph.Step x key := by
    intro hstep
    cases hon : Graph.onStack stack key with
    | true => exact hidle hon x (List.mem_singleton_self x) (.single hstep)
    | false => exact hunvisited (Graph.mem_visits_of_mem_readers hstep hon)
  by_cases hkey : x = key
  · subst hkey
    exact hx e hs hnot
  · have hcontent := hothers key hkey
    have hs' : wb.Sound key e := hs.congr hlayout.symm (by rw [hcontent]) (by rw [hcontent])
    refine (hfresh key (hcontent ▸ hne)).congr hs' hlayout hcontent fun d hd => ?_
    refine value_eq_of_content (hothers d ?_)
    rintro rfl
    rw [step_graph, ← hcontent] at hd
    exact hnot (step_graph.mpr hd)

/-- **What setting a value leaves behind** in a place that is there. -/
theorem workbook_setValue_of_has (hauto : wb.settings.autoRecalculate = true) {x : Key}
    (hon : wb.Has x) (v : Value) :
    (wb.setValue x v).workbook = (wb.writeAny x (.value v)).spreadChange [x] [] := by
  obtain ⟨s, hs, hcheck⟩ := hon
  have hsheet : wb.sheet x.sheet = .ok s := by rw [sheet, hs]
  have hauto' : (wb.writeAny x (.value v)).settings.autoRecalculate = true := by
    rw [settings_writeAny, hauto]
  rw [setValue, hsheet, Reply.guard_ok, hcheck, Reply.guard_ok]
  exact workbook_complete hauto' ..

/-- **What setting a value leaves behind.** -/
theorem workbook_setValue (hauto : wb.settings.autoRecalculate = true) (x : Key) (v : Value) :
    (wb.setValue x v).workbook = wb ∨
      wb.Has x ∧ (wb.setValue x v).workbook = (wb.writeAny x (.value v)).spreadChange [x] [] := by
  by_cases hon : wb.Has x
  · exact .inr ⟨hon, workbook_setValue_of_has hauto hon v⟩
  · left
    unfold setValue
    cases hsheet : wb.sheet x.sheet with
    | error fault => rfl
    | ok s =>
      cases hcheck : s.check x.spot with
      | error fault =>
        rw [Reply.guard_ok, hcheck]
        rfl
      | ok u => exact absurd (has_of_check hsheet hcheck) hon

/-- **What setting a formula leaves behind:** what was there, the formula after its own evaluation,
or nothing in place of a formula that reads its own cell. -/
theorem workbook_setFormula (hauto : wb.settings.autoRecalculate = true) (x : Key)
    (text : String) :
    (wb.setFormula x text).workbook = wb ∨ wb.Has x ∧
      ((∃ content, wb.Plans x content ∧ (wb.setFormula x text).workbook =
          ((wb.writeAny x content).recalculate x).1.spreadChange [x] [[x]]) ∨
        (wb.setFormula x text).workbook = (wb.writeAny x .discarded).spreadChange [x] [[x]]) := by
  unfold setFormula
  cases hsheet : wb.sheet x.sheet with
  | error fault => exact .inl rfl
  | ok s =>
    cases hcheck : s.check x.spot with
    | error fault =>
      rw [Reply.guard_ok, hcheck]
      exact .inl rfl
    | ok u =>
      rw [Reply.guard_ok, hcheck, Reply.guard_ok]
      have hon := has_of_check hsheet hcheck
      dsimp only
      cases hcontent : wb.contentOf x text with
      | ok content =>
        refine .inr ⟨hon, .inl ⟨content, plans_of_contentOf hcontent, ?_⟩⟩
        rw [writeAny_of_contentOf hcontent]
        refine workbook_complete ?_ ..
        rw [settings_recalculate]
        exact hauto
      | error fault =>
        cases fault with
        | ownCell sheet spot =>
          have hauto' : (wb.writeAny x .discarded).settings.autoRecalculate = true := by
            rw [settings_writeAny, hauto]
          exact .inr ⟨hon, .inr (workbook_complete hauto' ..)⟩
        | beyondSheet sheet range => exact .inl rfl

/-- **Propagation is exact if scan order follows the graph among the readers of each cell.**  In a
workbook that there can be, let every formula with edges be fresh.  After a value or a formula was
set, whether it was accepted or not, every formula with edges is fresh again, if by then no formula
calls `INDIRECT` or reads its own cell in one or several steps. -/
theorem edgesFresh_of_set (h : wb.Reachable) (hauto : wb.settings.autoRecalculate = true)
    (hfresh : wb.EdgesFresh) {x : Key} {wb' : Workbook}
    (hset : (∃ v, wb' = (wb.setValue x v).workbook) ∨
      ∃ text, wb' = (wb.setFormula x text).workbook)
    (hcalls : wb'.NoIndirect) (hacyclic : wb'.graph.Acyclic)
    (hsib : wb'.graph.SiblingsInOrder) : wb'.EdgesFresh := by
  have ht := h.tracked
  have hwrite (content : Content) (j : Key) (hj : x ≠ j) :
      (wb.writeAny x content).content j = wb.content j := content_writeAny_of_ne wb content hj
  -- A cell that was written without edges needs no turn.
  have hnone {content : Content} (hon : wb.Has x) (hnone : content.expr? = none) (e : Expr)
      (hs : (wb.writeAny x content).Sound x e) : (wb.writeAny x content).Fresh x := by
    have he := hs.expr_eq
    rw [content_writeAny_self hon, hnone] at he
    cases he
  rcases hset with ⟨v, rfl⟩ | ⟨text, rfl⟩
  · rcases workbook_setValue hauto x v with hkeep | ⟨hon, hspread⟩
    · rw [hkeep]
      exact hfresh
    · exact edgesFresh_of_write hfresh (ht.writeAny hon (.value v)) (layout_writeAny ..) (hwrite _)
        (fun e hs _ => hnone hon rfl e hs) (by simp [Graph.onStack]) hspread hcalls hacyclic hsib
  · rcases workbook_setFormula hauto x text with hkeep | ⟨hon, ⟨content, hplan, hspread⟩ | hspread⟩
    · rw [hkeep]
      exact hfresh
    · have htw := ht.writeAny hon hplan
      refine edgesFresh_of_write hfresh (htw.recalculate x) ?_ ?_ ?_ (by simp [Graph.onStack])
        hspread hcalls hacyclic hsib
      · rw [layout_recalculate, layout_writeAny]
      · intro j hj
        rw [content_recalculate_of_ne _ hj, hwrite content j hj]
      · intro e hs hself
        have hsame := sameFormulas_recalculate (wb.writeAny x content) x
        rw [step_congr hsame.edges_eq] at hself
        exact fresh_recalculate (hs.congr hsame.layout_eq.symm (hsame.expr_eq x).symm
          (hsame.edges_eq x).symm) hself
    · exact edgesFresh_of_write hfresh (ht.writeAny hon .discarded) (layout_writeAny ..) (hwrite _)
        (fun e hs _ => hnone hon rfl e hs) (by simp [Graph.onStack]) hspread hcalls hacyclic hsib

/-- `B1` reads `A1`, and `C1` reads both; then `A1` is set.  Each of the two shows what its formula
comes to for what the cells show. -/
theorem edgesFresh_of_set_chain :
    let wb := ((Session.start {}).run [.setFormula ⟨⟨0⟩, ⟨0, 1⟩⟩ "=A1",
      .setFormula ⟨⟨0⟩, ⟨0, 2⟩⟩ "=A1+B1"]).workbook
    let wb' := (wb.setValue ⟨⟨0⟩, ⟨0, 0⟩⟩ (.number 1)).workbook
    wb.Reachable ∧ wb.settings.autoRecalculate = true ∧ wb.EdgesFresh ∧ wb'.NoIndirect ∧
      wb'.graph.Acyclic ∧ wb'.graph.SiblingsInOrder ∧ wb'.EdgesFresh ∧
      ∀ key e, (wb'.content key).expr? = some e → (wb'.content key).edges ≠ [] →
        wb'.value key = (Result.ofOutcome (wb'.evaluate key e)).shown := by
  intro wb wb'
  have hreach : wb.Reachable := ⟨_, _, rfl⟩
  have hauto : wb.settings.autoRecalculate = true := by decide +kernel
  have hfresh : wb.EdgesFresh := edgesFresh_of_graph (by decide +kernel)
  have hcalls : wb'.NoIndirect := noIndirect_of_formulaKeys (by decide +kernel)
  -- The formulas stand in one row and read what is left of them.
  have hentries : ∀ r ∈ wb'.graph, ∀ t ∈ r.2, t.range = .single t.range.first ∧
      r.1.sheet = ⟨0⟩ ∧ r.1.spot.row = 0 ∧ t.range.first.col < r.1.spot.col := by decide +kernel
  have hstep : ∀ x k, wb'.graph.Step x k →
      k.sheet = ⟨0⟩ ∧ k.spot.row = 0 ∧ x.spot.col < k.spot.col :=
    fun x k hxk => Graph.forall_step_of_singles (fun x k =>
      k.sheet = ⟨0⟩ ∧ k.spot.row = 0 ∧ x.spot.col < k.spot.col) hentries hxk
  have hcol : ∀ x k, wb'.graph.Step x k → x.spot.col < k.spot.col :=
    fun x k hxk => (hstep x k hxk).2.2
  have hacyclic : wb'.graph.Acyclic := Graph.acyclic_of_lt hcol
  have hsib : wb'.graph.SiblingsInOrder := by
    intro x d e hd he hde
    obtain ⟨hdsheet, hdrow, -⟩ := hstep x d hd
    obtain ⟨hesheet, herow, -⟩ := hstep x e he
    have hlt : d.spot.col < e.spot.col := Graph.lt_of_transGen hcol hde
    exact .inr ⟨hdsheet.trans hesheet.symm, .inr ⟨hdrow.trans herow.symm, hlt⟩⟩
  have hafter : wb'.EdgesFresh :=
    edgesFresh_of_set hreach hauto hfresh (.inl ⟨_, rfl⟩) hcalls hacyclic hsib
  exact ⟨hreach, hauto, hfresh, hcalls, hacyclic, hsib, hafter,
    fun key e he hne => (edgesFresh_iff.mp hafter key e he hne).1⟩

end Workbook

end Spreadsheet
