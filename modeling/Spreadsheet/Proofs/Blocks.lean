/-
# A block at once and cell by cell

* Values can be written as a block, and the change of all its cells spreads once, or cell by cell,
  and each change spreads on its own.  Either way the same contents are written, so what is left
  behind differs in the results of formulas at most (`agrees_setEach`).
* Where every formula with edges is fresh along a graph without circles, the results are determined
  by the cells without edges (`Agrees.content_eq_of_fresh`).
* A block leaves every formula with edges fresh if scan order follows the graph wherever its change
  comes by (`edgesFresh_writeValues`).  Cell by cell there are formulas in the way that are written
  over only later.  What follows from such a formula may be stale in between.  It is evaluated
  again when the formula is written over, and all else is kept fresh (`edgesFresh_setEach`).
* So both ways end alike (`setValues_eq_setEach`).  They need not if scan order does not follow the
  graph among the readers of the block (`setValues_ne_setEach`), nor if it does not among the readers
  of a cell behind it (`setValues_ne_setEach_behind`).
-/
import Mathlib.Data.Set.Finite.List
import Mathlib.Order.WellFounded
import Spreadsheet.Proofs.FullRecalculation
import Spreadsheet.Proofs.Spread

namespace Spreadsheet

open Grid Formula Conditional
open Relation (TransGen ReflTransGen)

/-! ## 1. Along the graph -/

namespace Graph

variable {g f : Graph} {changed : List Key} {c k x y : Key}

/-- **A graph without circles can be gone through from what formulas read to the formulas.** -/
theorem wellFounded_step (h : g.Acyclic) : WellFounded g.Step := by
  let Listed := {k // k ∈ g.map (·.1)}
  have : Finite Listed := List.finite_toSet _
  have : IsTrans Listed fun x k => TransGen g.Step x.1 k.1 := ⟨fun _ _ _ => TransGen.trans⟩
  have : Std.Irrefl fun x k : Listed => TransGen g.Step x.1 k.1 := ⟨fun k => h k.1⟩
  have hwf := Finite.wellFounded_of_trans_of_irrefl fun x k : Listed => TransGen g.Step x.1 k.1
  -- A cell that is not listed reads nothing.
  have hother {k : Key} (hk : k ∈ g.map (·.1) → Acc g.Step k) : Acc g.Step k := by
    by_cases hlisted : k ∈ g.map (·.1)
    · exact hk hlisted
    · exact ⟨_, fun x hstep => absurd (mem_keys_of_mem_readers hstep) hlisted⟩
  have hlisted (k : Listed) : Acc g.Step k.1 := by
    induction k using hwf.induction with
    | _ k ih => exact ⟨_, fun x hstep => hother fun hx => ih ⟨x, hx⟩ (.single hstep)⟩
  exact ⟨fun k => hother fun hk => hlisted ⟨k, hk⟩⟩

/-- **A way that leads to a cell can be gone in another graph** if the formulas that are read
differently there do not lead to the cell. -/
theorem transGen_of_untainted {rest : List Key} {e : Key}
    (hstep : ∀ x k, k ∉ rest → g.Step x k → f.Step x k)
    (hrest : ∀ r ∈ rest, ¬ ReflTransGen g.Step r e) (hxk : TransGen g.Step x k)
    (hke : ReflTransGen g.Step k e) : TransGen f.Step x k := by
  induction hxk with
  | single h => exact .single (hstep _ _ (fun hmem => hrest _ hmem hke) h)
  | tail _ h ih =>
    exact (ih (.head h hke)).tail (hstep _ _ (fun hmem => hrest _ hmem hke) h)

/-- **What is in order for a change is so for a part of the change in another graph** if the formulas
that are read differently there do not lead to the cell in question. -/
theorem InOrderFor.of_untainted {part rest : List Key} {e : Key} (h : f.InOrderFor changed e)
    (hpart : ∀ c ∈ part, c ∈ changed) (hstep : ∀ x k, k ∉ rest → g.Step x k → f.Step x k)
    (hrest : ∀ r ∈ rest, ¬ ReflTransGen g.Step r e) : g.InOrderFor part e := by
  have hlift {x k : Key} (hxk : g.Step x k) (hke : ReflTransGen g.Step k e) : f.Step x k :=
    hstep x k (fun hmem => hrest k hmem hke) hxk
  have hreaders {cells : List Key} {k : Key} (hk : k ∈ g.readers cells)
      (hke : ReflTransGen g.Step k e) : k ∈ f.readers cells := by
    obtain ⟨c, hc, hck⟩ := mem_readers_iff.mp hk
    exact mem_readers_iff.mpr ⟨c, hc, hlift hck hke⟩
  have hsub {k : Key} (hk : k ∈ f.readers part) : k ∈ f.readers changed := by
    obtain ⟨c, hc, hck⟩ := mem_readers_iff.mp hk
    exact mem_readers_iff.mpr ⟨c, hpart c hc, hck⟩
  constructor
  · intro d hd he hde
    exact h.of_changed d (hsub (hreaders hd hde.to_reflTransGen)) (hsub (hreaders he .refl))
      (transGen_of_untainted hstep hrest hde .refl)
  · intro c hc x hcx d hd he hde
    have hxe : ReflTransGen g.Step x e := .single he
    exact h.of_following c (hpart c hc) x (transGen_of_untainted hstep hrest hcx hxe) d
      (hreaders hd hde.to_reflTransGen) (hreaders he .refl)
      (transGen_of_untainted hstep hrest hde .refl)

theorem InOrder.congr (h : f.InOrder changed) (hstep : g.Step = f.Step) : g.InOrder changed := by
  intro e
  have hnone : ∀ r ∈ ([] : List Key), ¬ ReflTransGen g.Step r e := by simp
  exact (h e).of_untainted (fun _ hc => hc) (fun _ _ _ hxk => hstep ▸ hxk) hnone

theorem Acyclic.congr (h : f.Acyclic) (hstep : g.Step = f.Step) : g.Acyclic := by
  rwa [Acyclic, hstep]

/-- A way in a graph is one in a graph that differs from it in what one cell reads, or at least its
part behind that cell is. -/
theorem reflTransGen_or (hstep : ∀ x k, k ≠ c → g.Step x k → f.Step x k)
    (hxk : ReflTransGen g.Step x k) :
    ReflTransGen f.Step x k ∨ ReflTransGen f.Step c k := by
  induction hxk with
  | refl => exact .inl .refl
  | @tail y k _ h ih =>
    by_cases hk : k = c
    · exact .inr (hk ▸ .refl)
    · exact ih.imp (fun hxy => hxy.tail (hstep y k hk h)) fun hcy => hcy.tail (hstep y k hk h)

/-- What follows from a change is visited. -/
theorem mem_visits_of_transGen (hc : c ∈ changed) (hck : TransGen g.Step c k) :
    k ∈ g.visits [] changed :=
  (isLeast_visits g changed).1.mem_of_transGen hc hck

end Graph

namespace Workbook

variable {wb wb' : Workbook} {key : Key}

/-! ## 2. Workbooks that differ in results -/

/-- **Workbooks that agree up to the results of formulas** and styles. -/
structure Agrees (wb wb' : Workbook) : Prop where
  layout_eq : wb'.layout = wb.layout
  content_eq : ∀ key result,
    (wb'.content key).withResult result = (wb.content key).withResult result

theorem Agrees.refl (wb : Workbook) : Agrees wb wb := ⟨rfl, fun _ _ => rfl⟩

theorem Agrees.symm (h : Agrees wb wb') : Agrees wb' wb :=
  ⟨h.layout_eq.symm, fun key result => (h.content_eq key result).symm⟩

theorem Agrees.trans {wb'' : Workbook} (h : Agrees wb wb') (h' : Agrees wb' wb'') :
    Agrees wb wb'' :=
  ⟨h'.layout_eq.trans h.layout_eq,
    fun key result => (h'.content_eq key result).trans (h.content_eq key result)⟩

theorem Agrees.sameFormulas (h : Agrees wb wb') : SameFormulas wb wb' where
  layout_eq := h.layout_eq
  expr_eq key := by
    have hexpr := congrArg Content.expr? (h.content_eq key (.value .empty))
    simpa using hexpr
  edges_eq key := by
    have hedges := congrArg Content.edges (h.content_eq key (.value .empty))
    simpa using hedges

/-- Where there is no formula there is no result to differ in. -/
theorem Agrees.content_eq_of_plain (h : Agrees wb wb') (hplain : (wb.content key).expr? = none) :
    wb'.content key = wb.content key := by
  have hkeep {content : Content} (hnone : content.expr? = none) (result : Result) :
      content.withResult result = content := by
    cases content with
    | formula => cases hnone
    | value => rfl
    | unparsed => rfl
    | discarded => rfl
  have hplain' := (h.sameFormulas.expr_eq key).trans hplain
  rw [← hkeep hplain (.value .empty), ← h.content_eq, hkeep hplain']

/-- Spreading a change leaves results behind. -/
theorem agrees_spreadChange (wb : Workbook) (changed : List Key) (stack : List (List Key)) :
    Agrees wb (wb.spreadChange changed stack) where
  layout_eq := by
    rw [spreadChange, refreshFormats, layout_applyFormats]
    exact (sameFormulas_recalculateEach _ wb).layout_eq
  content_eq key result := by
    rw [spreadChange, refreshFormats, content_applyFormats]
    rcases exists_content_recalculateEach (wb.graph.visits stack changed) wb key with h | ⟨r, h⟩
    · rw [h]
    · rw [h, Content.withResult_withResult]

/-- Writing the same keeps workbooks in agreement. -/
theorem Agrees.writeAny (h : Agrees wb wb') (hon : wb.Has key) (content : Content) :
    Agrees (wb.writeAny key content) (wb'.writeAny key content) where
  layout_eq := by rw [layout_writeAny, layout_writeAny, h.layout_eq]
  content_eq j result := by
    by_cases hj : key = j
    · subst hj
      rw [content_writeAny_self hon, content_writeAny_self (hon.congr h.layout_eq.symm)]
    · rw [content_writeAny_of_ne _ _ hj, content_writeAny_of_ne _ _ hj, h.content_eq]

/-- A cell without edges has no turn. -/
theorem content_spreadChange_of_edges (changed : List Key) (stack : List (List Key))
    (h : (wb.content key).edges = []) :
    (wb.spreadChange changed stack).content key = wb.content key := by
  rw [spreadChange, refreshFormats, content_applyFormats]
  exact (spares_recalculateEach (fun hmem => edges_ne_nil_of_mem_visits hmem h) wb).content_eq

/-- **Every formula with edges is accounted for by them.** -/
def Accounted (wb : Workbook) : Prop :=
  ∀ key, (wb.content key).edges ≠ [] → ∃ e, wb.Sound key e

theorem Reachable.accounted (h : wb.Reachable) (hcalls : wb.NoIndirect) : wb.Accounted := by
  intro key hne
  obtain ⟨e, he⟩ := Content.exists_expr_of_edges hne
  exact ⟨e, he, hcalls key e he, h.tracked.edges_eq_ok he hne⟩

theorem Accounted.congr (h : wb.Accounted) (hsame : SameFormulas wb wb') : wb'.Accounted := by
  intro key hne
  rw [hsame.edges_eq] at hne
  obtain ⟨e, hs⟩ := h key hne
  exact ⟨e, hsame.sound hs⟩

/-- Writing a value takes edges away. -/
theorem Accounted.writeValue (h : wb.Accounted) (hon : wb.Has key) (v : Value) :
    (wb.writeAny key (.value v)).Accounted := by
  intro j hne
  by_cases hj : key = j
  · subst hj
    rw [content_writeAny_self hon] at hne
    exact absurd rfl hne
  · have hcontent := content_writeAny_of_ne wb (.value v) hj
    rw [hcontent] at hne
    obtain ⟨e, hs⟩ := h j hne
    exact ⟨e, hs.congr (layout_writeAny wb key _) (by rw [hcontent]) (by rw [hcontent])⟩

/-- **Fresh results are determined** by what the cells without edges hold, if there are no circles:
by induction along the graph. -/
theorem Agrees.content_eq_of_fresh (h : Agrees wb wb') (hsound : wb.Accounted)
    (hacyclic : wb.graph.Acyclic)
    (hplain : ∀ key, (wb.content key).edges = [] → wb'.content key = wb.content key)
    (hfresh : wb.EdgesFresh) (hfresh' : wb'.EdgesFresh) (key : Key) :
    wb'.content key = wb.content key := by
  induction key using (Graph.wellFounded_step hacyclic).induction with
  | _ key ih =>
    by_cases hne : (wb.content key).edges = []
    · exact hplain key hne
    · have hne' : (wb'.content key).edges ≠ [] := by rwa [h.sameFormulas.edges_eq]
      obtain ⟨e, hs⟩ := hsound key hne
      have hs' := h.sameFormulas.sound hs
      have hsame : wb'.evaluate key e = wb.evaluate key e :=
        hs.evaluate_eq h.layout_eq fun x hx => value_eq_of_content (ih x hx)
      have hheld := (fresh_iff hs.expr_eq).mp (hfresh key hne)
      have hheld' := (fresh_iff hs'.expr_eq).mp (hfresh' key hne')
      rw [← hheld', hsame, h.content_eq, hheld]

/-! ## 3. Writing values -/

/-- Writes values, and does nothing else. -/
def writeValues (wb : Workbook) (kvs : List (Key × Value)) : Workbook :=
  kvs.foldl (fun wb kv => wb.writeAny kv.1 (.value kv.2)) wb

/-- **Sets values one cell at a time.** -/
def setEach (wb : Workbook) (kvs : List (Key × Value)) : Workbook :=
  kvs.foldl (fun wb kv => (wb.setValue kv.1 kv.2).workbook) wb

@[simp] theorem writeValues_cons (wb : Workbook) (kv : Key × Value) (kvs : List (Key × Value)) :
    wb.writeValues (kv :: kvs) = (wb.writeAny kv.1 (.value kv.2)).writeValues kvs := rfl

@[simp] theorem setEach_cons (wb : Workbook) (kv : Key × Value) (kvs : List (Key × Value)) :
    wb.setEach (kv :: kvs) = (wb.setValue kv.1 kv.2).workbook.setEach kvs := rfl

/-- Places stay places while values are written. -/
theorem has_writeAny {kvs : List (Key × Value)} (x : Key) (content : Content)
    (hon : ∀ kv ∈ kvs, wb.Has kv.1) : ∀ kv ∈ kvs, (wb.writeAny x content).Has kv.1 :=
  fun kv hkv => (hon kv hkv).congr (layout_writeAny wb x content).symm

theorem layout_writeValues (kvs : List (Key × Value)) (wb : Workbook) :
    (wb.writeValues kvs).layout = wb.layout := by
  induction kvs generalizing wb with
  | nil => rfl
  | cons kv kvs ih => rw [writeValues_cons, ih, layout_writeAny]

theorem content_writeValues_of_ne {kvs : List (Key × Value)} (h : ∀ kv ∈ kvs, kv.1 ≠ key)
    (wb : Workbook) : (wb.writeValues kvs).content key = wb.content key := by
  induction kvs generalizing wb with
  | nil => rfl
  | cons kv kvs ih =>
    rw [writeValues_cons, ih (fun kv' hkv' => h kv' (List.mem_cons_of_mem _ hkv')),
      content_writeAny_of_ne wb _ (h kv List.mem_cons_self)]

/-- A cell that values were written to holds one of them. -/
theorem exists_content_writeValues {kvs : List (Key × Value)} (hon : ∀ kv ∈ kvs, wb.Has kv.1)
    (hkey : key ∈ kvs.map (·.1)) : ∃ v, (wb.writeValues kvs).content key = .value v := by
  induction kvs generalizing wb with
  | nil => cases hkey
  | cons kv kvs ih =>
    have hon' := has_writeAny kv.1 (.value kv.2) fun kv' hkv' => hon kv' (List.mem_cons_of_mem _ hkv')
    rw [writeValues_cons]
    by_cases hlater : key ∈ kvs.map (·.1)
    · exact ih hon' hlater
    · obtain rfl : key = kv.1 := (List.mem_cons.mp hkey).resolve_right hlater
      have hne : ∀ kv' ∈ kvs, kv'.1 ≠ kv.1 :=
        fun kv' hkv' heq => hlater (List.mem_map.mpr ⟨kv', hkv', heq⟩)
      rw [content_writeValues_of_ne hne, content_writeAny_self (hon kv List.mem_cons_self)]
      exact ⟨kv.2, rfl⟩

theorem Accounted.writeValues {kvs : List (Key × Value)} (h : wb.Accounted)
    (hon : ∀ kv ∈ kvs, wb.Has kv.1) : (wb.writeValues kvs).Accounted := by
  induction kvs generalizing wb with
  | nil => exact h
  | cons kv kvs ih =>
    exact ih (h.writeValue (hon kv List.mem_cons_self) kv.2)
      (has_writeAny kv.1 _ fun kv' hkv' => hon kv' (List.mem_cons_of_mem _ hkv'))

theorem Agrees.writeValues {kvs : List (Key × Value)} (h : Agrees wb wb')
    (hon : ∀ kv ∈ kvs, wb.Has kv.1) : Agrees (wb.writeValues kvs) (wb'.writeValues kvs) := by
  induction kvs generalizing wb wb' with
  | nil => exact h
  | cons kv kvs ih =>
    exact ih (h.writeAny (hon kv List.mem_cons_self) _)
      (has_writeAny kv.1 _ fun kv' hkv' => hon kv' (List.mem_cons_of_mem _ hkv'))

theorem settings_spreadChange (wb : Workbook) (changed : List Key) (stack : List (List Key)) :
    (wb.spreadChange changed stack).settings = wb.settings := by
  have hturns (keys : List Key) (wb : Workbook) :
      (wb.recalculateEach keys).1.settings = wb.settings := by
    induction keys generalizing wb with
    | nil => rfl
    | cons key keys ih => rw [recalculateEach_cons_fst, ih, settings_recalculate]
  have hformats (formats : List (SheetId × Format)) (wb : Workbook) :
      (formats.foldl (fun wb f => wb.applyFormat f.1 f.2) wb).settings = wb.settings := by
    induction formats generalizing wb with
    | nil => rfl
    | cons f formats ih => exact ih _
  rw [spreadChange, refreshFormats, applyFormats]
  split
  · rw [hformats, hturns]
  · exact hturns _ wb

/-- A range has no more cells than its extents say. -/
theorem length_keysOf_le (sheet : SheetId) (range : Range) :
    (keysOf sheet range).length ≤ range.size := by
  have hlines (s : Span) (words : Nat) : (s.lines words).length ≤ s.count := by
    have hpos := s.count_pos
    rw [Span.lines, List.length_range', Span.last]
    omega
  rw [keysOf, List.length_map, Range.cells, List.length_flatMap]
  simp only [List.length_map, List.map_const', List.sum_replicate_nat]
  exact Nat.mul_le_mul (hlines _ _) (hlines _ _)

/-- **What setting the values of a range leaves behind.** -/
theorem workbook_setValues {sheet : SheetId} {range : Range} {values : List Value}
    (hauto : wb.settings.autoRecalculate = true)
    (hok : (wb.setValues sheet range values).answer = .ok ()) :
    (∀ key ∈ keysOf sheet range, wb.Has key) ∧
      ((keysOf sheet range).zip values).map (·.1) = keysOf sheet range ∧
      (wb.setValues sheet range values).workbook =
        (wb.writeValues ((keysOf sheet range).zip values)).spreadChange (keysOf sheet range) [] := by
  obtain ⟨s, hs, hcheck, hlength, hreply⟩ := exists_of_setValues hok
  have hsettings (kvs : List (Key × Value)) (wb : Workbook) :
      (wb.writeValues kvs).settings = wb.settings := by
    induction kvs generalizing wb with
    | nil => rfl
    | cons kv kvs ih => rw [writeValues_cons, ih, settings_writeAny]
  refine ⟨fun key hkey => has_of_checkRange hs hcheck hkey, ?_, ?_⟩
  · exact List.map_fst_zip (hlength ▸ length_keysOf_le sheet range)
  · rw [hreply]
    refine workbook_complete ?_ ..
    exact (congrArg Settings.autoRecalculate (hsettings _ wb)).trans hauto

/-! ## 4. What is fresh afterwards -/

/-- **After a change was spread, a formula is fresh that follows from it or was fresh already.** -/
theorem fresh_spreadChange {changed : List Key} {e : Expr} (hs : wb.Sound key e)
    (hself : ¬ wb.graph.Step key key) (horder : wb.graph.InOrderFor changed key)
    (hfresh : (∀ c ∈ changed, ¬ TransGen wb.graph.Step c key) → wb.Fresh key) :
    (wb.spreadChange changed []).Fresh key := by
  rw [spreadChange, refreshFormats]
  refine Fresh.applyFormats ?_ ((sameFormulas_recalculateEach _ wb).sound hs) _
  refine fresh_of_spread hself horder (fun hon => by cases hon) hs fun hunvisited => hfresh ?_
  intro c hc hck
  exact hunvisited (Graph.mem_visits_of_transGen hc hck)

/-- A formula that was fresh stays so while values are written into cells that it does not read. -/
theorem Fresh.writeValues {kvs : List (Key × Value)} {e : Expr} (h : wb.Fresh key)
    (hs : (wb.writeValues kvs).Sound key e) (hkey : ∀ kv ∈ kvs, kv.1 ≠ key)
    (hread : ∀ kv ∈ kvs, ¬ (wb.writeValues kvs).graph.Step kv.1 key) :
    (wb.writeValues kvs).Fresh key := by
  have hlayout := layout_writeValues kvs wb
  have hcontent := content_writeValues_of_ne hkey wb
  have hs' : wb.Sound key e := hs.congr hlayout.symm (by rw [hcontent]) (by rw [hcontent])
  refine h.congr hs' hlayout hcontent fun x hx => ?_
  refine value_eq_of_content (content_writeValues_of_ne (fun kv hkv heq => ?_) wb)
  rw [step_graph, ← hcontent, ← step_graph] at hx
  exact hread kv hkv (heq ▸ hx)

/-- **A block leaves every formula with edges fresh** if scan order follows the graph wherever its
change comes by. -/
theorem edgesFresh_writeValues {kvs : List (Key × Value)} (hsound : wb.Accounted)
    (hfresh : wb.EdgesFresh) (hon : ∀ kv ∈ kvs, wb.Has kv.1)
    (hacyclic : (wb.writeValues kvs).graph.Acyclic)
    (horder : (wb.writeValues kvs).graph.InOrder (kvs.map (·.1))) :
    ((wb.writeValues kvs).spreadChange (kvs.map (·.1)) []).EdgesFresh := by
  intro key hne
  rw [(agrees_spreadChange _ _ _).sameFormulas.edges_eq] at hne
  obtain ⟨e, hs⟩ := hsound.writeValues hon key hne
  have hkey : ∀ kv ∈ kvs, kv.1 ≠ key := by
    rintro kv hkv rfl
    obtain ⟨v, hv⟩ := exists_content_writeValues hon (List.mem_map_of_mem hkv)
    rw [hv] at hne
    exact hne rfl
  refine fresh_spreadChange hs (fun hself => hacyclic key (.single hself)) (horder key) fun hfree => ?_
  refine (hfresh key ?_).writeValues hs hkey fun kv hkv hstep => ?_
  · rwa [content_writeValues_of_ne hkey] at hne
  · exact hfree kv.1 (List.mem_map_of_mem hkv) (.single hstep)

/-- **Every formula with edges is fresh but for those that some cells lead to,** or that stand in
them. -/
def FreshBut (wb : Workbook) (rest : List Key) : Prop :=
  ∀ key, (wb.content key).edges ≠ [] → (∀ r ∈ rest, ¬ ReflTransGen wb.graph.Step r key) →
    wb.Fresh key

/-- **Writing one value and spreading its change:** of the formulas that cells still to be written
do not lead to, each one is fresh, because it follows from the change or was fresh before.  Scan
order is that of a graph in which only those cells may read less. -/
theorem FreshBut.spreadValue {x : Key} {rest changed : List Key} {f : Graph}
    (h : wb.FreshBut (x :: rest)) (hsound : wb.Accounted) (hon : wb.Has x) (v : Value)
    (hstep : ∀ y k, k ∉ rest → (wb.writeAny x (.value v)).graph.Step y k → f.Step y k)
    (hacyclic : f.Acyclic) (horder : f.InOrder changed) (hx : x ∈ changed) :
    ((wb.writeAny x (.value v)).spreadChange [x] []).FreshBut rest := by
  intro key hne hfree
  have hsame := (agrees_spreadChange (wb.writeAny x (.value v)) [x] []).sameFormulas
  rw [hsame.edges_eq] at hne
  rw [step_congr hsame.edges_eq] at hfree
  obtain ⟨e, hs⟩ := hsound.writeValue hon v key hne
  have hkey : x ≠ key := by
    rintro rfl
    rw [content_writeAny_self hon] at hne
    exact hne rfl
  have hself : ¬ (wb.writeAny x (.value v)).graph.Step key key := fun hself =>
    hacyclic key (.single (hstep key key (fun hmem => hfree key hmem .refl) hself))
  have hpart : ∀ c ∈ [x], c ∈ changed := by simpa using hx
  refine fresh_spreadChange hs hself ((horder key).of_untainted hpart hstep hfree) fun hunread => ?_
  -- The formula does not follow from what was written, so nothing of that kind led to it before.
  have hnot : ¬ ReflTransGen (wb.writeAny x (.value v)).graph.Step x key := by
    intro hreach
    rcases Relation.reflTransGen_iff_eq_or_transGen.mp hreach with rfl | hreach
    · exact hkey rfl
    · exact hunread x (List.mem_singleton_self x) hreach
  have hwrite : ∀ y k, k ≠ x → wb.graph.Step y k → (wb.writeAny x (.value v)).graph.Step y k := by
    intro y k hk hyk
    rwa [step_graph, content_writeAny_of_ne wb _ (Ne.symm hk), ← step_graph]
  have hbefore : ∀ r ∈ x :: rest, ¬ ReflTransGen wb.graph.Step r key := by
    intro r hr hreach
    rcases Graph.reflTransGen_or hwrite hreach with hreach | hreach
    · rcases List.mem_cons.mp hr with rfl | hr
      · exact hnot hreach
      · exact hfree r hr hreach
    · exact hnot hreach
  have hfresh : wb.Fresh key := by
    refine h key ?_ hbefore
    rwa [content_writeAny_of_ne wb _ hkey] at hne
  have hone : wb.writeAny x (.value v) = wb.writeValues [(x, v)] := rfl
  rw [hone] at hs hunread ⊢
  refine hfresh.writeValues hs (by simpa using hkey) fun kv hkv hread => ?_
  obtain rfl := List.mem_singleton.mp hkv
  exact hunread x (List.mem_singleton_self x) (.single hread)

/-- **Cell by cell every formula with edges is fresh in the end,** too. -/
theorem edgesFresh_setEach {f : Graph} {changed : List Key} (hacyclic : f.Acyclic)
    (horder : f.InOrder changed) {kvs : List (Key × Value)}
    (hauto : wb.settings.autoRecalculate = true) (hsound : wb.Accounted)
    (hon : ∀ kv ∈ kvs, wb.Has kv.1) (hpart : ∀ kv ∈ kvs, kv.1 ∈ changed)
    (hstep : ∀ y k, (wb.writeValues kvs).graph.Step y k → f.Step y k)
    (hfresh : wb.FreshBut (kvs.map (·.1))) : (wb.setEach kvs).EdgesFresh := by
  induction kvs generalizing wb with
  | nil => exact fun key hne => hfresh key hne nofun
  | cons kv kvs ih =>
    have honx := hon kv List.mem_cons_self
    have hrest : ∀ kv' ∈ kvs, (wb.writeAny kv.1 (.value kv.2)).Has kv'.1 :=
      has_writeAny kv.1 _ fun kv' hkv' => hon kv' (List.mem_cons_of_mem _ hkv')
    have hagrees := agrees_spreadChange (wb.writeAny kv.1 (.value kv.2)) [kv.1] []
    rw [setEach_cons, workbook_setValue_of_has hauto honx]
    refine ih ?_ ?_ (fun kv' hkv' => (hrest kv' hkv').congr hagrees.layout_eq.symm)
      (fun kv' hkv' => hpart kv' (List.mem_cons_of_mem _ hkv')) ?_ ?_
    · rw [settings_spreadChange, settings_writeAny, hauto]
    · exact (hsound.writeValue honx kv.2).congr hagrees.sameFormulas
    · intro y k hyk
      rw [step_congr (hagrees.writeValues hrest).sameFormulas.edges_eq] at hyk
      exact hstep y k hyk
    · refine FreshBut.spreadValue hfresh hsound honx kv.2 (fun y k hk hyk => hstep y k ?_) hacyclic
        horder (hpart kv List.mem_cons_self)
      rw [writeValues_cons, step_graph, content_writeValues_of_ne, ← step_graph]
      · exact hyk
      · exact fun kv' hkv' heq => hk (List.mem_map.mpr ⟨kv', hkv', heq⟩)

/-- **Cell by cell the same contents are written,** and what has no edges is the same. -/
theorem agrees_setEach {kvs : List (Key × Value)} (hauto : wb.settings.autoRecalculate = true)
    (hon : ∀ kv ∈ kvs, wb.Has kv.1) :
    Agrees (wb.writeValues kvs) (wb.setEach kvs) ∧
      ∀ key, ((wb.writeValues kvs).content key).edges = [] →
        (wb.setEach kvs).content key = (wb.writeValues kvs).content key := by
  induction kvs generalizing wb with
  | nil => exact ⟨.refl wb, fun _ _ => rfl⟩
  | cons kv kvs ih =>
    have hrest : ∀ kv' ∈ kvs, (wb.writeAny kv.1 (.value kv.2)).Has kv'.1 :=
      has_writeAny kv.1 _ fun kv' hkv' => hon kv' (List.mem_cons_of_mem _ hkv')
    have hspread := agrees_spreadChange (wb.writeAny kv.1 (.value kv.2)) [kv.1] []
    have hwritten := hspread.writeValues hrest
    rw [writeValues_cons, setEach_cons, workbook_setValue_of_has hauto (hon kv List.mem_cons_self)]
    obtain ⟨hagrees, hplain⟩ := ih (by rw [settings_spreadChange, settings_writeAny, hauto])
      fun kv' hkv' => (hrest kv' hkv').congr hspread.layout_eq.symm
    refine ⟨hwritten.trans hagrees, fun key hkey => ?_⟩
    rw [hplain key ((hwritten.sameFormulas.edges_eq key).trans hkey)]
    by_cases hmem : key ∈ kvs.map (·.1)
    · obtain ⟨v, hv⟩ := exists_content_writeValues hrest hmem
      exact hwritten.content_eq_of_plain (by rw [hv]; rfl)
    · have hne : ∀ kv' ∈ kvs, kv'.1 ≠ key :=
        fun kv' hkv' heq => hmem (List.mem_map.mpr ⟨kv', hkv', heq⟩)
      rw [content_writeValues_of_ne hne] at hkey
      rw [content_writeValues_of_ne hne, content_writeValues_of_ne hne,
        content_spreadChange_of_edges _ _ hkey]

/-! ## 5. The theorem -/

/-- **Writing a block ends like writing its cells one at a time, row by row.**  In a workbook that
there can be, let no formula call `INDIRECT` and every formula with edges be fresh.  If the values
are accepted, no formula then reads its own cell in one or several steps, and scan order follows the
graph among the readers of the block and among those of each cell behind it, then every cell has the
same status and the same value either way. -/
theorem setValues_eq_setEach (h : wb.Reachable) (hauto : wb.settings.autoRecalculate = true)
    (hcalls : wb.NoIndirect) (hfresh : wb.EdgesFresh) {sheet : SheetId} {range : Range}
    {values : List Value} (hok : (wb.setValues sheet range values).answer = .ok ())
    (hacyclic : (wb.setValues sheet range values).workbook.graph.Acyclic)
    (horder : (wb.setValues sheet range values).workbook.graph.InOrder (keysOf sheet range))
    (key : Key) :
    (wb.setValues sheet range values).workbook.status key =
        (wb.setEach ((keysOf sheet range).zip values)).status key ∧
      (wb.setValues sheet range values).workbook.value key =
        (wb.setEach ((keysOf sheet range).zip values)).value key := by
  obtain ⟨hplaces, hkeys, hblock⟩ := workbook_setValues hauto hok
  generalize (keysOf sheet range).zip values = kvs at *
  have hon : ∀ kv ∈ kvs, wb.Has kv.1 := fun kv hkv =>
    hplaces kv.1 (hkeys ▸ List.mem_map_of_mem hkv)
  rw [hblock] at hacyclic horder ⊢
  rw [← hkeys] at hacyclic horder ⊢
  have hspread := agrees_spreadChange (wb.writeValues kvs) (kvs.map (·.1)) []
  obtain ⟨heach, hplain⟩ := agrees_setEach hauto hon
  have hstep := step_congr hspread.sameFormulas.edges_eq
  have hacyclic' := hacyclic.congr hstep.symm
  have horder' := horder.congr hstep.symm
  have hsound := h.accounted hcalls
  have hblockFresh := edgesFresh_writeValues hsound hfresh hon hacyclic' horder'
  have heachFresh : (wb.setEach kvs).EdgesFresh :=
    edgesFresh_setEach hacyclic' horder' hauto hsound hon (fun _ hkv => List.mem_map_of_mem hkv)
      (fun _ _ hyk => hyk) fun key hne _ => hfresh key hne
  have hcontent : (wb.setEach kvs).content key =
      ((wb.writeValues kvs).spreadChange (kvs.map (·.1)) []).content key := by
    refine (hspread.symm.trans heach).content_eq_of_fresh
      ((hsound.writeValues hon).congr hspread.sameFormulas) hacyclic (fun key hne => ?_)
      hblockFresh heachFresh key
    rw [hspread.sameFormulas.edges_eq] at hne
    rw [hplain key hne, content_spreadChange_of_edges _ _ hne]
  exact ⟨congrArg Content.status hcontent.symm, congrArg Content.shown hcontent.symm⟩

/-- A block of two cells, the second of which held a formula; the formulas behind it read what stands
in front of them. -/
theorem setValues_eq_setEach_row :
    let wb := ((Session.start {}).run [.setValue ⟨⟨0⟩, ⟨0, 0⟩⟩ (.text "a"),
      .setFormula ⟨⟨0⟩, ⟨0, 1⟩⟩ "=A1", .setFormula ⟨⟨0⟩, ⟨0, 2⟩⟩ "=A1&B1",
      .setFormula ⟨⟨0⟩, ⟨0, 3⟩⟩ "=B1&C1"]).workbook
    let range : Range := .make 0 0 1 2
    let final := (wb.setValues ⟨0⟩ range [.text "x", .text "y"]).workbook
    wb.Reachable ∧ wb.settings.autoRecalculate = true ∧ wb.NoIndirect ∧ wb.EdgesFresh ∧
      (wb.setValues ⟨0⟩ range [.text "x", .text "y"]).answer = .ok () ∧ final.graph.Acyclic ∧
      final.graph.InOrder (keysOf ⟨0⟩ range) ∧
      (wb.setEach ((keysOf ⟨0⟩ range).zip [.text "x", .text "y"])).value ⟨⟨0⟩, ⟨0, 3⟩⟩ =
        .text "yxy" := by
  intro wb range final
  have hreach : wb.Reachable := ⟨_, _, rfl⟩
  have hfacts : wb.settings.autoRecalculate = true ∧
      (∀ key ∈ wb.formulaKeys, (wb.content key).expr?.all (fun e => !e.callsIndirect) = true) ∧
      (∀ r ∈ wb.graph, wb.Fresh r.1) ∧
      (wb.setValues ⟨0⟩ range [.text "x", .text "y"]).answer.isOk = true ∧
      (∀ r ∈ final.graph, ∀ t ∈ r.2, t.range = .single t.range.first ∧
        Key.Before ⟨t.sheet, t.range.first⟩ r.1) ∧
      final.value ⟨⟨0⟩, ⟨0, 3⟩⟩ = .text "yxy" := by decide +kernel
  obtain ⟨hauto, hcalls, hfresh, hok, hentries, hvalue⟩ := hfacts
  have hcalls : wb.NoIndirect := noIndirect_of_formulaKeys hcalls
  have hfresh : wb.EdgesFresh := edgesFresh_of_graph hfresh
  have hok := eq_ok_of_isOk hok
  have hbefore : ∀ x k, final.graph.Step x k → x.Before k :=
    fun _ _ hxk => Graph.forall_step_of_singles Key.Before hentries hxk
  have hacyclic := Graph.acyclic_of_before hbefore
  have horder := Graph.inOrder_of_before hbefore (keysOf ⟨0⟩ range)
  have hsame := setValues_eq_setEach hreach hauto hcalls hfresh hok hacyclic horder ⟨⟨0⟩, ⟨0, 3⟩⟩
  exact ⟨hreach, hauto, hcalls, hfresh, hok, hacyclic, horder, hsame.2.symm.trans hvalue⟩

/-- **A block may end differently if scan order does not follow the graph among its readers.**  `A2`
reads `B1` and `A3`, and `A3` reads `A1`.  When `A1` and `B1` are written together, `A2` and `A3` are
one frame, and `A2` is evaluated before `A3` and not again. -/
theorem setValues_ne_setEach :
    let wb := ((Session.start {}).run [.setValue ⟨⟨0⟩, ⟨0, 0⟩⟩ (.text "a"),
      .setValue ⟨⟨0⟩, ⟨0, 1⟩⟩ (.text "b"), .setFormula ⟨⟨0⟩, ⟨2, 0⟩⟩ "=A1",
      .setFormula ⟨⟨0⟩, ⟨1, 0⟩⟩ "=B1&A3"]).workbook
    let range : Range := .make 0 0 1 2
    let values : List Value := [.text "x", .text "y"]
    let block := wb.setValues ⟨0⟩ range values
    wb.Reachable ∧ wb.settings.autoRecalculate = true ∧ wb.NoIndirect ∧ wb.EdgesFresh ∧
      wb.graph.Acyclic ∧ block.answer = .ok () ∧ block.workbook.graph.Acyclic ∧
      ¬ ∀ key, block.workbook.status key =
          (wb.setEach ((keysOf ⟨0⟩ range).zip values)).status key ∧
        block.workbook.value key = (wb.setEach ((keysOf ⟨0⟩ range).zip values)).value key := by
  intro wb range values block
  let rank (k : Key) : Nat := if k.spot.row = 1 then 2 else if k.spot.row = 2 then 1 else 0
  have hfacts : wb.settings.autoRecalculate = true ∧
      (∀ key ∈ wb.formulaKeys, (wb.content key).expr?.all (fun e => !e.callsIndirect) = true) ∧
      (∀ r ∈ wb.graph, wb.Fresh r.1) ∧
      (∀ r ∈ wb.graph, ∀ t ∈ r.2, t.range = .single t.range.first ∧
        rank ⟨t.sheet, t.range.first⟩ < rank r.1) ∧
      block.answer.isOk = true ∧
      (∀ r ∈ block.workbook.graph, ∀ t ∈ r.2, t.range = .single t.range.first ∧
        rank ⟨t.sheet, t.range.first⟩ < rank r.1) ∧
      block.workbook.value ⟨⟨0⟩, ⟨1, 0⟩⟩ ≠
        (wb.setEach ((keysOf ⟨0⟩ range).zip values)).value ⟨⟨0⟩, ⟨1, 0⟩⟩ := by decide +kernel
  obtain ⟨hauto, hcalls, hfresh, hranked, hok, hranked', hvalue⟩ := hfacts
  exact ⟨⟨_, _, rfl⟩, hauto, noIndirect_of_formulaKeys hcalls, edgesFresh_of_graph hfresh,
    Graph.acyclic_of_singles rank hranked, eq_ok_of_isOk hok,
    Graph.acyclic_of_singles rank hranked', fun hall => hvalue (hall ⟨⟨0⟩, ⟨1, 0⟩⟩).2⟩

/-- A block may also end differently if scan order does not follow the graph among the readers of a
cell behind it.  Only `A4` reads the block; `A2` and `A3` read `A4`, and `A2` reads `A3`. -/
theorem setValues_ne_setEach_behind :
    let wb := ((Session.start {}).run [.setValue ⟨⟨0⟩, ⟨0, 0⟩⟩ (.text "a"),
      .setValue ⟨⟨0⟩, ⟨0, 1⟩⟩ (.text "b"), .setFormula ⟨⟨0⟩, ⟨3, 0⟩⟩ "=A1&B1",
      .setFormula ⟨⟨0⟩, ⟨2, 0⟩⟩ "=A4", .setFormula ⟨⟨0⟩, ⟨1, 0⟩⟩ "=A4&A3"]).workbook
    let range : Range := .make 0 0 1 2
    let values : List Value := [.text "x", .text "y"]
    let block := wb.setValues ⟨0⟩ range values
    wb.Reachable ∧ wb.EdgesFresh ∧ block.answer = .ok () ∧ block.workbook.graph.Acyclic ∧
      (∀ e, block.workbook.graph.ComesLast (keysOf ⟨0⟩ range) e) ∧
      block.workbook.value ⟨⟨0⟩, ⟨1, 0⟩⟩ = .text "xyab" ∧
      (wb.setEach ((keysOf ⟨0⟩ range).zip values)).value ⟨⟨0⟩, ⟨1, 0⟩⟩ = .text "xyxb" := by
  intro wb range values block
  let rank (k : Key) : Nat := if k.spot.row = 0 then 0 else 4 - k.spot.row
  have hfacts : (∀ r ∈ wb.graph, wb.Fresh r.1) ∧ block.answer.isOk = true ∧
      (∀ r ∈ block.workbook.graph, ∀ t ∈ r.2, t.range = .single t.range.first ∧
        rank ⟨t.sheet, t.range.first⟩ < rank r.1) ∧
      block.workbook.graph.readers (keysOf ⟨0⟩ range) = [⟨⟨0⟩, ⟨3, 0⟩⟩] ∧
      block.workbook.value ⟨⟨0⟩, ⟨1, 0⟩⟩ = .text "xyab" ∧
      (wb.setEach ((keysOf ⟨0⟩ range).zip values)).value ⟨⟨0⟩, ⟨1, 0⟩⟩ = .text "xyxb" := by
    decide +kernel
  obtain ⟨hfresh, hok, hranked, hreaders, hblock, heach⟩ := hfacts
  have hacyclic := Graph.acyclic_of_singles rank hranked
  refine ⟨⟨_, _, rfl⟩, edgesFresh_of_graph hfresh, eq_ok_of_isOk hok, hacyclic,
    fun e d hd he hde => ?_, hblock, heach⟩
  -- There is only one reader, and it does not read itself.
  rw [hreaders, List.mem_singleton] at hd he
  exact absurd (hd ▸ he ▸ hde) (hacyclic _)

end Workbook

end Spreadsheet
