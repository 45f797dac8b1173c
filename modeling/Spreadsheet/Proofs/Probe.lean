/-
# What a full recalculation needs

Workbooks are of one *shape* if they have the same layout, and formulas at the same places that read
the same cells.  Which turns a full recalculation takes is a matter of the shape.

* If every formula settles in these turns, then every workbook of the shape is left with fresh
  formulas only.  This is the easy half (`fresh_of_settles`).
* If one does not, then some workbook of the shape is left with a formula that is not fresh.  The
  workbook is built here: every formula becomes a *probe*, `OR(TRUE,...)` of what it mentioned, and
  starts with an error code.  A probe keeps the code as long as anything it reads shows one, so
  after any number of turns just those are clear of it that have settled (`showsSettled_turns`).
-/
import Mathlib.Data.Fintype.Card
import Mathlib.Data.List.Sort
import Mathlib.Data.Set.Finite.Basic
import Mathlib.Order.WellFounded
import Spreadsheet.Proofs.FullRecalculation

namespace Spreadsheet

open Grid Formula Conditional
open Relation (TransGen)

namespace Workbook

variable {wb wb' : Workbook} {key : Key} {e : Expr}

/-! ## 1. Shapes -/

/-- **Workbooks of one shape:** the layout is the same, and so are the places of formulas and the
edges of each.  What formulas make of the cells they read may differ, and so may all values. -/
structure SameShape (wb wb' : Workbook) : Prop where
  layout_eq : wb'.layout = wb.layout
  text_eq : ∀ key, (wb'.content key).formulaText?.isSome = (wb.content key).formulaText?.isSome
  formula_iff : ∀ key, wb'.HasFormula key ↔ wb.HasFormula key
  edges_eq : ∀ key, (wb'.content key).edges = (wb.content key).edges

/-- **The graph is a matter of the edges.** -/
theorem graph_eq_of_edges (h : ∀ key, (wb'.content key).edges = (wb.content key).edges) :
    wb'.graph = wb.graph := by
  have hirrefl : Std.Irrefl fun r s : Key × List Target => r.1.Before s.1 :=
    ⟨fun r => r.1.not_before_self⟩
  have hantisymm : Std.Antisymm fun r s : Key × List Target => r.1.Before s.1 :=
    ⟨fun r s hrs hsr => absurd hsr hrs.asymm⟩
  refine (List.pairwise_map.mp wb'.pairwise_graph).eq_of_mem_iff
    (List.pairwise_map.mp wb.pairwise_graph) fun r => ?_
  rw [mem_graph, mem_graph, h]

theorem SameShape.formulaKeys_eq (h : SameShape wb wb') : wb'.formulaKeys = wb.formulaKeys := by
  have hirrefl : Std.Irrefl Key.Before := ⟨Key.not_before_self⟩
  have hantisymm : Std.Antisymm Key.Before := ⟨fun k j hkj hjk => absurd hjk hkj.asymm⟩
  refine wb'.pairwise_formulaKeys.eq_of_mem_iff wb.pairwise_formulaKeys fun k => ?_
  rw [mem_formulaKeys, mem_formulaKeys, h.text_eq]

/-- **Workbooks of one shape take the same turns.** -/
theorem SameShape.turns_eq (h : SameShape wb wb') : wb'.turns = wb.turns := by
  rw [turns, turns, h.formulaKeys_eq, graph_eq_of_edges h.edges_eq]

theorem SameShape.acyclic (h : SameShape wb wb') (hacyclic : wb.graph.Acyclic) :
    wb'.graph.Acyclic := by
  rw [graph_eq_of_edges h.edges_eq]
  exact hacyclic

/-- **In workbooks of one shape the same formulas settle.** -/
theorem SameShape.settles (h : SameShape wb wb') {done : List Key} (hsettled : wb.Settles done key) :
    wb'.Settles done key := by
  induction hsettled with
  | turn _ ih =>
    refine .turn fun d hstep hd => ih d ?_ ((h.formula_iff d).mp hd)
    rw [← graph_eq_of_edges h.edges_eq]
    exact hstep

end Workbook

/-! ## 2. Probes and their edges -/

/-- A mention as a formula. -/
def Mention.expr : Mention → Expr
  | .ref sheet target => .ref sheet target
  | .name called => .name called

/-- **A probe:** a formula that is true unless what it mentions shows an error code. -/
def probe (ms : List Mention) : Expr := .call "OR" (.bool true :: ms.map Mention.expr)

theorem mentionsAll_map_expr (checked : Bool) (ms : List Mention) :
    mentionsAll checked (ms.map Mention.expr) = ms.map fun m => (m, checked) := by
  induction ms with
  | nil => rfl
  | cons m ms ih =>
    rw [List.map_cons, mentionsAll, ih]
    cases m <;> rfl

/-- A probe mentions what it was made of, each for its value. -/
theorem mentions_probe (ms : List Mention) :
    (probe ms).mentions true = ms.map fun m => (m, true) := by
  have hchecked : (true && !addressFunctions.contains "OR") = true := by decide
  rw [probe, Expr.mentions, hchecked, mentionsAll, mentionsAll_map_expr]
  rfl

theorem callsIndirect_probe (ms : List Mention) : (probe ms).callsIndirect = false := by
  have hcalled : (Function.find? "OR" == some .indirect) = false := by decide
  have hargs (ms : List Mention) : anyCallsIndirect (ms.map Mention.expr) = false := by
    induction ms with
    | nil => rfl
    | cons m ms ih =>
      rw [List.map_cons, anyCallsIndirect, ih]
      cases m <;> rfl
  rw [probe, Expr.callsIndirect, hcalled, anyCallsIndirect, hargs]
  rfl

namespace Workbook

variable {wb wb' : Workbook} {home key : Key} {e : Expr}

/-- Whether a mention resolves. -/
def resolves (wb : Workbook) (home : Key) (m : Mention) : Bool :=
  (wb.edge? home m).any fun edge => (wb.sheet? edge.target.sheet).isSome

theorem resolves_iff {m : Mention} :
    wb.resolves home m = true ↔ ∃ edge s, wb.Resolves home m edge s := by
  rw [resolves, Option.any_eq_true]
  constructor
  · rintro ⟨edge, hedge, hs⟩
    obtain ⟨s, hs⟩ := Option.isSome_iff_exists.mp hs
    exact ⟨edge, s, hedge, hs⟩
  · rintro ⟨edge, s, hedge, hs⟩
    exact ⟨edge, hedge, Option.isSome_iff_exists.mpr ⟨s, hs⟩⟩

/-- **What a formula mentions that resolves.** -/
def resolved (wb : Workbook) (home : Key) (e : Expr) : List Mention :=
  ((e.mentions true).map (·.1)).filter (wb.resolves home)

theorem mem_resolved {m : Mention} : m ∈ wb.resolved home e ↔
    (∃ c, (m, c) ∈ e.mentions true) ∧ ∃ edge s, wb.Resolves home m edge s := by
  simp [resolved, resolves_iff]

/-- A mention that may not be of the formula's own cell is accepted if it is not. -/
theorem addMention_checked {m : Mention} {edge : Edge} {s : Sheet} {c : Bool}
    {edges edges' : List Edge} (hres : wb.Resolves home m edge s)
    (hself : edge.target.covers home = false)
    (h : wb.addMention home edges (m, c) = .ok edges') :
    wb.addMention home edges (m, true) = .ok edges' := by
  rw [addMention_of_resolves hres] at h ⊢
  obtain ⟨u, hadm, rfl⟩ := map_eq_ok_iff.mp h
  have hadm' : admission home true edge s = .ok () := by
    rw [admission, (admission_eq_ok hadm).1, hself]
    rfl
  rw [hadm']
  rfl

/-- Mentions that do not resolve may be left out, and the others checked. -/
theorem foldlM_resolved : ∀ {ms : List (Mention × Bool)} {edges edges' : List Edge},
    (∀ m ∈ ms, ∀ edge s, wb.Resolves home m.1 edge s → edge.target.covers home = false) →
      ms.foldlM (wb.addMention home) edges = .ok edges' →
        (((ms.map (·.1)).filter (wb.resolves home)).map fun m => (m, true)).foldlM
          (wb.addMention home) edges = .ok edges'
  | [], edges, edges', _, h => h
  | (m, c) :: rest, edges, edges', hself, h => by
    rw [List.foldlM_cons] at h
    obtain ⟨mid, hm, h⟩ := bind_eq_ok_iff.mp h
    have hrest := foldlM_resolved (fun m' hm' => hself m' (List.mem_cons_of_mem _ hm')) h
    rw [List.map_cons, List.filter_cons]
    split
    · rename_i hres
      obtain ⟨edge, s, hres⟩ := resolves_iff.mp hres
      have hm' := addMention_checked hres (hself _ List.mem_cons_self edge s hres) hm
      rw [List.map_cons, List.foldlM_cons, hm']
      exact hrest
    · rename_i hres
      rw [resolves_iff] at hres
      rw [addMention_of_not_resolves hres] at hm
      obtain rfl : edges = mid := by simpa using hm
      exact hrest

/-- **The probe of what a formula mentions has the edges of the formula,** if they do not cover its
own cell. -/
theorem edges_probe {edges : List Edge} (h : wb.edges home true e = .ok edges)
    (hself : ∀ edge ∈ edges, edge.target.covers home = false) :
    wb.edges home true (probe (wb.resolved home e)) = .ok edges := by
  rw [Workbook.edges, mentions_probe, resolved]
  refine foldlM_resolved (fun m hm edge s hres => ?_) h
  obtain ⟨-, kept, hkept, hincl⟩ := exists_edge_of_mention h hm hres
  cases hcovers : edge.target.covers home with
  | false => rfl
  | true => rw [← hself kept hkept, Target.covers_of_includes hincl hcovers]

end Workbook

/-! ## 3. What probes come to -/

/-- **What empty cells and probes show:** nothing, truth, or the code that probes start with. -/
def Shows (v : Operand) : Prop := v = .empty ∨ v = .bool true ∨ v = .error .ref

/-- **Truth values that are all true,** unless there is a mark, which then takes their place. -/
def Marks (marked : Prop) (x : Except ErrorCode (List Bool)) : Prop :=
  (marked → x = .error .ref) ∧ (¬ marked → ∃ bs, x = .ok bs ∧ ∀ b ∈ bs, b = true)

theorem marks_nil {marked : Prop} (h : ¬ marked) : Marks marked (.ok []) :=
  ⟨fun hm => absurd hm h, fun _ => ⟨[], rfl, nofun⟩⟩

/-- Of truth values in a row one mark is enough. -/
theorem Marks.append {p q : Prop} {x y : Except ErrorCode (List Bool)} (hx : Marks p x)
    (hy : Marks q y) : Marks (p ∨ q) (x.bind fun bs => y.map (bs ++ ·)) := by
  by_cases hp : p
  · refine ⟨fun _ => by rw [hx.1 hp]; rfl, fun hnot => absurd (.inl hp) hnot⟩
  · obtain ⟨bs, rfl, hbs⟩ := hx.2 hp
    refine ⟨fun h => ?_, fun hnot => ?_⟩
    · rw [hy.1 (h.resolve_left hp)]
      rfl
    · obtain ⟨more, rfl, hmore⟩ := hy.2 fun hq => hnot (.inr hq)
      refine ⟨bs ++ more, rfl, fun b hb => ?_⟩
      exact (List.mem_append.mp hb).elim (hbs b) (hmore b)

theorem marks_boolsInRange {v : Operand} (h : Shows v) :
    Marks (.error .ref = v) (boolsInRange v) := by
  rcases h with rfl | rfl | rfl
  · exact marks_nil nofun
  · exact ⟨nofun, fun _ => ⟨[true], rfl, by simp⟩⟩
  · exact ⟨fun _ => rfl, fun hnot => absurd rfl hnot⟩

/-- The truth values of a range. -/
theorem marks_range : ∀ {vs : List Operand}, (∀ v ∈ vs, Shows v) →
    Marks (.error .ref ∈ vs) ((vs.mapM boolsInRange).map List.flatten)
  | [], _ => marks_nil nofun
  | v :: rest, h => by
    have hrest := marks_range fun v' hv' => h v' (List.mem_cons_of_mem _ hv')
    have hmarks := (marks_boolsInRange (h v List.mem_cons_self)).append hrest
    rw [← List.mem_cons] at hmarks
    have hcons : ((v :: rest).mapM boolsInRange).map List.flatten =
        (boolsInRange v).bind fun bs =>
          ((rest.mapM boolsInRange).map List.flatten).map (bs ++ ·) := by
      rw [List.mapM_cons]
      cases boolsInRange v with
      | error code => rfl
      | ok bs => cases rest.mapM boolsInRange <;> rfl
    rw [hcons]
    exact hmarks

/-- The truth values of an argument. -/
theorem marks_boolsOf {v : Operand} (h : ∀ w ∈ v.flatten, Shows w) :
    ∃ x, boolsOf v = .ok x ∧ Marks (.error .ref ∈ v.flatten) x := by
  cases v with
  | array rows =>
    refine ⟨_, ?_, marks_range h⟩
    rw [boolsOf, Operand.flatten]
    cases rows.flatten.mapM boolsInRange <;> rfl
  | empty => exact ⟨.ok [], rfl, marks_nil (by simp [Operand.flatten])⟩
  | bool b =>
    obtain rfl : b = true := by simpa [Shows, Operand.flatten] using h
    exact ⟨.ok [true], rfl, by simp [Operand.flatten], fun _ => ⟨[true], rfl, by simp⟩⟩
  | error code =>
    obtain rfl : code = .ref := by simpa [Shows, Operand.flatten] using h
    exact ⟨.error .ref, rfl, fun _ => rfl, fun hnot => absurd (List.mem_singleton_self _) hnot⟩
  | number x => simp [Shows, Operand.flatten] at h
  | text s => simp [Shows, Operand.flatten] at h

/-- The truth values of all arguments. -/
theorem marks_collectBools : ∀ {vs : List Operand}, (∀ v ∈ vs, ∀ w ∈ v.flatten, Shows w) →
    ∃ x, collectBools vs = .ok x ∧ Marks (∃ v ∈ vs, .error .ref ∈ v.flatten) x
  | [], _ => ⟨.ok [], rfl, marks_nil (by simp)⟩
  | v :: rest, h => by
    obtain ⟨x, hx, hmarks⟩ := marks_boolsOf (h v List.mem_cons_self)
    obtain ⟨y, hy, hmore⟩ := marks_collectBools fun v' hv' => h v' (List.mem_cons_of_mem _ hv')
    refine ⟨x.bind fun bs => y.map (bs ++ ·), ?_, ?_⟩
    · rw [collectBools, hx]
      cases x with
      | error code => rfl
      | ok bs =>
        dsimp only
        rw [hy]
        rfl
    · rw [List.exists_mem_cons_iff]
      exact hmarks.append hmore

theorem mapM_evaluateAll (ctx : Context) (ms : List Mention) :
    (evaluateAll ctx (ms.map Mention.expr)).mapM Thunk.get = ms.mapM ctx.read := by
  induction ms with
  | nil => rfl
  | cons m ms ih =>
    have hm : evaluate ctx m.expr = ctx.read m := by cases m <;> rfl
    rw [List.map_cons, evaluateAll, List.mapM_cons, List.mapM_cons, ih]
    exact congrArg (· >>= _) hm

/-- A probe decides on what its mentions are answered. -/
theorem evaluate_probe_eq (ctx : Context) (ms : List Mention) :
    evaluate ctx (probe ms) =
      ms.mapM ctx.read >>= fun vs => decideAll (.bool true :: vs) (·.any id) := by
  have hfind : Function.find? "OR" = some .any := by decide
  have hcount : Function.checkCount .any "OR" (Expr.bool true :: ms.map Mention.expr).length =
      .ok () := by
    rw [Function.checkCount, if_neg]
    · rfl
    · simp [Function.fewest]
  have happly (outcomes : List (Thunk Outcome)) :
      applyFunction ctx .any (.bool true :: ms.map Mention.expr) outcomes =
        outcomes.mapM Thunk.get >>= applyToValues ctx .any := rfl
  rw [probe, evaluate, applyCall, hfind]
  dsimp only
  rw [hcount, happly, evaluateAll, List.mapM_cons, mapM_evaluateAll]
  cases ms.mapM ctx.read <;> rfl

/-- **A probe is an error code if one of its mentions shows it, and true if not.** -/
theorem evaluate_probe {ctx : Context} {ms : List Mention} {vs : List Operand}
    (hread : ms.mapM ctx.read = .ok vs) (hshows : ∀ v ∈ vs, ∀ w ∈ v.flatten, Shows w) :
    ((∃ v ∈ vs, .error .ref ∈ v.flatten) → evaluate ctx (probe ms) = .ok (.error .ref)) ∧
      ((¬ ∃ v ∈ vs, .error .ref ∈ v.flatten) → evaluate ctx (probe ms) = .ok (.bool true)) := by
  obtain ⟨x, hx, hmarked, hclear⟩ := marks_collectBools hshows
  have hbools : collectBools (.bool true :: vs) = .ok (x.map ([true] ++ ·)) := by
    rw [collectBools]
    change (collectBools vs).map _ = _
    rw [hx]
    rfl
  rw [evaluate_probe_eq, hread]
  change (_ → decideAll _ _ = _) ∧ (_ → decideAll _ _ = _)
  rw [decideAll, hbools]
  refine ⟨fun h => ?_, fun h => ?_⟩
  · rw [hmarked h]
    rfl
  · obtain ⟨bs, rfl, hbs⟩ := hclear h
    rfl

/-! ## 4. What mentions are answered -/

theorem flatten_values (ctx : Context) (id : SheetId) (range : Range) :
    (ctx.values id range).flatten = range.cells.map (ctx.cell id) := by
  unfold Context.values
  split
  · rename_i hsingle
    rw [Range.cells_of_isSingle hsingle, Context.cell]
    cases hv : ctx.source.value ⟨id, range.first⟩ <;>
      simp [Operand.ofValue, Operand.flatten, Context.cell, hv]
  · rw [Operand.flatten, Range.cells, List.map_flatMap, List.flatMap]
    simp only [List.map_map]
    rfl

theorem flatten_reference {ctx : Context} {sheet : Option String} {id : SheetId}
    (h : ctx.sheet? sheet = some id) (target : Reference) :
    (ctx.reference sheet target).flatten = target.range.cells.map (ctx.cell id) := by
  rw [Context.reference, h]
  cases target with
  | cell pos =>
    rw [← flatten_values]
    rfl
  | area first last => exact flatten_values ctx id _

namespace Workbook

variable {wb wb' : Workbook} {home key : Key} {e : Expr}

/-- **A mention that resolves is answered with the values of the cells it covers.** -/
theorem exists_read {m : Mention} {edge : Edge} {s : Sheet} (hres : wb.Resolves home m edge s)
    (hholds : s.holds edge.target.range = true) :
    ∃ v, Context.read ⟨wb.source, home⟩ m = .ok v ∧ ∀ w, w ∈ v.flatten ↔
      ∃ x, edge.target.covers x = true ∧ w = .ofValue (wb.value x) := by
  have hcells : ∀ w, w ∈ edge.target.range.cells.map
      (Context.cell ⟨wb.source, home⟩ edge.target.sheet) ↔
        ∃ x, edge.target.covers x = true ∧ w = .ofValue (wb.value x) := by
    intro w
    rw [List.mem_map]
    constructor
    · rintro ⟨spot, hspot, rfl⟩
      have hcovers := (Sheet.mem_cells_of_holds hholds).mp hspot
      exact ⟨⟨edge.target.sheet, spot⟩, by simp [Target.covers, hcovers], rfl⟩
    · rintro ⟨⟨id, spot⟩, hcovers, rfl⟩
      obtain ⟨rfl, hrange⟩ : edge.target.sheet = id ∧ edge.target.range.covers spot = true := by
        simpa [Target.covers] using hcovers
      exact ⟨spot, (Sheet.mem_cells_of_holds hholds).mpr hrange, rfl⟩
  cases m with
  | name called =>
    obtain ⟨range, hrange, rfl⟩ := Option.map_eq_some_iff.mp hres.edge_eq
    have hname : Context.name? ⟨wb.source, home⟩ called = some range := hrange
    refine ⟨Context.values ⟨wb.source, home⟩ home.sheet range, ?_, fun w => ?_⟩
    · simp only [Context.read, hname]
    · rw [flatten_values]
      exact hcells w
  | ref sheet target =>
    have hsheet : Context.sheet? ⟨wb.source, home⟩ sheet = some edge.target.sheet ∧
        edge.target.range = target.range := by
      cases sheet with
      | none =>
        obtain rfl := Option.some.inj hres.edge_eq
        exact ⟨rfl, rfl⟩
      | some name =>
        obtain ⟨id, hid, rfl⟩ := Option.map_eq_some_iff.mp hres.edge_eq
        exact ⟨hid, rfl⟩
    refine ⟨_, rfl, fun w => ?_⟩
    rw [flatten_reference hsheet.1, ← hsheet.2]
    exact hcells w

/-- **What a formula reads is what its resolved mentions cover.** -/
theorem step_iff_resolved (hs : wb.Sound key e) {x : Key} : wb.graph.Step x key ↔
    ∃ m ∈ wb.resolved key e, ∃ edge s, wb.Resolves key m edge s ∧ edge.target.covers x = true := by
  rw [step_graph]
  constructor
  · rintro ⟨edge, hedge, hcovers⟩
    obtain ⟨m, hm, s, hres⟩ := exists_mention_of_edge hs.edges_eq hedge
    exact ⟨m.1, mem_resolved.mpr ⟨⟨m.2, hm⟩, edge, s, hres⟩, edge, s, hres, hcovers⟩
  · rintro ⟨m, hm, edge, s, hres, hcovers⟩
    obtain ⟨⟨c, hmem⟩, -⟩ := mem_resolved.mp hm
    obtain ⟨-, kept, hkept, hincl⟩ := exists_edge_of_mention hs.edges_eq hmem hres
    exact ⟨kept, hkept, Target.covers_of_includes hincl hcovers⟩

theorem eq_of_ofValue {v : Value} {code : ErrorCode} (h : .error code = Operand.ofValue v) :
    v = .error code := by
  cases v <;> cases h
  rfl

/-- **A probe shows the error code as long as anything the formula read shows it.** -/
theorem evaluate_resolved (hs : wb.Sound key e) {st : Workbook} (hlayout : st.layout = wb.layout)
    (hshows : ∀ x, wb.graph.Step x key → Shows (.ofValue (st.value x))) :
    ((∃ x, wb.graph.Step x key ∧ st.value x = .error .ref) →
        st.evaluate key (probe (wb.resolved key e)) = .ok (.error .ref)) ∧
      ((¬ ∃ x, wb.graph.Step x key ∧ st.value x = .error .ref) →
        st.evaluate key (probe (wb.resolved key e)) = .ok (.bool true)) := by
  have hread {m : Mention} (hm : m ∈ wb.resolved key e) {edge : Edge} {s : Sheet}
      (hres : wb.Resolves key m edge s) : ∃ v, Context.read ⟨st.source, key⟩ m = .ok v ∧
        ∀ w, w ∈ v.flatten ↔ ∃ x, edge.target.covers x = true ∧ w = .ofValue (st.value x) := by
    obtain ⟨⟨c, hmem⟩, -⟩ := mem_resolved.mp hm
    obtain ⟨hholds, -⟩ := exists_edge_of_mention hs.edges_eq hmem hres
    obtain ⟨s', hres', hout⟩ := hres.congr hlayout.symm
    exact exists_read hres' (by rw [holds_eq hout, hholds])
  obtain ⟨vs, hvs⟩ : ∃ vs, (wb.resolved key e).mapM (Context.read ⟨st.source, key⟩) = .ok vs := by
    refine exists_mapM_eq_ok fun m hm => ?_
    obtain ⟨-, edge, s, hres⟩ := mem_resolved.mp hm
    obtain ⟨v, hv, -⟩ := hread hm hres
    exact ⟨v, hv⟩
  -- What is shown by an answer is shown by a cell that the formula read.
  have hcell {v w : Operand} (hv : v ∈ vs) (hw : w ∈ v.flatten) :
      ∃ x, wb.graph.Step x key ∧ w = .ofValue (st.value x) := by
    obtain ⟨m, hm, hmv⟩ := (mem_mapM_iff hvs).mp hv
    obtain ⟨-, edge, s, hres⟩ := mem_resolved.mp hm
    obtain ⟨v', hv', hflat⟩ := hread hm hres
    obtain rfl : v' = v := Except.ok.inj (hv'.symm.trans hmv)
    obtain ⟨x, hcovers, hx⟩ := (hflat w).mp hw
    exact ⟨x, (step_iff_resolved hs).mpr ⟨m, hm, edge, s, hres, hcovers⟩, hx⟩
  have hprobe := evaluate_probe hvs fun v hv w hw => by
    obtain ⟨x, hstep, rfl⟩ := hcell hv hw
    exact hshows x hstep
  have hmarked : (∃ x, wb.graph.Step x key ∧ st.value x = .error .ref) ↔
      ∃ v ∈ vs, .error .ref ∈ v.flatten := by
    constructor
    · rintro ⟨x, hstep, hx⟩
      obtain ⟨m, hm, edge, s, hres, hcovers⟩ := (step_iff_resolved hs).mp hstep
      obtain ⟨v, hv, hflat⟩ := hread hm hres
      exact ⟨v, (mem_mapM_iff hvs).mpr ⟨m, hm, hv⟩, (hflat _).mpr ⟨x, hcovers, by rw [hx]; rfl⟩⟩
    · rintro ⟨v, hv, hw⟩
      obtain ⟨x, hstep, hx⟩ := hcell hv hw
      exact ⟨x, hstep, eq_of_ofValue hx⟩
  rw [hmarked]
  exact hprobe

/-! ## 5. The workbook of probes -/

/-- **What a cell holds in the workbook of probes:** a probe that starts with an error code in place
of a formula, and nothing in place of a value. -/
def probedContent (wb : Workbook) (home : Key) : Content → Content
  | .formula text e edges _ =>
    .formula text (probe (wb.resolved home e)) edges (.value (.error .ref))
  | .value _ => .value .empty
  | content => content

/-- **The workbook with a probe in place of each formula.** -/
def probed (wb : Workbook) : Workbook :=
  wb.onSheets fun id s =>
    { s with
      cells := s.cells.map fun spot c =>
        { c with content := wb.probedContent ⟨id, spot⟩ c.content } }

theorem content_probed (wb : Workbook) (key : Key) :
    wb.probed.content key = wb.probedContent key (wb.content key) := by
  refine content_onSheets wb.probedContent (fun _ => rfl) (fun id s spot => ?_) wb key
  exact content_map s (fun spot => wb.probedContent ⟨id, spot⟩) (fun _ => rfl) spot

theorem layout_probed (wb : Workbook) : wb.probed.layout = wb.layout := by
  refine layout_onSheets (fun id s => ?_) wb
  rfl

/-- **The workbook of probes is of the same shape.** -/
theorem sameShape_probed (wb : Workbook) : SameShape wb wb.probed where
  layout_eq := layout_probed wb
  text_eq key := by
    rw [content_probed]
    cases wb.content key <;> rfl
  formula_iff key := by
    rw [HasFormula, HasFormula, content_probed]
    cases wb.content key <;> rfl
  edges_eq key := by
    rw [content_probed]
    cases wb.content key <;> rfl

theorem expr?_probed (h : (wb.content key).expr? = some e) :
    (wb.probed.content key).expr? = some (probe (wb.resolved key e)) := by
  obtain ⟨text, edges, result, hcontent⟩ := Content.eq_formula_of_expr? h
  rw [content_probed, hcontent]
  rfl

/-- **The edges of probes account for them.** -/
theorem built_probed (hbuilt : wb.Built) (hacyclic : wb.graph.Acyclic) : wb.probed.Built := by
  intro key e' he'
  have hshape := sameShape_probed wb
  obtain ⟨e, he⟩ := hasFormula_iff.mp ((hshape.formula_iff key).mp (hasFormula_iff.mpr ⟨e', he'⟩))
  obtain rfl : e' = probe (wb.resolved key e) :=
    Option.some.inj (he'.symm.trans (expr?_probed he))
  have hs := hbuilt key e he
  refine ⟨he', callsIndirect_probe _, ?_⟩
  rw [Workbook.edges_eq hshape.layout_eq, hshape.edges_eq]
  refine edges_probe hs.edges_eq fun edge hedge => ?_
  cases hcovers : edge.target.covers key with
  | false => rfl
  | true => exact absurd (.single (step_graph.mpr ⟨edge, hedge, hcovers⟩)) (hacyclic key)

/-! ## 6. Probes during the turns -/

/-- **What is shown after some turns:** truth by the formulas that have settled, the error code by
the others, nothing where there is no formula. -/
structure ShowsSettled (wb : Workbook) (done : List Key) (st : Workbook) : Prop where
  other : ∀ key, ¬ wb.HasFormula key → st.value key = .empty
  settled : ∀ key, wb.HasFormula key → wb.Settles done key → st.value key = .bool true
  unsettled : ∀ key, wb.HasFormula key → ¬ wb.Settles done key → st.value key = .error .ref

theorem ShowsSettled.shows {done : List Key} {st : Workbook} (h : ShowsSettled wb done st)
    (key : Key) : Shows (.ofValue (st.value key)) := by
  by_cases hkey : wb.HasFormula key
  · by_cases hsettled : wb.Settles done key
    · exact .inr (.inl (by rw [h.settled key hkey hsettled]; rfl))
    · exact .inr (.inr (by rw [h.unsettled key hkey hsettled]; rfl))
  · exact .inl (by rw [h.other key hkey]; rfl)

/-- What a formula reads shows the error code just if some of it has not settled. -/
theorem ShowsSettled.marked_iff {done : List Key} {st : Workbook} (h : ShowsSettled wb done st) :
    (∃ x, wb.graph.Step x key ∧ st.value x = .error .ref) ↔
      ¬ ∀ d, wb.graph.Step d key → wb.HasFormula d → wb.Settles done d := by
  constructor
  · rintro ⟨x, hstep, hx⟩ hall
    by_cases hformula : wb.HasFormula x
    · rw [h.settled x hformula (hall x hstep hformula)] at hx
      cases hx
    · rw [h.other x hformula] at hx
      cases hx
  · intro hnot
    by_contra hclear
    refine hnot fun d hstep hd => ?_
    by_contra hunsettled
    exact hclear ⟨d, hstep, h.unsettled d hd hunsettled⟩

theorem showsSettled_probed (wb : Workbook) : ShowsSettled wb [] wb.probed where
  other key hkey := by
    change (wb.probed.content key).shown = _
    rw [content_probed]
    cases hcontent : wb.content key with
    | formula text e edges result =>
      rw [HasFormula, hcontent] at hkey
      exact absurd rfl hkey
    | value v => rfl
    | unparsed text => rfl
    | discarded => rfl
  settled key _ hsettled := absurd hsettled (settles_nil wb key)
  unsettled key hkey _ := by
    obtain ⟨e, he⟩ := hasFormula_iff.mp hkey
    obtain ⟨text, edges, result, hcontent⟩ := Content.eq_formula_of_expr? he
    change (wb.probed.content key).shown = _
    rw [content_probed, hcontent]
    rfl

theorem value_recalculate_self (he : (wb.content key).expr? = some e) :
    (wb.recalculate key).1.value key = (Result.ofOutcome (wb.evaluate key e)).shown := by
  change ((wb.recalculate key).1.content key).shown = _
  obtain ⟨text, edges, result, hcontent⟩ := Content.eq_formula_of_expr? he
  rw [content_recalculate_self he, hcontent]
  rfl

/-- **A turn of a probe.**  It shows truth afterwards just if everything it reads has settled. -/
theorem value_turn {done : List Key} {st : Workbook} (h : ShowsSettled wb done st)
    (hlayout : st.layout = wb.layout) (hs : wb.Sound key e)
    (hexpr : (st.content key).expr? = some (probe (wb.resolved key e))) :
    ((∀ d, wb.graph.Step d key → wb.HasFormula d → wb.Settles done d) →
        (st.recalculate key).1.value key = .bool true) ∧
      ((¬ ∀ d, wb.graph.Step d key → wb.HasFormula d → wb.Settles done d) →
        (st.recalculate key).1.value key = .error .ref) := by
  obtain ⟨hmarked, hclear⟩ := evaluate_resolved hs hlayout fun x _ => h.shows x
  rw [value_recalculate_self hexpr]
  constructor
  · intro hall
    rw [hclear fun hex => h.marked_iff.mp hex hall]
    rfl
  · intro hnot
    rw [hmarked (h.marked_iff.mpr hnot)]
    rfl

/-- Turns without a formula settle nothing. -/
theorem ShowsSettled.idle {done : List Key} {st : Workbook} (h : ShowsSettled wb done st) {k : Key}
    (hk : ¬ wb.HasFormula k) : ShowsSettled wb (done ++ [k]) st := by
  have hiff {key : Key} (hkey : wb.HasFormula key) :
      wb.Settles (done ++ [k]) key ↔ wb.Settles done key := by
    refine ⟨fun h => (settles_concat.mp h).resolve_right ?_, fun h => h.append [k]⟩
    rintro ⟨rfl, -⟩
    exact hk hkey
  exact ⟨h.other, fun key hkey hs => h.settled key hkey ((hiff hkey).mp hs),
    fun key hkey hs => h.unsettled key hkey fun hdone => hs ((hiff hkey).mpr hdone)⟩

/-- **One more turn of a probe shows one more settled formula,** if everything that it reads has
settled. -/
theorem ShowsSettled.turn {done : List Key} {st : Workbook} (h : ShowsSettled wb done st)
    (hlayout : st.layout = wb.layout) (hs : wb.Sound key e)
    (hexpr : (st.content key).expr? = some (probe (wb.resolved key e))) :
    ShowsSettled wb (done ++ [key]) (st.recalculate key).1 := by
  obtain ⟨hclear, hmarked⟩ := value_turn h hlayout hs hexpr
  have hother {j : Key} (hj : key ≠ j) : (st.recalculate key).1.value j = st.value j :=
    value_eq_of_content (content_recalculate_of_ne st hj)
  constructor
  · intro j hj
    have hne : key ≠ j := by
      rintro rfl
      exact hj (hasFormula_iff.mpr ⟨e, hs.expr_eq⟩)
    rw [hother hne]
    exact h.other j hj
  · intro j hj hsettled
    by_cases hne : key = j
    · subst hne
      refine hclear ?_
      rcases settles_concat.mp hsettled with hdone | ⟨-, hall⟩
      · exact fun d hstep hd => hdone.of_step hstep hd
      · exact hall
    · rw [hother hne]
      exact h.settled j hj ((settles_concat.mp hsettled).resolve_right fun hj => hne hj.1.symm)
  · intro j hj hunsettled
    by_cases hne : key = j
    · subst hne
      exact hmarked fun hall => hunsettled (settles_concat.mpr (.inr ⟨rfl, hall⟩))
    · rw [hother hne]
      exact h.unsettled j hj fun hdone => hunsettled (hdone.append [key])

/-- **After any turns just the settled formulas are clear of the error code.** -/
theorem showsSettled_turns (hbuilt : wb.Built) (done : List Key) :
    ShowsSettled wb done (wb.probed.recalculateEach done).1 := by
  induction done using List.reverseRecOn with
  | nil => exact showsSettled_probed wb
  | append_singleton done k ih =>
    have hsame := sameFormulas_recalculateEach done wb.probed
    rw [recalculateEach_append_fst, recalculateEach_cons_fst, recalculateEach_nil_fst]
    cases hk : (wb.content k).expr? with
    | none =>
      have hformula : ¬ wb.HasFormula k := by simp [HasFormula, hk]
      have hnone : ((wb.probed.recalculateEach done).1.content k).expr? = none := by
        rw [hsame.expr_eq, ← Option.not_isSome_iff_eq_none]
        exact fun h => hformula ((sameShape_probed wb).formula_iff k |>.mp h)
      rw [recalculate_of_expr?_none hnone]
      exact ih.idle hformula
    | some e =>
      have hexpr := (hsame.expr_eq k).trans (expr?_probed hk)
      exact ih.turn (hsame.layout_eq.trans (layout_probed wb)) (hbuilt k e hk) hexpr

/-! ## 7. The exact condition -/

/-- **Of the formulas that have not settled one reads none of the others.** -/
theorem exists_first_unsettled (hacyclic : wb.graph.Acyclic) {done : List Key}
    (hkey : wb.HasFormula key) (h : ¬ wb.Settles done key) :
    ∃ k, wb.HasFormula k ∧ ¬ wb.Settles done k ∧
      ∀ d, wb.graph.Step d k → wb.HasFormula d → wb.Settles done d := by
  have hfinite : Finite { k // k ∈ wb.formulaKeys } := (List.finite_toSet wb.formulaKeys).to_subtype
  have htrans : IsTrans { k // k ∈ wb.formulaKeys } fun a b => TransGen wb.graph.Step a.1 b.1 :=
    ⟨fun _ _ _ hab hbc => hab.trans hbc⟩
  have hirrefl : Std.Irrefl fun a b : { k // k ∈ wb.formulaKeys } =>
      TransGen wb.graph.Step a.1 b.1 := ⟨fun a => hacyclic a.1⟩
  have hwf := Finite.wellFounded_of_trans_of_irrefl
    fun a b : { k // k ∈ wb.formulaKeys } => TransGen wb.graph.Step a.1 b.1
  obtain ⟨⟨k, hk⟩, ⟨hformula, hunsettled⟩, hmin⟩ := hwf.has_min
    { k | wb.HasFormula k.1 ∧ ¬ wb.Settles done k.1 } ⟨⟨key, hkey.mem_keys⟩, hkey, h⟩
  refine ⟨k, hformula, hunsettled, fun d hstep hd => ?_⟩
  by_contra hnot
  exact hmin ⟨d, hd.mem_keys⟩ ⟨hd, hnot⟩ (.single hstep)

/-- **When a full recalculation reaches a fixed point.**  In a workbook whose edges account for all
its formulas, let no formula read its own cell in one or several steps.  A full recalculation leaves
every formula of every such workbook of this shape fresh, whatever the formulas make of what they
read and whatever values the cells held before, if and only if every formula settles in its turns. -/
theorem fresh_calculate_iff_settles (hbuilt : wb.Built) (hacyclic : wb.graph.Acyclic) :
    (∀ wb', SameShape wb wb' → wb'.Built →
        ∀ key, wb'.HasFormula key → wb'.calculate.workbook.Fresh key) ↔
      ∀ key, wb.HasFormula key → wb.Settles wb.turns key := by
  constructor
  · intro hall key hkey
    by_contra hnot
    obtain ⟨k, hk, hunsettled, hreads⟩ := exists_first_unsettled hacyclic hkey hnot
    obtain ⟨e, he⟩ := hasFormula_iff.mp hk
    have hshape := sameShape_probed wb
    have hprobed := built_probed hbuilt hacyclic
    have hsame := sameFormulas_recalculateEach wb.turns wb.probed
    have hfresh := hall wb.probed hshape hprobed k ((hshape.formula_iff k).mpr hk)
    rw [workbook_calculate, hshape.turns_eq] at hfresh
    -- The turns leave the error code at `k`, where one more turn would put truth.
    have hfresh' := hfresh.of_applyFormats (hsame.sound (hprobed k _ (expr?_probed he)))
    have hshows := showsSettled_turns hbuilt wb.turns
    have hlayout := hsame.layout_eq.trans (layout_probed wb)
    have hexpr := (hsame.expr_eq k).trans (expr?_probed he)
    have hturn := (value_turn hshows hlayout (hbuilt k e he) hexpr).1 hreads
    have hcode := hshows.unsettled k hk hunsettled
    rw [hfresh'.2, hcode] at hturn
    cases hturn
  · intro hall wb' hshape hbuilt' key hkey
    obtain ⟨e, he⟩ := hasFormula_iff.mp hkey
    have hsettled := hshape.settles (hall key ((hshape.formula_iff key).mp hkey))
    rw [workbook_calculate, hshape.turns_eq]
    exact (fresh_of_settles hbuilt' (hshape.acyclic hacyclic) hsettled hkey).applyFormats
      ((sameFormulas_recalculateEach _ wb').sound (hbuilt' key e he)) _

/-- `A1` reads `A2` and `A3`, `A2` reads `A3`, and `A3` reads `A4`.  Nothing was recalculated since
`A4` was set. -/
def climbing : Workbook :=
  ((Session.start { autoRecalculate := false }).run
    [.setFormula ⟨⟨0⟩, ⟨2, 0⟩⟩ "=A4", .setFormula ⟨⟨0⟩, ⟨1, 0⟩⟩ "=A3",
      .setFormula ⟨⟨0⟩, ⟨0, 0⟩⟩ "=A2+A3", .setValue ⟨⟨0⟩, ⟨3, 0⟩⟩ (.number 1)]).workbook

theorem built_climbing : climbing.Built := by
  have hedges : ∀ key ∈ climbing.formulaKeys, (climbing.content key).edges ≠ [] := by
    decide +kernel
  refine Reachable.built ⟨_, _, rfl⟩ (noIndirect_of_formulaKeys ?_) fun key hkey =>
    hedges key hkey.mem_keys
  decide +kernel

/-- Each formula reads rows further down only. -/
theorem acyclic_climbing : climbing.graph.Acyclic := by
  have hentries : ∀ r ∈ climbing.graph, ∀ t ∈ r.2, t.range = .single t.range.first ∧
      3 - t.range.first.row < 3 - r.1.spot.row := by decide +kernel
  have hlt : ∀ x k, climbing.graph.Step x k → 3 - x.spot.row < 3 - k.spot.row :=
    fun x k hxk => Graph.forall_step_of_singles
      (fun x k => 3 - x.spot.row < 3 - k.spot.row) hentries hxk
  exact Graph.acyclic_of_lt hlt

/-- The workbook `climbing` meets what is asked of one. -/
theorem fresh_calculate_climbing : climbing.Built ∧ climbing.graph.Acyclic ∧
    ((∀ wb', SameShape climbing wb' → wb'.Built →
        ∀ key, wb'.HasFormula key → wb'.calculate.workbook.Fresh key) ↔
      ∀ key, climbing.HasFormula key → climbing.Settles climbing.turns key) :=
  ⟨built_climbing, acyclic_climbing, fresh_calculate_iff_settles built_climbing acyclic_climbing⟩

/-- **A full recalculation may leave a stale formula.**  The last turn of `A1` comes before that of
`A2`, as `A1` is the first reader of `A3`. -/
theorem stale_after_calculate :
    climbing.Built ∧ climbing.graph.Acyclic ∧ climbing.HasFormula ⟨⟨0⟩, ⟨0, 0⟩⟩ ∧
      ¬ climbing.calculate.workbook.Fresh ⟨⟨0⟩, ⟨0, 0⟩⟩ := by
  have hformula : climbing.HasFormula ⟨⟨0⟩, ⟨0, 0⟩⟩ := by decide +kernel
  have hstale : ¬ climbing.calculate.workbook.Fresh ⟨⟨0⟩, ⟨0, 0⟩⟩ := by decide +kernel
  exact ⟨built_climbing, acyclic_climbing, hformula, hstale⟩

end Workbook

end Spreadsheet
