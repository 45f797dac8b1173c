/-
# What a formula can read

The edges of a formula are found by one walk over its tree, its value by another.  This module
proves that the second never looks beyond the first.

* The *layout* of a workbook is what it has besides cells: the sheets there are, with their names,
  extents and named ranges.  Which edges a formula has depends on the layout alone.
* A formula without `INDIRECT` reads a source only through its mentions: two sources that answer
  every mention alike give it the same outcome (`evaluate_congr`), whichever branches it takes.
* If the edges could be found, then every cell that answers a mention is covered by one of them,
  although a mention may be dropped that an earlier edge covers (`read_eq_of_edges`).

So cells that no edge covers cannot matter.  This is what lets a change spread along edges only.
-/
import Spreadsheet.Proofs.Checks
import Spreadsheet.Workbook.Edit

namespace Spreadsheet

open Grid Formula

/-! ## 1. Layouts -/

/-- **What a sheet is besides its cells,** as far as formulas can tell. -/
structure Outline where
  name : String
  rows : Nat
  cols : Nat
  names : NameTable

/-- The outline of a sheet. -/
def Sheet.outline (s : Sheet) : Outline := ⟨s.name, s.rows, s.cols, s.names⟩

namespace Workbook

/-- **The layout of a workbook:** the outlines of its sheets, in order. -/
def layout (wb : Workbook) : List Outline := wb.sheets.map Sheet.outline

variable {wb wb' : Workbook}

theorem getElem?_layout (wb : Workbook) (id : SheetId) :
    wb.layout[id.number]? = (wb.sheet? id).map Sheet.outline := by
  simp [layout, sheet?]

/-- Workbooks of one layout have the same sheets. -/
theorem outline_eq (h : wb.layout = wb'.layout) (id : SheetId) :
    (wb.sheet? id).map Sheet.outline = (wb'.sheet? id).map Sheet.outline := by
  rw [← getElem?_layout, ← getElem?_layout, h]

/-- Workbooks of one layout find the same sheets by their names. -/
theorem sheetNamed?_eq (h : wb.layout = wb'.layout) (name : String) :
    wb.sheetNamed? name = wb'.sheetNamed? name := by
  have hlayout (wb : Workbook) : wb.sheetNamed? name =
      (wb.layout.findIdx? fun o => Text.small o.name == Text.small name).map .mk := by
    rw [sheetNamed?, layout, List.findIdx?_map]
    rfl
  rw [hlayout, hlayout, h]

/-- Workbooks of one layout give the same names. -/
theorem namedRange?_eq (h : wb.layout = wb'.layout) (id : SheetId) (name : String) :
    wb.namedRange? id name = wb'.namedRange? id name := by
  have hlayout (wb : Workbook) : wb.namedRange? id name =
      ((wb.sheet? id).map Sheet.outline).bind (·.names.range? name) := by
    rw [namedRange?, Option.bind_map]
    rfl
  rw [hlayout, hlayout, outline_eq h]

/-- Mentions are resolved by the layout. -/
theorem edge?_eq (h : wb.layout = wb'.layout) (home : Key) (m : Mention) :
    wb.edge? home m = wb'.edge? home m := by
  cases m with
  | ref sheet target =>
    cases sheet with
    | none => rfl
    | some name => simp only [edge?, sheetNamed?_eq h]
  | name name => simp only [edge?, namedRange?_eq h]

theorem holds_eq {s s' : Sheet} (h : s.outline = s'.outline) (range : Range) :
    s.holds range = s'.holds range := by
  simp only [Sheet.outline, Outline.mk.injEq] at h
  rw [Sheet.holds, Sheet.holds, h.2.1, h.2.2.1]

/-- Whether an edge is accepted is a matter of the sheet's outline. -/
theorem admission_eq {s s' : Sheet} (h : s.outline = s'.outline) (home : Key) (checked : Bool)
    (edge : Edge) : admission home checked edge s = admission home checked edge s' := by
  have hname : s.name = s'.name := congrArg Outline.name h
  rw [admission, admission, holds_eq h, hname]

theorem addMention_eq (h : wb.layout = wb'.layout) (home : Key) (edges : List Edge)
    (m : Mention × Bool) : wb.addMention home edges m = wb'.addMention home edges m := by
  unfold addMention
  rw [edge?_eq h]
  cases wb'.edge? home m.1 with
  | none => rfl
  | some edge =>
    have hsheet := outline_eq h edge.target.sheet
    dsimp only
    cases hs : wb.sheet? edge.target.sheet with
    | none =>
      rw [hs] at hsheet
      rw [Option.map_eq_none_iff.mp hsheet.symm]
    | some s =>
      rw [hs] at hsheet
      obtain ⟨s', hs', hout⟩ := Option.map_eq_some_iff.mp hsheet.symm
      rw [hs']
      dsimp only
      rw [admission_eq hout]

/-- **The edges of a formula depend on the layout alone.** -/
theorem edges_eq (h : wb.layout = wb'.layout) (home : Key) (checked : Bool) (e : Expr) :
    wb.edges home checked e = wb'.edges home checked e := by
  have : wb.addMention home = wb'.addMention home :=
    funext fun edges => funext fun m => addMention_eq h home edges m
  rw [edges, edges, this]

end Workbook

/-! ## 2. Reading through mentions -/

/-- **What a source answers to a mention.** -/
def Formula.Context.read (ctx : Context) : Mention → Outcome
  | .ref sheet target => .ok (ctx.reference sheet target)
  | .name name =>
    match ctx.name? name with
    | some range => .ok (ctx.values ctx.home.sheet range)
    | none => .error (.nameNotFound name)

mutual

/-- **Whether a formula calls `INDIRECT`,** the function that finds out while it is evaluated what
to read. -/
def Formula.Expr.callsIndirect : Expr → Bool
  | .binary _ left right => left.callsIndirect || right.callsIndirect
  | .negate operand => operand.callsIndirect
  | .percent operand => operand.callsIndirect
  | .group inner => inner.callsIndirect
  | .call called args => Function.find? called == some .indirect || anyCallsIndirect args
  | .number _ | .text _ | .bool _ | .error _ | .ref _ _ | .name _ => false

/-- Whether one of several formulas calls `INDIRECT`. -/
def anyCallsIndirect : List Expr → Bool
  | [] => false
  | e :: rest => e.callsIndirect || anyCallsIndirect rest

end

section Evaluation

variable {ctx ctx' : Context}

/-- The range that an argument names depends on the names alone. -/
theorem namedRange_congr (hname : ∀ name, ctx.name? name = ctx'.name? name) :
    ∀ e : Expr, namedRange ctx e = namedRange ctx' e
  | .name name => by simp only [namedRange, hname]
  | .group inner => by simp only [namedRange, namedRange_congr hname inner]
  | .number _ | .text _ | .bool _ | .error _ | .ref _ _ | .binary _ _ _ | .negate _ | .percent _
  | .call _ _ => rfl

theorem lineNumber_congr (hhome : ctx.home = ctx'.home)
    (hname : ∀ name, ctx.name? name = ctx'.name? name) (args : List Expr) (line : Spot → Nat) :
    lineNumber ctx args line = lineNumber ctx' args line := by
  cases args with
  | nil => simp only [lineNumber, hhome]
  | cons e rest => simp only [lineNumber, namedRange_congr hname e]

/-- `INDIRECT` apart, no function on values looks at the source. -/
theorem applyToValues_congr {f : Function} (hf : f ≠ .indirect) (args : List Operand) :
    applyToValues ctx f args = applyToValues ctx' f args := by
  unfold applyToValues
  split <;> first | rfl | exact absurd rfl hf

/-- **`INDIRECT` apart, a call reads its arguments, the names and its own place.** -/
theorem applyCall_congr (hhome : ctx.home = ctx'.home)
    (hname : ∀ name, ctx.name? name = ctx'.name? name) {called : String}
    (hcalled : Function.find? called ≠ some .indirect) (args : List Expr)
    (outcomes : List (Thunk Outcome)) :
    applyCall ctx called args outcomes = applyCall ctx' called args outcomes := by
  unfold applyCall
  cases hfind : Function.find? called with
  | none => rfl
  | some f =>
    have hf : f ≠ .indirect := fun h => hcalled (hfind.trans (congrArg some h))
    have happly : applyFunction ctx f args outcomes = applyFunction ctx' f args outcomes := by
      unfold applyFunction
      split
      · rfl
      · rfl
      · exact lineNumber_congr hhome hname args _
      · exact lineNumber_congr hhome hname args _
      · exact congrArg _ (funext fun vs => applyToValues_congr hf vs)
    simp only [happly]

mutual

/-- **A formula reads a source only through its mentions,** unless it calls `INDIRECT`. -/
theorem evaluate_congr (hhome : ctx.home = ctx'.home)
    (hname : ∀ name, ctx.name? name = ctx'.name? name) {checked : Bool} :
    ∀ {e : Expr}, e.callsIndirect = false →
      (∀ m ∈ e.mentions checked, ctx.read m.1 = ctx'.read m.1) → evaluate ctx e = evaluate ctx' e
  | .number _, _, _ | .text _, _, _ | .bool _, _, _ | .error _, _, _ => rfl
  | .ref sheet target, _, hread =>
    hread (.ref sheet target, checked) (by simp [Expr.mentions])
  | .name name, _, hread => hread (.name name, checked) (by simp [Expr.mentions])
  | .binary op left right, hcalls, hread => by
    simp only [Expr.callsIndirect, Bool.or_eq_false_iff] at hcalls
    simp only [Expr.mentions, List.mem_append] at hread
    simp only [evaluate, evaluate_congr hhome hname hcalls.1 fun m hm => hread m (.inl hm),
      evaluate_congr hhome hname hcalls.2 fun m hm => hread m (.inr hm)]
  | .negate operand, hcalls, hread => by
    simp only [evaluate, evaluate_congr (e := operand) hhome hname hcalls hread]
  | .percent operand, hcalls, hread => by
    simp only [evaluate, evaluate_congr (e := operand) hhome hname hcalls hread]
  | .group inner, hcalls, hread => by
    simp only [evaluate, evaluate_congr (e := inner) hhome hname hcalls hread]
  | .call called args, hcalls, hread => by
    simp only [Expr.callsIndirect, Bool.or_eq_false_iff, beq_eq_false_iff_ne] at hcalls
    simp only [evaluate, evaluateAll_congr hhome hname hcalls.2 hread,
      applyCall_congr hhome hname hcalls.1]

/-- Several formulas read a source only through their mentions. -/
theorem evaluateAll_congr (hhome : ctx.home = ctx'.home)
    (hname : ∀ name, ctx.name? name = ctx'.name? name) {checked : Bool} :
    ∀ {args : List Expr}, anyCallsIndirect args = false →
      (∀ m ∈ mentionsAll checked args, ctx.read m.1 = ctx'.read m.1) →
      evaluateAll ctx args = evaluateAll ctx' args
  | [], _, _ => rfl
  | e :: rest, hcalls, hread => by
    simp only [anyCallsIndirect, Bool.or_eq_false_iff] at hcalls
    simp only [mentionsAll, List.mem_append] at hread
    simp only [evaluateAll, evaluate_congr hhome hname hcalls.1 fun m hm => hread m (.inl hm),
      evaluateAll_congr hhome hname hcalls.2 fun m hm => hread m (.inr hm)]

end

end Evaluation

/-! ## 3. Edges cover mentions

The edges of a formula are collected in one pass over its mentions.  What the pass keeps of a
mention is an edge that includes it, the mention's own or an earlier one, and edges are never taken
away again. -/

namespace Workbook

variable {wb wb' : Workbook} {home : Key}

/-- **A mention resolves to an edge,** which leads to a sheet that is there. -/
structure Resolves (wb : Workbook) (home : Key) (m : Mention) (edge : Edge) (s : Sheet) : Prop where
  edge_eq : wb.edge? home m = some edge
  sheet_eq : wb.sheet? edge.target.sheet = some s

/-- Mentions resolve alike in workbooks of one layout. -/
theorem Resolves.congr {m : Mention} {edge : Edge} {s : Sheet} (h : wb.Resolves home m edge s)
    (hlayout : wb.layout = wb'.layout) :
    ∃ s', wb'.Resolves home m edge s' ∧ s'.outline = s.outline := by
  have hout := outline_eq hlayout edge.target.sheet
  rw [h.sheet_eq] at hout
  obtain ⟨s', hs', hss⟩ := Option.map_eq_some_iff.mp hout.symm
  exact ⟨s', ⟨(edge?_eq hlayout home m).symm.trans h.edge_eq, hs'⟩, hss⟩

/-- A mention that resolves is added as its sheet admits it. -/
theorem addMention_of_resolves {m : Mention × Bool} {edge : Edge} {s : Sheet}
    (h : wb.Resolves home m.1 edge s) (edges : List Edge) :
    wb.addMention home edges m = (admission home m.2 edge s).map fun _ => addEdge edges edge := by
  simp only [addMention, h.edge_eq, h.sheet_eq]

/-- A mention that does not resolve is no edge. -/
theorem addMention_of_not_resolves {m : Mention × Bool}
    (h : ¬ ∃ edge s, wb.Resolves home m.1 edge s) (edges : List Edge) :
    wb.addMention home edges m = .ok edges := by
  unfold addMention
  cases hedge : wb.edge? home m.1 with
  | none => rfl
  | some edge =>
    cases hs : wb.sheet? edge.target.sheet with
    | none => simp only [hs]
    | some s => exact absurd ⟨edge, s, hedge, hs⟩ h

theorem admission_eq_ok {checked : Bool} {edge : Edge} {s : Sheet}
    (h : admission home checked edge s = .ok ()) : s.holds edge.target.range = true ∧
      (checked = true → edge.target.covers home = false) := by
  unfold admission at h
  split at h
  · cases h
  · rename_i hholds
    split at h
    · cases h
    · rename_i hown
      refine ⟨by simpa using hholds, ?_⟩
      rintro rfl
      simpa using hown

theorem mem_addEdge_of_mem {edges : List Edge} {edge x : Edge} (h : x ∈ edges) :
    x ∈ addEdge edges edge := by
  unfold addEdge
  split
  · exact h
  · exact List.mem_append_left _ h

/-- An edge that was added is included, be it by an earlier one. -/
theorem exists_includes_addEdge (edges : List Edge) (edge : Edge) :
    ∃ kept ∈ addEdge edges edge, kept.target.includes edge.target = true := by
  unfold addEdge
  split
  · rename_i h
    exact List.any_eq_true.mp h
  · exact ⟨edge, by simp, Target.includes_refl _⟩

/-- **What one mention leaves behind:** the edges there were and, if it resolves, one that includes
it; and its sheet admits it. -/
theorem addMention_eq_ok {edges edges' : List Edge} {m : Mention × Bool}
    (h : wb.addMention home edges m = .ok edges') :
    (∀ x ∈ edges, x ∈ edges') ∧ ∀ edge s, wb.Resolves home m.1 edge s →
      admission home m.2 edge s = .ok () ∧
        ∃ kept ∈ edges', kept.target.includes edge.target = true := by
  by_cases hm : ∃ edge s, wb.Resolves home m.1 edge s
  · obtain ⟨edge, s, hres⟩ := hm
    rw [addMention_of_resolves hres] at h
    obtain ⟨u, hadm, rfl⟩ := map_eq_ok_iff.mp h
    refine ⟨fun x hx => mem_addEdge_of_mem hx, fun edge' s' hres' => ?_⟩
    obtain rfl : edge = edge' := Option.some.inj (hres.edge_eq.symm.trans hres'.edge_eq)
    obtain rfl : s = s' := Option.some.inj (hres.sheet_eq.symm.trans hres'.sheet_eq)
    exact ⟨hadm, exists_includes_addEdge edges edge⟩
  · rw [addMention_of_not_resolves hm] at h
    obtain rfl : edges = edges' := by simpa using h
    exact ⟨fun x hx => hx, fun edge s hres => absurd ⟨edge, s, hres⟩ hm⟩

/-- What a pass over mentions leaves behind. -/
theorem addMentions_eq_ok : ∀ {ms : List (Mention × Bool)} {edges edges' : List Edge},
    ms.foldlM (wb.addMention home) edges = .ok edges' →
      (∀ x ∈ edges, x ∈ edges') ∧ ∀ m ∈ ms, ∀ edge s, wb.Resolves home m.1 edge s →
        admission home m.2 edge s = .ok () ∧
          ∃ kept ∈ edges', kept.target.includes edge.target = true
  | [], edges, edges', h => by
    obtain rfl : edges = edges' := by simpa [pure, Except.pure] using h
    exact ⟨fun x hx => hx, nofun⟩
  | m :: rest, edges, edges', h => by
    rw [List.foldlM_cons] at h
    obtain ⟨mid, hm, h⟩ := bind_eq_ok_iff.mp h
    obtain ⟨hkeep, hcover⟩ := addMention_eq_ok hm
    obtain ⟨hkeep', hcover'⟩ := addMentions_eq_ok h
    refine ⟨fun x hx => hkeep' x (hkeep x hx), fun m' hm' edge s hres => ?_⟩
    rcases List.mem_cons.mp hm' with rfl | hm'
    · obtain ⟨hadm, kept, hkept, hincl⟩ := hcover edge s hres
      exact ⟨hadm, kept, hkeep' kept hkept, hincl⟩
    · exact hcover' m' hm' edge s hres

/-- **Every mention that resolves lies on its sheet and is included in an edge,** if the edges could
be found. -/
theorem exists_edge_of_mention {checked : Bool} {e : Expr} {edges : List Edge}
    (h : wb.edges home checked e = .ok edges) {m : Mention × Bool} (hm : m ∈ e.mentions checked)
    {edge : Edge} {s : Sheet} (hres : wb.Resolves home m.1 edge s) :
    s.holds edge.target.range = true ∧ ∃ kept ∈ edges, kept.target.includes edge.target = true := by
  obtain ⟨hadm, hkept⟩ := (addMentions_eq_ok h).2 m hm edge s hres
  exact ⟨(admission_eq_ok hadm).1, hkept⟩

/-- Only a mention that may be of it covers the cell of the formula, if the edges could be found. -/
theorem not_covers_of_mention {checked : Bool} {e : Expr} {edges : List Edge}
    (h : wb.edges home checked e = .ok edges) {m : Mention × Bool} (hm : m ∈ e.mentions checked)
    (hchecked : m.2 = true) {edge : Edge} {s : Sheet} (hres : wb.Resolves home m.1 edge s) :
    edge.target.covers home = false :=
  (admission_eq_ok ((addMentions_eq_ok h).2 m hm edge s hres).1).2 hchecked

theorem mem_of_addMention {edges edges' : List Edge} {m : Mention × Bool} {edge : Edge}
    (h : wb.addMention home edges m = .ok edges') (hedge : edge ∈ edges') :
    edge ∈ edges ∨ ∃ s, wb.Resolves home m.1 edge s := by
  by_cases hm : ∃ edge s, wb.Resolves home m.1 edge s
  · obtain ⟨own, s, hres⟩ := hm
    rw [addMention_of_resolves hres] at h
    obtain ⟨u, -, rfl⟩ := map_eq_ok_iff.mp h
    unfold addEdge at hedge
    split at hedge
    · exact .inl hedge
    · rcases List.mem_append.mp hedge with hedge | hedge
      · exact .inl hedge
      · obtain rfl := List.mem_singleton.mp hedge
        exact .inr ⟨s, hres⟩
  · rw [addMention_of_not_resolves hm] at h
    obtain rfl : edges = edges' := by simpa using h
    exact .inl hedge

theorem mem_of_addMentions :
    ∀ {ms : List (Mention × Bool)} {edges edges' : List Edge} {edge : Edge},
      ms.foldlM (wb.addMention home) edges = .ok edges' → edge ∈ edges' →
        edge ∈ edges ∨ ∃ m ∈ ms, ∃ s, wb.Resolves home m.1 edge s
  | [], edges, edges', edge, h, hedge => by
    obtain rfl : edges = edges' := by simpa [pure, Except.pure] using h
    exact .inl hedge
  | m :: rest, edges, edges', edge, h, hedge => by
    rw [List.foldlM_cons] at h
    obtain ⟨mid, hm, h⟩ := bind_eq_ok_iff.mp h
    rcases mem_of_addMentions h hedge with hmid | ⟨m', hm', hres⟩
    · rcases mem_of_addMention hm hmid with hedge | hres
      · exact .inl hedge
      · exact .inr ⟨m, List.mem_cons_self, hres⟩
    · exact .inr ⟨m', List.mem_cons_of_mem _ hm', hres⟩

/-- **Every edge is that of a mention.** -/
theorem exists_mention_of_edge {checked : Bool} {e : Expr} {edges : List Edge} {edge : Edge}
    (h : wb.edges home checked e = .ok edges) (hedge : edge ∈ edges) :
    ∃ m ∈ e.mentions checked, ∃ s, wb.Resolves home m.1 edge s := by
  rcases mem_of_addMentions h hedge with hnil | hmention
  · cases hnil
  · exact hmention

/-! ## 4. Cells that no edge covers cannot matter -/

/-- The values of a range are those of its cells. -/
theorem values_congr {ctx ctx' : Context} {id : SheetId} {range : Range}
    (h : ∀ spot ∈ range.cells, ctx.cell id spot = ctx'.cell id spot) :
    ctx.values id range = ctx'.values id range := by
  unfold Context.values
  split
  · exact h _ range.first_mem_cells
  · refine congrArg Operand.array (List.map_congr_left fun row hrow => ?_)
    refine List.map_congr_left fun col hcol => h ⟨row, col⟩ ?_
    exact List.mem_flatMap.mpr ⟨row, hrow, List.mem_map_of_mem hcol⟩

/-- A cell of a sheet that is not there is empty. -/
theorem value_of_sheet?_none {key : Key} (h : wb.sheet? key.sheet = none) :
    wb.value key = .empty := by
  simp [value, cell, cell?, h, Cell.value, Content.shown]

/-- Workbooks of one layout that agree on a range agree on its cells as formulas read them, on
whatever sheet the range is and whether or not there is such a sheet. -/
theorem cell_eq_of_agree (hlayout : wb.layout = wb'.layout) {id : SheetId} {range : Range}
    (h : ∀ s, wb.sheet? id = some s → s.holds range = true ∧
      ∀ spot, range.covers spot = true → wb.value ⟨id, spot⟩ = wb'.value ⟨id, spot⟩)
    {spot : Spot} (hspot : spot ∈ range.cells) :
    Context.cell ⟨wb.source, home⟩ id spot = Context.cell ⟨wb'.source, home⟩ id spot := by
  refine congrArg Operand.ofValue (?_ : wb.value ⟨id, spot⟩ = wb'.value ⟨id, spot⟩)
  cases hs : wb.sheet? id with
  | none =>
    have hs' : wb'.sheet? id = none := by
      have := outline_eq hlayout id
      rw [hs] at this
      exact Option.map_eq_none_iff.mp this.symm
    rw [value_of_sheet?_none hs, value_of_sheet?_none hs']
  | some s =>
    obtain ⟨hholds, hvalue⟩ := h s hs
    exact hvalue spot ((Sheet.mem_cells_of_holds hholds).mp hspot)

/-- **A mention is answered from the cells it covers.** -/
theorem read_eq_of_agree (hlayout : wb.layout = wb'.layout) {m : Mention}
    (h : ∀ edge s, wb.Resolves home m edge s → s.holds edge.target.range = true ∧
      ∀ key, edge.target.covers key = true → wb.value key = wb'.value key) :
    Context.read ⟨wb.source, home⟩ m = Context.read ⟨wb'.source, home⟩ m := by
  have hcells {id : SheetId} {range : Range} {origin : Position}
      (hedge : wb.edge? home m = some ⟨⟨id, range⟩, origin⟩) :
      ∀ spot ∈ range.cells,
        Context.cell ⟨wb.source, home⟩ id spot = Context.cell ⟨wb'.source, home⟩ id spot := by
    intro spot hspot
    refine cell_eq_of_agree hlayout (fun s hs => ?_) hspot
    obtain ⟨hholds, hvalue⟩ := h _ s ⟨hedge, hs⟩
    exact ⟨hholds, fun spot hspot => hvalue ⟨id, spot⟩ (by simpa [Target.covers] using hspot)⟩
  cases m with
  | name name =>
    have hname : Context.name? ⟨wb.source, home⟩ name = Context.name? ⟨wb'.source, home⟩ name :=
      namedRange?_eq hlayout home.sheet name
    simp only [Context.read, ← hname]
    cases hrange : Context.name? ⟨wb.source, home⟩ name with
    | none => rfl
    | some range =>
      have hedge : wb.edge? home (.name name) =
          some ⟨⟨home.sheet, range⟩, .fixedAt range.first⟩ := by
        have : wb.namedRange? home.sheet name = some range := hrange
        simp only [edge?, this, Option.map_some]
      exact congrArg Except.ok (values_congr (hcells hedge))
  | ref sheet target =>
    have hsheet : Context.sheet? ⟨wb.source, home⟩ sheet =
        Context.sheet? ⟨wb'.source, home⟩ sheet := by
      cases sheet with
      | none => rfl
      | some name => exact sheetNamed?_eq hlayout name
    simp only [Context.read, Context.reference, ← hsheet]
    cases hid : Context.sheet? ⟨wb.source, home⟩ sheet with
    | none => rfl
    | some id =>
      have hedge : wb.edge? home (.ref sheet target) = some (target.edge id) := by
        cases sheet with
        | none => rw [edge?, ← Option.some.inj hid]
        | some name =>
          have : wb.sheetNamed? name = some id := hid
          simp only [edge?, this, Option.map_some]
      cases target with
      | cell pos => exact congrArg Except.ok (hcells hedge _ (Range.first_mem_cells _))
      | area first last => exact congrArg Except.ok (values_congr (hcells hedge))

/-- **The mentions of a formula are answered from the cells that its edges cover,** if its edges
could be found. -/
theorem read_eq_of_edges (hlayout : wb.layout = wb'.layout) {checked : Bool} {e : Expr}
    {edges : List Edge} (hedges : wb.edges home checked e = .ok edges)
    (hagree : ∀ key, (∃ edge ∈ edges, edge.target.covers key = true) →
      wb.value key = wb'.value key) :
    ∀ m ∈ e.mentions checked,
      Context.read ⟨wb.source, home⟩ m.1 = Context.read ⟨wb'.source, home⟩ m.1 := by
  intro m hm
  refine read_eq_of_agree hlayout fun edge s hres => ?_
  obtain ⟨hholds, kept, hkept, hincl⟩ := exists_edge_of_mention hedges hm hres
  exact ⟨hholds, fun key hkey => hagree key ⟨kept, hkept, Target.covers_of_includes hincl hkey⟩⟩

/-- **Cells that no edge of a formula covers cannot matter to it.**  If the edges of a formula that
does not call `INDIRECT` could be found, then it has the same outcome in every workbook of the same
layout that agrees on the cells the edges cover. -/
theorem evaluate_eq_of_agree (hlayout : wb.layout = wb'.layout) {checked : Bool} {e : Expr}
    (hcalls : e.callsIndirect = false) {edges : List Edge}
    (hedges : wb.edges home checked e = .ok edges)
    (hagree : ∀ key, (∃ edge ∈ edges, edge.target.covers key = true) →
      wb.value key = wb'.value key) :
    wb.evaluate home e = wb'.evaluate home e := by
  refine evaluate_congr ?_ ?_ hcalls (read_eq_of_edges hlayout hedges hagree)
  · rfl
  · exact namedRange?_eq hlayout home.sheet

/-- `IF(B1,SUM(A1:A2),A2)`.  The range covers the last mention, so it has no edge of its own. -/
def chosenSum : Expr :=
  .call "IF" [.ref none (.cell (.ofSpot ⟨0, 1⟩)),
    .call "SUM" [.ref none (.area (.ofSpot ⟨0, 0⟩) (.ofSpot ⟨1, 0⟩))],
    .ref none (.cell (.ofSpot ⟨1, 0⟩))]

/-- The formula `chosenSum` in `C1` has the same outcome after `C3` was written. -/
theorem evaluate_chosenSum_writeValue :
    let home : Key := ⟨⟨0⟩, ⟨0, 2⟩⟩
    let wb := ((new {}).writeValue ⟨⟨0⟩, ⟨0, 0⟩⟩ (.number 1)).writeValue ⟨⟨0⟩, ⟨0, 1⟩⟩ (.bool true)
    let wb' := wb.writeValue ⟨⟨0⟩, ⟨2, 2⟩⟩ (.number 7)
    let edges : List Edge := [⟨⟨⟨0⟩, .make 0 1 1 1⟩, .ofSpot ⟨0, 1⟩⟩,
      ⟨⟨⟨0⟩, .make 0 0 2 1⟩, .ofSpot ⟨0, 0⟩⟩]
    wb.layout = wb'.layout ∧ chosenSum.callsIndirect = false ∧
      wb.edges home true chosenSum = .ok edges ∧
      (∀ key, (∃ edge ∈ edges, edge.target.covers key = true) → wb.value key = wb'.value key) ∧
      wb.evaluate home chosenSum = wb'.evaluate home chosenSum := by
  intro home wb wb' edges
  have hlayout : wb.layout = wb'.layout := rfl
  have hcalls : chosenSum.callsIndirect = false := by decide
  have hedges : wb.edges home true chosenSum = .ok edges := by rfl
  have hagree : ∀ key, (∃ edge ∈ edges, edge.target.covers key = true) →
      wb.value key = wb'.value key := by
    rintro key ⟨edge, hedge, hcovers⟩
    have hne : (⟨⟨0⟩, ⟨2, 2⟩⟩ : Key) ≠ key := by
      rintro rfl
      revert edge
      decide
    rw [value, value, cell, cell, cell?_writeValue_of_ne wb _ hne]
  exact ⟨hlayout, hcalls, hedges, hagree, evaluate_eq_of_agree hlayout hcalls hedges hagree⟩

end Workbook

end Spreadsheet
