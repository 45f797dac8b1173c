/-
# What formulas read

* A formula *mentions* cells by its references and its names.  Every mention that can be resolved
  is an edge from the formula to a range of cells, unless an earlier edge covers it already.
* A formula may not mention its own cell, except below a function that asks for addresses and not
  for values.  Nor may it mention cells beyond the edge of a sheet.  A mention of an unknown sheet
  or name is no edge.
* The edges of all formulas make a graph; its readers of a cell are what has to be evaluated again
  when the cell changes.
-/
import Spreadsheet.Workbook.Basic

namespace Spreadsheet

open Grid Formula Conditional

/-! ## 1. Mentions -/

/-- **What a formula mentions:** a reference, or a name. -/
inductive Mention where
  | ref (sheet : Option String) (target : Reference)
  | name (name : String)
deriving DecidableEq, Repr

/-- Functions that ask for addresses. -/
def addressFunctions : List String := ["ROW", "COLUMN", "ADDRESS", "INDIRECT"]

mutual

/-- **The mentions of a formula** from left to right, each with whether it may not be of the cell
that holds the formula. -/
def Formula.Expr.mentions (checked : Bool) : Expr → List (Mention × Bool)
  | .ref sheet target => [(.ref sheet target, checked)]
  | .name name => [(.name name, checked)]
  | .binary _ left right => left.mentions checked ++ right.mentions checked
  | .negate operand => operand.mentions checked
  | .percent operand => operand.mentions checked
  | .group inner => inner.mentions checked
  | .call function args =>
    mentionsAll (checked && !addressFunctions.contains function) args
  | .number _ | .text _ | .bool _ | .error _ => []

/-- The mentions of several formulas. -/
def mentionsAll (checked : Bool) : List Expr → List (Mention × Bool)
  | [] => []
  | e :: rest => e.mentions checked ++ mentionsAll checked rest

end

/-! ## 2. Edges -/

/-- A coordinate that is fixed if two are. -/
def bothFixed (index : Nat) (a b : Coordinate) : Coordinate := ⟨index, a.fixed && b.fixed⟩

/-- The edge to what a reference refers to on a sheet. -/
def Formula.Reference.edge (r : Reference) (sheet : SheetId) : Edge where
  target := ⟨sheet, r.range⟩
  origin :=
    ⟨bothFixed r.range.first.row r.first.row r.last.row,
      bothFixed r.range.first.col r.first.col r.last.col⟩

namespace Workbook

/-- **The edge that a mention is,** if it can be resolved. -/
def edge? (wb : Workbook) (home : Key) : Mention → Option Edge
  | .ref none target => some (target.edge home.sheet)
  | .ref (some name) target => (wb.sheetNamed? name).map target.edge
  | .name name => (wb.namedRange? home.sheet name).map fun range =>
      ⟨⟨home.sheet, range⟩, .fixedAt range.first⟩

/-- Accepts the edges to a sheet that a formula in a cell can have. -/
def admission (home : Key) (checked : Bool) (edge : Edge) (s : Sheet) : Except ReferenceFault Unit :=
  if !s.holds edge.target.range then .error (.beyondSheet s.name edge.target.range)
  else if checked && edge.target.covers home then .error (.ownCell s.name home.spot)
  else .ok ()

/-- Adds an edge unless an earlier one covers it. -/
def addEdge (edges : List Edge) (edge : Edge) : List Edge :=
  if edges.any (·.target.includes edge.target) then edges else edges ++ [edge]

/-- Adds the edge that a mention is. -/
def addMention (wb : Workbook) (home : Key) (edges : List Edge) (m : Mention × Bool) :
    Except ReferenceFault (List Edge) :=
  match wb.edge? home m.1 with
  | none => .ok edges
  | some edge =>
    match wb.sheet? edge.target.sheet with
    | none => .ok edges
    | some s => (admission home m.2 edge s).map fun _ => addEdge edges edge

/-- **The edges of a formula in a cell.** -/
def edges (wb : Workbook) (home : Key) (checked : Bool) (e : Expr) :
    Except ReferenceFault (List Edge) :=
  (e.mentions checked).foldlM (wb.addMention home) []

end Workbook

/-! ## 3. The graph -/

/-- **Which formula reads what:** the cells with edges, in order. -/
abbrev Graph := List (Key × List Target)

namespace Graph

/-- **The cells whose formulas read one of the given cells,** in order. -/
def readers (g : Graph) (changed : List Key) : List Key :=
  (g.filter fun reader => reader.2.any fun t => changed.any t.covers).map (·.1)

theorem mem_keys_of_mem_readers {g : Graph} {changed : List Key} {k : Key}
    (h : k ∈ g.readers changed) : k ∈ g.map (·.1) := by
  obtain ⟨reader, hmem, rfl⟩ := List.mem_map.mp h
  exact List.mem_map_of_mem (List.mem_filter.mp hmem).1

end Graph

namespace Workbook

/-- The formulas of a sheet with edges, in order. -/
def sheetGraph (id : SheetId) (s : Sheet) : Graph :=
  (s.cells.entries.filter fun e => !e.2.content.edges.isEmpty).map fun e =>
    (⟨id, e.1⟩, e.2.content.edges.map (·.target))

/-- The graph of a workbook. -/
def graph (wb : Workbook) : Graph := wb.numbered.flatMap fun (id, s) => sheetGraph id s

/-- **The cells whose formulas read a cell.** -/
def dependents (wb : Workbook) (key : Key) : List Key := wb.graph.readers [key]

theorem mem_sheetGraph {id : SheetId} {s : Sheet} {reader : Key × List Target} :
    reader ∈ sheetGraph id s ↔ ∃ spot c, s.cell? spot = some c ∧ c.content.edges ≠ [] ∧
      reader = (⟨id, spot⟩, c.content.edges.map (·.target)) := by
  simp only [sheetGraph, List.mem_map, List.mem_filter, Prod.exists, Sheet.cell?,
    Table.get?_eq_some_iff, Bool.not_eq_true', List.isEmpty_eq_false_iff]
  constructor
  · rintro ⟨spot, c, ⟨hmem, hne⟩, rfl⟩
    exact ⟨spot, c, hmem, hne, rfl⟩
  · rintro ⟨spot, c, hmem, hne, rfl⟩
    exact ⟨spot, c, ⟨hmem, hne⟩, rfl⟩

/-- **The graph holds the cells with edges, and with each cell what its edges lead to.** -/
theorem mem_graph {wb : Workbook} {key : Key} {targets : List Target} :
    (key, targets) ∈ wb.graph ↔ (wb.content key).edges ≠ [] ∧
      targets = (wb.content key).edges.map (·.target) := by
  obtain ⟨id, spot⟩ := key
  rw [content_iff (P := fun c => c.edges ≠ [] ∧ targets = c.edges.map (·.target)) fun h => h.1 rfl]
  simp only [graph, List.mem_flatMap, Prod.exists, mem_numbered, mem_sheetGraph, Prod.mk.injEq,
    Key.mk.injEq]
  constructor
  · rintro ⟨id', s, hs, spot', c, hc, hne, ⟨rfl, rfl⟩, htargets⟩
    exact ⟨s, c, hs, hc, hne, htargets⟩
  · rintro ⟨s, c, hs, hc, hne, htargets⟩
    exact ⟨id, s, hs, spot, c, hc, hne, ⟨rfl, rfl⟩, htargets⟩

/-- **The readers of cells are the cells with an edge that covers one of them.** -/
theorem mem_readers {wb : Workbook} {changed : List Key} {key : Key} :
    key ∈ wb.graph.readers changed ↔
      ∃ x ∈ changed, ∃ edge ∈ (wb.content key).edges, edge.target.covers x = true := by
  simp only [Graph.readers, List.mem_map, List.mem_filter, Prod.exists, List.any_eq_true]
  constructor
  · rintro ⟨k, targets, ⟨hmem, t, ht, x, hx, hcovers⟩, rfl⟩
    obtain ⟨-, rfl⟩ := mem_graph.mp hmem
    obtain ⟨edge, hedge, rfl⟩ := List.mem_map.mp ht
    exact ⟨x, hx, edge, hedge, hcovers⟩
  · rintro ⟨x, hx, edge, hedge, hcovers⟩
    refine ⟨key, _, ⟨mem_graph.mpr ⟨List.ne_nil_of_mem hedge, rfl⟩, ?_⟩, rfl⟩
    exact ⟨edge.target, List.mem_map_of_mem hedge, x, hx, hcovers⟩

theorem sheetGraph_mapContent (id : SheetId) (s : Sheet) (spot : Spot)
    {change : Content → Content} (h : ∀ c, (change c).edges = c.edges) :
    sheetGraph id (s.mapContent spot change) = sheetGraph id s := by
  have hcell (e : Spot × Cell) :
      (if spot = e.1 then { e.2 with content := change e.2.content } else e.2).content.edges =
        e.2.content.edges := by
    split
    · exact h _
    · rfl
  simp only [sheetGraph, Sheet.mapContent, Table.map, List.filter_map, List.map_map,
    Function.comp_def, hcell]

/-- **A change that keeps the edges of a cell keeps the graph.** -/
theorem graph_mapContent (wb : Workbook) (key : Key) {change : Content → Content}
    (h : ∀ c, (change c).edges = c.edges) : (wb.mapContent key change).graph = wb.graph := by
  rw [graph, mapContent, numbered_onSheet, List.flatMap_map]
  refine congrArg (List.flatMap · wb.numbered) (funext fun r => ?_)
  obtain ⟨id, s⟩ := r
  dsimp only
  split
  · exact sheetGraph_mapContent id s key.spot h
  · rfl

end Workbook

end Spreadsheet
