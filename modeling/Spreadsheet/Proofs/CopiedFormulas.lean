/-
# What copied formulas show

* A formula is copied to a range, or a range is filled, by writing a block.  Its entries are texts and
  values that were there, and formulas that were moved; none of them brings in a call of `INDIRECT`
  (`CopiedInto.exists_over`).
* When a block is written, all its cells are written first.  Then its formulas have a turn each, row by
  row, and then the change of all its cells is spread (`Written`).
* So a formula of the block is fresh if its last turn found what it reads as it is left in the end; in
  particular if scan order follows the graph wherever the change comes by (`fresh_of_copied`).
* It may not be if formulas read what stands behind them: of three formulas each of which reads the one
  below, the first has its last turn before the second one has come to its value
  (`copied_formula_stale`).
-/
import Spreadsheet.Proofs.Alike
import Spreadsheet.Proofs.CalledText
import Spreadsheet.Proofs.FillPlans
import Spreadsheet.Proofs.Probe

namespace Spreadsheet

open Grid Formula Conditional

/-! ## 1. Entries without `INDIRECT` -/

namespace Formula

section Changed

variable {f : Option String → Reference → Expr}

mutual

/-- Changed references call nothing. -/
theorem callsIndirect_mapRefs (hf : ∀ sheet target, (f sheet target).callsIndirect = false) :
    ∀ e : Expr, (e.mapRefs f).callsIndirect = e.callsIndirect
  | .ref sheet target => hf sheet target
  | .binary _ left right =>
    congrArg₂ _ (callsIndirect_mapRefs hf left) (callsIndirect_mapRefs hf right)
  | .negate operand => callsIndirect_mapRefs hf operand
  | .percent operand => callsIndirect_mapRefs hf operand
  | .group inner => callsIndirect_mapRefs hf inner
  | .call called args => by
    rw [Expr.mapRefs, Expr.callsIndirect, Expr.callsIndirect, anyCallsIndirect_mapRefsAll hf args]
  | .number _ | .text _ | .bool _ | .error _ | .name _ => rfl

/-- Changed references call nothing in arguments, either. -/
theorem anyCallsIndirect_mapRefsAll (hf : ∀ sheet target, (f sheet target).callsIndirect = false) :
    ∀ args : List Expr, anyCallsIndirect (mapRefsAll f args) = anyCallsIndirect args
  | [] => rfl
  | e :: rest =>
    congrArg₂ _ (callsIndirect_mapRefs hf e) (anyCallsIndirect_mapRefsAll hf rest)

end

end Changed

/-- **A copy calls what the formula calls.** -/
theorem callsIndirect_moved (e : Expr) (rows columns : Int) :
    (e.moved rows columns).callsIndirect = e.callsIndirect := by
  unfold Expr.moved
  split
  · rfl
  · refine callsIndirect_mapRefs (fun sheet target => ?_) e
    cases target.move? rows columns <;> rfl

end Formula

/-- **An entry whose text is not read as a formula that calls `INDIRECT`.** -/
def Entry.Direct (entry : Entry) : Prop :=
  ∀ text e, entry = .formula text → parse text = .ok e → e.callsIndirect = false

namespace Entry

theorem direct_ofValue (v : Value) : (ofValue v).Direct := by
  intro text e h
  cases v <;> cases h

theorem direct_of_unread {text : String} {fault : ParseFault} (h : parse text = .error fault) :
    (formula text).Direct := by
  intro text' e htext hparse
  rw [← Entry.formula.inj htext, h] at hparse
  cases hparse

theorem direct_source {e : Expr} (h : e.Canonical) (hcalls : e.callsIndirect = false) :
    (formula e.source).Direct := by
  intro text e' htext hparse
  rw [← Entry.formula.inj htext] at hparse
  exact callsIndirect_of_parse_source h hcalls hparse

theorem direct_moved {e : Expr} (h : e.Canonical) (hcalls : e.callsIndirect = false)
    (rows columns : Int) : (formula (e.moved rows columns).source).Direct :=
  direct_source (canonical_moved h rows columns) ((callsIndirect_moved e rows columns).trans hcalls)

end Entry

namespace Workbook

variable {wb : Workbook} {key : Key}

/-- **The text of a cell is not read as a formula that calls `INDIRECT`** if no formula calls it. -/
theorem Reachable.direct_text (h : wb.Reachable) (hcalls : wb.NoIndirect) {text : String}
    (htext : (wb.content key).formulaText? = some text) : (Entry.formula text).Direct := by
  cases hkey : wb.content key with
  | value v => rw [hkey] at htext; cases htext
  | discarded => rw [hkey] at htext; cases htext
  | unparsed text' =>
    rw [hkey] at htext
    obtain rfl := Option.some.inj htext
    obtain ⟨fault, hparse⟩ := (h.steady key).unread text' hkey
    exact Entry.direct_of_unread hparse
  | formula text' e edges result =>
    rw [hkey] at htext
    obtain rfl := Option.some.inj htext
    have he : e.callsIndirect = false := hcalls key e (by rw [hkey]; rfl)
    obtain ⟨hcanonical, hparse | rfl⟩ := h.spelled key text' e edges result hkey
    · intro text e' htext' hparse'
      rw [← Entry.formula.inj htext', hparse] at hparse'
      rwa [← Except.ok.inj hparse']
    · exact Entry.direct_source hcanonical he

theorem Reachable.direct_entry (h : wb.Reachable) (hcalls : wb.NoIndirect) (key : Key) :
    (wb.cell key).entry.Direct := by
  rw [entry_cell]
  cases htext : (wb.content key).formulaText? with
  | none => exact Entry.direct_ofValue _
  | some text => exact h.direct_text hcalls htext

/-- **What an item of a fill brings is direct.** -/
theorem Reachable.direct_continues (h : wb.Reachable) (hcalls : wb.NoIndirect) {item : FillItem}
    {home : Key} (hitem : item.content = wb.content home) {series : Series} {index : Int}
    {spot : Spot} {entry : Entry} (hentry : Continues item series index spot entry) :
    entry.Direct := by
  cases hentry with
  | moved htext hparse =>
    rw [hitem] at htext
    exact Entry.direct_moved (canonical_of_parse hparse)
      (h.direct_text hcalls htext _ _ rfl hparse) _ _
  | copied htext hparse => exact Entry.direct_of_unread hparse
  | valued htext => exact Entry.direct_ofValue _

end Workbook

/-! ## 2. Blocks of copies -/

namespace Workbook

variable {wb wb' : Workbook} {sheet : SheetId} {range : Range}

/-- **An accepted copy or fill:** the sheet and the range that it writes to, and the workbook that it
leaves behind. -/
inductive CopiedInto (wb : Workbook) : SheetId → Range → Workbook → Prop
  | copy {home : Key} {target : Range} (h : (wb.copyFormula home target).answer = .ok ()) :
      CopiedInto wb home.sheet target (wb.copyFormula home target).workbook
  | fill {approves : FillRequest → Bool} {request : FillRequest}
      (h : (wb.fill approves request).answer = .ok ()) :
      CopiedInto wb request.sheet request.target (wb.fill approves request).workbook

/-- **A formula is copied by writing a block** that has the text that was there in the place of the
formula, and moved formulas elsewhere. -/
theorem exists_of_copyFormula {home : Key} {target : Range}
    (h : (wb.copyFormula home target).answer = .ok ()) : ∃ s e, wb.sheet home.sheet = .ok s ∧
      s.checkRange target = .ok () ∧ (s.cell home.spot).content.expr? = some e ∧
      let moved (spot : Spot) : Spot × Entry :=
        (spot, .formula (e.moved ((spot.row : Int) - home.spot.row)
          ((spot.col : Int) - home.spot.col)).source)
      let block := Block.over target (overwrite (fun spot => (s.cell spot).entry)
        ((target.cells.filter (· != home.spot)).map moved))
      (wb.writeBlock home.sheet block .formula).answer = .ok () ∧
        (wb.copyFormula home target).workbook =
          (wb.writeBlock home.sheet block .formula).workbook := by
  unfold copyFormula at h ⊢
  obtain ⟨s, hs⟩ := exists_of_guard h
  rw [hs, Reply.guard_ok] at h ⊢
  obtain ⟨u, hlast⟩ := exists_of_guard h
  rw [hlast, Reply.guard_ok] at h ⊢
  cases he : (s.cell home.spot).content.expr? with
  | none =>
    rw [he] at h
    cases h
  | some e =>
    rw [he] at h
    dsimp only at h ⊢
    obtain ⟨block, hcapture⟩ := exists_of_guard h
    obtain ⟨s', hs', hcheck, -⟩ := exists_of_capture hcapture
    obtain rfl : s = s' := Except.ok.inj (hs.symm.trans hs')
    rw [capture_eq hs hcheck, Reply.guard_ok] at h ⊢
    have hblock (writes : List Spot) (entry moved : Spot → Entry) :
        writes.foldl (fun block spot => block.set spot (moved spot)) (Block.over target entry) =
          Block.over target (overwrite entry (writes.map fun spot => (spot, moved spot))) := by
      rw [← Block.foldl_set_over hcheck, List.foldl_map]
    rw [hblock] at h ⊢
    exact ⟨s, e, rfl, hcheck, he, h, rfl⟩

end Workbook

namespace Sheet

/-- An item has the content of its cell. -/
theorem content_of_mem_lineItems {s : Sheet} {axis : Axis} {source : Range} {line : Nat}
    {item : FillItem} (h : item ∈ s.lineItems axis source line) :
    item.content = (s.cell item.spot).content := by
  obtain ⟨place, -, hitem⟩ := List.mem_filterMap.mp h
  obtain ⟨extra, -, rfl⟩ := Option.map_eq_some_iff.mp hitem
  rfl

/-- **What a fill plans was there, or is how some item goes on.** -/
theorem planned_cases (s : Sheet) (axis : Axis) (source target : Range) (spot : Spot) :
    s.planned axis source target spot = (s.cell spot).entry ∨
      ∃ item series index, item.content = (s.cell item.spot).content ∧
        Continues item series index spot (s.planned axis source target spot) := by
  refine Classical.or_iff_not_imp_left.mpr fun hne => ?_
  obtain ⟨line, hline, place, hplace, rfl⟩ := exists_landing_of_planned hne
  obtain ⟨k, hk⟩ := List.getElem?_of_mem hplace
  obtain ⟨item, hitem, hcontinues⟩ := continues_planned hline (lineItems_ne_nil hplace) hk
  have hmem := mem_lineOrder.mp (List.mem_of_getElem? hitem)
  exact ⟨item, _, _, content_of_mem_lineItems hmem, hcontinues⟩

end Sheet

namespace Workbook

variable {wb wb' : Workbook} {sheet : SheetId} {range : Range}

/-- **What is copied and filled is written as a block** whose entries bring in no `INDIRECT`. -/
theorem CopiedInto.exists_over (h : CopiedInto wb sheet range wb') (hreachable : wb.Reachable)
    (hcalls : wb.NoIndirect) : ∃ s entry kind, wb.sheet sheet = .ok s ∧
      s.checkRange range = .ok () ∧ (∀ spot, (entry spot).Direct) ∧
      (wb.writeBlock sheet (.over range entry) kind).answer = .ok () ∧
      wb' = (wb.writeBlock sheet (.over range entry) kind).workbook := by
  have hcell {sheet : SheetId} {s : Sheet} (hs : wb.sheet sheet = .ok s) (spot : Spot) :
      wb.cell ⟨sheet, spot⟩ = s.cell spot := by
    rw [cell_eq_elim, sheet_eq_ok hs]
    rfl
  have hentry {sheet : SheetId} {s : Sheet} (hs : wb.sheet sheet = .ok s) (spot : Spot) :
      (s.cell spot).entry.Direct := hcell hs spot ▸ hreachable.direct_entry hcalls ⟨sheet, spot⟩
  cases h with
  | @copy home target h =>
    obtain ⟨s, e, hs, hcheck, he, hok, hworkbook⟩ := exists_of_copyFormula h
    refine ⟨s, _, .formula, hs, hcheck, fun spot => ?_, hok, hworkbook⟩
    rcases overwrite_cases spot _ _ with hkept | ⟨w, hw, hmoved⟩
    · rw [hkept]
      exact hentry hs spot
    · obtain ⟨spot', -, rfl⟩ := List.mem_map.mp hw
      rw [hmoved]
      have hexpr : (wb.content home).expr? = some e := by
        rw [content, ← he, ← hcell hs home.spot]
      obtain ⟨text, edges, result, hcontent⟩ := Content.eq_formula_of_expr? hexpr
      exact Entry.direct_moved (hreachable.spelled home text e edges result hcontent).1
        (hcalls home e hexpr) _ _
  | @fill approves request h =>
    obtain ⟨s, axis, block, hs, -, hfillable, hplan, hok, hworkbook⟩ := exists_of_fill h
    obtain rfl := Except.ok.inj (hplan.symm.trans (planFill_eq hs hfillable.target_on))
    refine ⟨s, _, .fill, hs, hfillable.target_on, fun spot => ?_, hok, hworkbook⟩
    rcases s.planned_cases axis request.source request.target spot with
      hkept | ⟨item, series, index, hitem, hcontinues⟩
    · rw [hkept]
      exact hentry hs spot
    · have hhome : item.content = wb.content ⟨request.sheet, item.spot⟩ := by
        rw [hitem, content, hcell hs]
      exact hreachable.direct_continues hcalls hhome hcontinues

/-! ## 3. Turns of a block -/

/-- **The turns that writing a range takes:** those of its formulas, row by row, and then the visits
of the change of all its cells. -/
def writeTurns (wb : Workbook) (sheet : SheetId) (range : Range) : List Key :=
  (keysOf sheet range).filter (wb.HasFormula ·) ++ wb.graph.visits [] (keysOf sheet range)

/-- **A block that was written:** how the workbook was when all its cells were written and none had
its turn, and how it is in the end. -/
structure Written (wb : Workbook) (sheet : SheetId) (range : Range) (entry : Spot → Entry)
    (written final : Workbook) : Prop where
  layout_eq : written.layout = wb.layout
  contents : ∀ key ∈ keysOf sheet range,
    wb.contentOfEntry key (entry key.spot) = .ok (written.content key)
  others : ∀ key, key ∉ keysOf sheet range → written.content key = wb.content key
  final_eq : final = (written.recalculateEach
    ((keysOf sheet range).filter (written.HasFormula ·))).1.spreadChange (keysOf sheet range) []

theorem map_fst_planEntries : ∀ {entries : List (Key × Entry)} {planned : List (Key × Content)},
    wb.planEntries entries = .ok planned → planned.map (·.1) = entries.map (·.1)
  | [], planned, h => by rw [← Except.ok.inj h]; rfl
  | (key, entry) :: rest, planned, h => by
    rw [planEntries_cons] at h
    obtain ⟨content, -, h⟩ := bind_eq_ok_iff.mp h
    obtain ⟨later, hlater, rfl⟩ := map_eq_ok_iff.mp h
    rw [List.map_cons, List.map_cons, map_fst_planEntries hlater]

/-- **What is planned for cells is what they hold** once it is written. -/
theorem planned_eq {keys : List Key} {entry : Key → Entry} {planned : List (Key × Content)}
    (hplanned : wb.planEntries (keys.map fun key => (key, entry key)) = .ok planned)
    (hon : ∀ key ∈ keys, wb.Has key) :
    planned = keys.map fun key => (key, (wb.writeContents planned).content key) := by
  have hkeys : planned.map (·.1) = keys := by
    rw [map_fst_planEntries hplanned, List.map_map]
    exact List.map_id _
  have hheld : ∀ kc ∈ planned, (kc.1, (wb.writeContents planned).content kc.1) = kc := by
    rintro ⟨key, content⟩ hkc
    have hkey : key ∈ keys := hkeys ▸ List.mem_map_of_mem hkc
    obtain ⟨entry', hentry', hcontent⟩ := (mem_planned_iff hplanned).mp hkc
    obtain ⟨_, -, heq⟩ := List.mem_map.mp hentry'
    obtain ⟨rfl, rfl⟩ := Prod.mk.inj heq
    rw [Except.ok.inj (hcontent.symm.trans (content_of_planned hplanned (hon _ hkey) hkey))]
  conv_rhs => rw [← hkeys, List.map_map]
  exact ((List.map_congr_left hheld).trans (List.map_id _)).symm

theorem settings_writeContents (planned : List (Key × Content)) (wb : Workbook) :
    (wb.writeContents planned).settings = wb.settings := by
  induction planned generalizing wb with
  | nil => rfl
  | cons kc planned ih => exact (ih _).trans (settings_writeAny wb kc.1 kc.2)

theorem settings_recalculateEach (keys : List Key) (wb : Workbook) :
    (wb.recalculateEach keys).1.settings = wb.settings := by
  induction keys generalizing wb with
  | nil => rfl
  | cons key keys ih => rw [recalculateEach_cons_fst, ih, settings_recalculate]

/-- The entries of a block by the places of its cells. -/
theorem zip_entries_over (sheet : SheetId) (range : Range) (entry : Spot → Entry) :
    (keysOf sheet range).zip (Block.over range entry).entries =
      (keysOf sheet range).map fun key => (key, entry key.spot) := by
  rw [keysOf, Block.over, List.zip_map', List.map_map]
  rfl

/-- **An accepted block is written.** -/
theorem exists_written {s : Sheet} {entry : Spot → Entry} {kind : ChangeKind}
    (hauto : wb.settings.autoRecalculate = true) (hs : wb.sheet sheet = .ok s)
    (hcheck : s.checkRange range = .ok ())
    (hok : (wb.writeBlock sheet (.over range entry) kind).answer = .ok ()) :
    ∃ written, wb.Written sheet range entry written
      (wb.writeBlock sheet (.over range entry) kind).workbook := by
  have hentries := zip_entries_over sheet range entry
  obtain ⟨-, planned, hplanned⟩ := (writeBlock_of_checkRange kind hs hcheck).1.mp hok
  rw [show (Block.over range entry).range = range from rfl, hentries] at hplanned
  have hon : ∀ key ∈ keysOf sheet range, wb.Has key := fun _ => has_of_checkRange hs hcheck
  have heq := planned_eq hplanned hon
  have hformulas : (planned.filter (·.2.expr?.isSome)).map (·.1) =
      (keysOf sheet range).filter ((wb.writeContents planned).HasFormula ·) := by
    conv_lhs => rw [heq, List.filter_map, List.map_map]
    refine (List.map_id _).trans (List.filter_congr fun key _ => ?_)
    exact Bool.decide_eq_true.symm
  refine ⟨wb.writeContents planned, layout_writeContents planned wb,
    fun key hkey => content_of_planned hplanned (hon key hkey) hkey, fun key hkey => ?_, ?_⟩
  · refine content_writeContents_of_ne (fun kc hkc hsame => hkey ?_) wb
    rw [heq] at hkc
    obtain ⟨key', hkey', rfl⟩ := List.mem_map.mp hkc
    exact hsame ▸ hkey'
  · have hlength :
        ¬ (Block.over range entry).entries.length ≠ (Block.over range entry).range.size :=
      not_not.mpr ((List.length_map _).trans (length_cells hcheck))
    rw [← hformulas, writeBlock, hs, Reply.guard_ok]
    dsimp only
    rw [show (Block.over range entry).range = range from rfl] at hlength ⊢
    rw [hcheck, Reply.guard_ok, if_neg hlength, hentries, ← planEntries, hplanned]
    refine workbook_complete ?_ _ _ _ _ _
    rw [settings_recalculateEach, ← writeContents, settings_writeContents, hauto]

/-- **What a direct entry becomes does not call `INDIRECT`.** -/
theorem callsIndirect_of_contentOfEntry {key : Key} {entry : Entry} {content : Content} {e : Expr}
    (h : wb.contentOfEntry key entry = .ok content) (hdirect : entry.Direct)
    (he : content.expr? = some e) : e.callsIndirect = false := by
  cases entry with
  | empty =>
    obtain rfl := Except.ok.inj h
    cases he
  | value v =>
    obtain rfl := Except.ok.inj h
    cases he
  | formula text =>
    unfold contentOfEntry contentOf at h
    dsimp only at h
    rw [parse_formulaText] at h
    cases hparse : parse text with
    | error fault =>
      rw [hparse] at h
      obtain rfl := Except.ok.inj h
      cases he
    | ok e' =>
      rw [hparse] at h
      dsimp only at h
      cases hedges : wb.edges key true e' with
      | ok edges =>
        rw [hedges] at h
        obtain rfl := Except.ok.inj h
        obtain rfl := Option.some.inj he
        exact hdirect text e' rfl hparse
      | error fault =>
        rw [hedges] at h
        cases fault with
        | ownCell key' spot =>
          obtain rfl := Except.ok.inj h
          cases he
        | beyondSheet name range => cases h

namespace Written

variable {entry : Spot → Entry} {written final : Workbook} {key : Key} {e : Expr}

/-- A cell that is written holds what may be written. -/
theorem plans (h : wb.Written sheet range entry written final) (hkey : key ∈ keysOf sheet range) :
    wb.Plans key (written.content key) :=
  plans_of_contentOfEntry (h.contents key hkey)

/-- **No formula calls `INDIRECT` once a direct block is written.** -/
theorem noIndirect (h : wb.Written sheet range entry written final) (hcalls : wb.NoIndirect)
    (hdirect : ∀ spot, (entry spot).Direct) : written.NoIndirect := by
  intro key e he
  by_cases hkey : key ∈ keysOf sheet range
  · exact callsIndirect_of_contentOfEntry (h.contents key hkey) (hdirect key.spot) he
  · rw [h.others key hkey] at he
    exact hcalls key e he

/-- **The edges are up to date once the block is written.** -/
theorem tracked (h : wb.Written sheet range entry written final) (ht : wb.Tracked) :
    written.Tracked := by
  intro key
  rw [rebuiltContent_eq h.layout_eq]
  by_cases hkey : key ∈ keysOf sheet range
  · exact rebuiltContent_of_plans (h.plans hkey)
  · rw [h.others key hkey]
    exact ht key

/-- **A formula that was written is accounted for by its edges,** even if it has none. -/
theorem sound (h : wb.Written sheet range entry written final) (hcalls : written.NoIndirect)
    (hkey : key ∈ keysOf sheet range) (he : (written.content key).expr? = some e) :
    written.Sound key e := by
  refine ⟨he, hcalls key e he, ?_⟩
  have hplans := h.plans hkey
  rw [edges_eq h.layout_eq]
  generalize written.content key = content at he hplans
  cases hplans with
  | formula hparse hedges shown =>
    obtain rfl := Option.some.inj he
    exact hedges
  | value v => cases he
  | unparsed hparse => cases he
  | discarded => cases he

/-- The turns of the block. -/
theorem turns_eq (h : wb.Written sheet range entry written final) :
    final.graph = written.graph ∧
      final.writeTurns sheet range = written.writeTurns sheet range ∧
      ∃ formats, final =
        (written.recalculateEach (written.writeTurns sheet range)).1.applyFormats formats := by
  have hturns := sameFormulas_recalculateEach
    ((keysOf sheet range).filter (written.HasFormula ·)) written
  have hgraph := graph_eq_of_edges hturns.edges_eq
  have hspread : ∃ formats, final =
      (written.recalculateEach (written.writeTurns sheet range)).1.applyFormats formats := by
    rw [h.final_eq, spreadChange, refreshFormats, hgraph, ← recalculateEach_append_fst]
    exact ⟨_, rfl⟩
  obtain ⟨formats, hfinal⟩ := hspread
  have hsame : SameFormulas written final := by
    rw [hfinal]
    exact (sameFormulas_recalculateEach _ written).trans (sameFormulas_applyFormats formats _)
  have hgraph' : final.graph = written.graph := graph_eq_of_edges hsame.edges_eq
  have hformula (key : Key) : final.HasFormula key ↔ written.HasFormula key := by
    rw [HasFormula, HasFormula, hsame.expr_eq]
  refine ⟨hgraph', ?_, formats, hfinal⟩
  simp only [writeTurns, hgraph', hformula]

/-- **Every formula that has a turn is accounted for by its edges.** -/
theorem sound_of_mem_turns (h : wb.Written sheet range entry written final) (ht : wb.Tracked)
    (hcalls : written.NoIndirect) (hkey : key ∈ written.writeTurns sheet range) :
    ∃ e, written.Sound key e := by
  rcases List.mem_append.mp hkey with hformula | hvisited
  · obtain ⟨hmem, hformula⟩ := List.mem_filter.mp hformula
    obtain ⟨e, he⟩ := hasFormula_iff.mp (of_decide_eq_true hformula)
    exact ⟨e, h.sound hcalls hmem he⟩
  · have hne := edges_ne_nil_of_mem_visits hvisited
    obtain ⟨e, he⟩ := Content.exists_expr_of_edges hne
    exact ⟨e, he, hcalls key e he, (h.tracked ht).edges_eq_ok he hne⟩

end Written

/-! ## 4. The theorem -/

/-- **When a copied formula shows its value.**  In a workbook that there can be, let no formula call
`INDIRECT`, and let a copy or a fill be accepted after which no formula reads its own cell in one or
several steps.  A formula with edges in the range that was written is fresh if one more turn would
leave it alike, that is if its last turn found all that it reads as it is left in the end.  So it is if
scan order follows the graph among the readers of the range and among those of each cell behind it,
as far as these lead to the formula. -/
theorem fresh_of_copied (h : wb.Reachable) (hauto : wb.settings.autoRecalculate = true)
    (hcalls : wb.NoIndirect) (hcopied : wb.CopiedInto sheet range wb')
    (hacyclic : wb'.graph.Acyclic) {key : Key} (hkey : key ∈ keysOf sheet range)
    (hedges : (wb'.content key).edges ≠ []) :
    let turns := wb'.writeTurns sheet range
    (wb'.graph.Alike turns (turns ++ [key]) key → wb'.Fresh key) ∧
      (wb'.graph.InOrderFor (keysOf sheet range) key →
        wb'.graph.Alike turns (turns ++ [key]) key) := by
  intro turns
  obtain ⟨s, entry, kind, hs, hcheck, hdirect, hok, hworkbook⟩ := hcopied.exists_over h hcalls
  obtain ⟨written, hwritten⟩ := exists_written hauto hs hcheck hok
  rw [← hworkbook] at hwritten
  obtain ⟨hgraph, hturns, formats, hfinal⟩ := hwritten.turns_eq
  have hcalls' := hwritten.noIndirect hcalls hdirect
  have hsound : ∀ k ∈ written.writeTurns sheet range, ∃ e, written.Sound k e :=
    fun k hk => hwritten.sound_of_mem_turns h.tracked hcalls' hk
  have hsame := sameFormulas_recalculateEach (written.writeTurns sheet range) written
  have hformula : written.HasFormula key := by
    rw [hfinal, content_applyFormats, hsame.edges_eq] at hedges
    exact hasFormula_iff.mpr (Content.exists_expr_of_edges hedges)
  have hturn : key ∈ (keysOf sheet range).filter (written.HasFormula ·) :=
    List.mem_filter.mpr ⟨hkey, decide_eq_true hformula⟩
  rw [show turns = written.writeTurns sheet range from hturns, hgraph]
  rw [hgraph] at hacyclic
  constructor
  · intro halike
    obtain ⟨e, hs⟩ := hsound key (List.mem_append_left _ hturn)
    rw [hfinal]
    exact (fresh_of_alike halike hsound).applyFormats (hsame.sound hs) formats
  · intro horder
    exact Graph.alike_of_inOrder written.pairwise_graph (fun k hk => (List.mem_filter.mp hk).1)
      (fun hself => hacyclic key (.single hself)) horder hturn

/-- A formula is copied down over three cells.  Each copy reads the one above it. -/
theorem fresh_of_copied_down :
    let wb := ((Session.start {}).run [.setValue ⟨⟨0⟩, ⟨0, 0⟩⟩ (.text "x"),
      .setFormula ⟨⟨0⟩, ⟨1, 0⟩⟩ "=A1"]).workbook
    let range : Range := .make 1 0 3 1
    let final := (wb.copyFormula ⟨⟨0⟩, ⟨1, 0⟩⟩ range).workbook
    wb.Reachable ∧ wb.settings.autoRecalculate = true ∧ wb.NoIndirect ∧
      wb.CopiedInto ⟨0⟩ range final ∧ final.graph.Acyclic ∧
      (∀ key ∈ keysOf ⟨0⟩ range, (final.content key).edges ≠ [] ∧
        final.graph.InOrderFor (keysOf ⟨0⟩ range) key ∧ final.Fresh key) ∧
      final.value ⟨⟨0⟩, ⟨3, 0⟩⟩ = .text "x" := by
  intro wb range final
  have hreach : wb.Reachable := ⟨_, _, rfl⟩
  have hfacts : wb.settings.autoRecalculate = true ∧
      (∀ key ∈ wb.formulaKeys, (wb.content key).expr?.all (fun e => !e.callsIndirect) = true) ∧
      (wb.copyFormula ⟨⟨0⟩, ⟨1, 0⟩⟩ range).answer.isOk = true ∧
      (∀ r ∈ final.graph, ∀ t ∈ r.2, t.range = .single t.range.first ∧
        Key.Before ⟨t.sheet, t.range.first⟩ r.1) ∧
      (∀ key ∈ keysOf ⟨0⟩ range, (final.content key).edges ≠ []) ∧
      final.value ⟨⟨0⟩, ⟨3, 0⟩⟩ = .text "x" := by decide +kernel
  obtain ⟨hauto, hcalls, hok, hentries, hedges, hvalue⟩ := hfacts
  have hcalls : wb.NoIndirect := noIndirect_of_formulaKeys hcalls
  have hcopied : wb.CopiedInto ⟨0⟩ range final := .copy (eq_ok_of_isOk hok)
  have hbefore : ∀ x k, final.graph.Step x k → x.Before k :=
    fun _ _ hxk => Graph.forall_step_of_singles Key.Before hentries hxk
  have hacyclic := Graph.acyclic_of_before hbefore
  have horder := Graph.inOrder_of_before hbefore (keysOf ⟨0⟩ range)
  refine ⟨hreach, hauto, hcalls, hcopied, hacyclic, fun key hkey => ?_, hvalue⟩
  obtain ⟨hfresh, halike⟩ :=
    fresh_of_copied hreach hauto hcalls hcopied hacyclic hkey (hedges key hkey)
  exact ⟨hedges key hkey, horder key, hfresh (halike (horder key))⟩

/-- **A copied formula may be stale.**  Each of three formulas reads the one below it, and the last one
a text.  They are evaluated from the top, and so are the first two when the change spreads: the first
is not evaluated again after the second. -/
theorem copied_formula_stale :
    let wb := ((Session.start {}).run [.setValue ⟨⟨0⟩, ⟨3, 0⟩⟩ (.text "x"),
      .setFormula ⟨⟨0⟩, ⟨0, 0⟩⟩ "=A2"]).workbook
    let range : Range := .make 0 0 3 1
    let final := (wb.copyFormula ⟨⟨0⟩, ⟨0, 0⟩⟩ range).workbook
    wb.Reachable ∧ wb.settings.autoRecalculate = true ∧ wb.NoIndirect ∧ wb.EdgesFresh ∧
      (wb.copyFormula ⟨⟨0⟩, ⟨0, 0⟩⟩ range).answer = .ok () ∧ final.graph.Acyclic ∧
      final.value ⟨⟨0⟩, ⟨1, 0⟩⟩ = .text "x" ∧ final.value ⟨⟨0⟩, ⟨0, 0⟩⟩ ≠ .text "x" ∧
      ¬ ∀ key ∈ keysOf ⟨0⟩ range, (final.content key).edges ≠ [] → final.Fresh key := by
  intro wb range final
  let rank (k : Key) : Nat := 3 - k.spot.row
  have hfacts : wb.settings.autoRecalculate = true ∧
      (∀ key ∈ wb.formulaKeys, (wb.content key).expr?.all (fun e => !e.callsIndirect) = true) ∧
      (∀ r ∈ wb.graph, wb.Fresh r.1) ∧
      (wb.copyFormula ⟨⟨0⟩, ⟨0, 0⟩⟩ range).answer.isOk = true ∧
      (∀ r ∈ final.graph, ∀ t ∈ r.2, t.range = .single t.range.first ∧
        rank ⟨t.sheet, t.range.first⟩ < rank r.1) ∧
      final.value ⟨⟨0⟩, ⟨1, 0⟩⟩ = .text "x" ∧ final.value ⟨⟨0⟩, ⟨0, 0⟩⟩ ≠ .text "x" ∧
      ⟨⟨0⟩, ⟨0, 0⟩⟩ ∈ keysOf ⟨0⟩ range ∧ (final.content ⟨⟨0⟩, ⟨0, 0⟩⟩).edges ≠ [] ∧
      ¬ final.Fresh ⟨⟨0⟩, ⟨0, 0⟩⟩ := by decide +kernel
  obtain ⟨hauto, hcalls, hfresh, hok, hranked, hsecond, hfirst, hmem, hedges, hstale⟩ := hfacts
  exact ⟨⟨_, _, rfl⟩, hauto, noIndirect_of_formulaKeys hcalls, edgesFresh_of_graph hfresh,
    eq_ok_of_isOk hok, Graph.acyclic_of_singles rank hranked, hsecond, hfirst,
    fun hall => hstale (hall _ hmem hedges)⟩

end Workbook

end Spreadsheet
