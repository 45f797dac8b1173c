/-
# Finding everything again finds nothing new

* What the rules of a format may read is, like the edges of a formula, a matter of the layout
  (`triggers_eq`).  So the triggers of all formats are up to date in a new workbook, and every edit
  keeps them so: a format is added with the triggers it has then, and whatever changes the layout
  has all triggers found again.
* Together with the edges this makes rebuilding idle in every workbook there can be
  (`rebuild_of_reachable`): no edge, no trigger, no arrow changes, and no formula is given up.
-/
import Spreadsheet.Proofs.Tracking

namespace Spreadsheet

open Grid Formula Conditional

namespace Workbook

variable {wb wb' : Workbook} {key : Key}

/-! ## 1. Triggers -/

theorem ruleEdges_eq (h : wb.layout = wb'.layout) (sheet : SheetId) (range : Range)
    (rules : List Rule) : wb.ruleEdges sheet range rules = wb'.ruleEdges sheet range rules := by
  simp only [ruleEdges, edges_eq h]

/-- **The triggers of a format depend on the layout alone.** -/
theorem triggers_eq (h : wb.layout = wb'.layout) (sheet : SheetId) (range : Range)
    (rules : List Rule) : wb.triggers sheet range rules = wb'.triggers sheet range rules := by
  rw [triggers, triggers, ruleEdges_eq h]
  refine congrArg (List.foldl · _ _) (funext fun triggers => funext fun edge => ?_)
  -- Of the sheet that an edge leads to only the extents are asked.
  have hsheet := outline_eq h edge.target.sheet
  cases hs : wb.sheet? edge.target.sheet with
  | none =>
    rw [hs] at hsheet
    rw [Option.map_eq_none_iff.mp hsheet.symm]
  | some s =>
    rw [hs] at hsheet
    obtain ⟨s', hs', hout⟩ := Option.map_eq_some_iff.mp hsheet.symm
    simp only [Sheet.outline, Outline.mk.injEq] at hout
    simp only [hs', hout]

theorem retrigger_eq (h : wb.layout = wb'.layout) (sheet : SheetId) (format : Format) :
    wb.retrigger sheet format = wb'.retrigger sheet format := by
  rw [retrigger, retrigger, triggers_eq h]

/-- Finding triggers twice is finding them once. -/
@[simp] theorem retrigger_retrigger (wb : Workbook) (sheet : SheetId) (format : Format) :
    wb.retrigger sheet (wb.retrigger sheet format) = wb.retrigger sheet format := rfl

/-! ## 2. The invariant -/

/-- **A workbook whose triggers are up to date:** finding them again would change no format. -/
def Triggered (wb : Workbook) : Prop :=
  ∀ id s n format, wb.sheet? id = some s → s.formats.get? n = some format →
    wb.retrigger id format = format

/-- What keeps the layout and brings no format into being keeps the triggers up to date. -/
theorem Triggered.of_formats (ht : wb.Triggered) (hlayout : wb'.layout = wb.layout)
    (h : ∀ id s' n format, wb'.sheet? id = some s' → s'.formats.get? n = some format →
      ∃ s, wb.sheet? id = some s ∧ s.formats.get? n = some format) : wb'.Triggered := by
  intro id s' n format hs' hformat
  obtain ⟨s, hs, hformat⟩ := h id s' n format hs' hformat
  rw [retrigger_eq hlayout]
  exact ht id s n format hs hformat

/-- What keeps the outline of a sheet and brings no format into being keeps the triggers up to
date. -/
theorem Triggered.onSheet (ht : wb.Triggered) (id : SheetId) {change : Sheet → Sheet}
    (houtline : ∀ s, (change s).outline = s.outline)
    (h : ∀ s n format, (change s).formats.get? n = some format →
      s.formats.get? n = some format) : (wb.onSheet id change).Triggered := by
  refine ht.of_formats (layout_onSheet id houtline) fun j s' n format hs' hformat => ?_
  rw [sheet?_onSheet] at hs'
  split at hs'
  · obtain ⟨s, hs, rfl⟩ := Option.map_eq_some_iff.mp hs'
    exact ⟨s, hs, h s n format hformat⟩
  · exact ⟨s', hs', hformat⟩

theorem Triggered.recalculate (ht : wb.Triggered) (key : Key) :
    (wb.recalculate key).1.Triggered := by
  unfold Workbook.recalculate
  split
  · exact ht
  · exact ht.onSheet key.sheet (fun _ => rfl) fun _ _ _ hformat => hformat

theorem Triggered.writeAny (ht : wb.Triggered) (key : Key) (content : Content) :
    (wb.writeAny key content).Triggered := by
  have hwrite (content : Content) : (wb.writeContent key content).Triggered :=
    ht.onSheet key.sheet (fun _ => rfl) fun _ _ _ hformat => hformat
  cases content with
  | value v =>
    refine ht.onSheet key.sheet (fun s => outline_writeValue s key.spot v)
      fun s n format hformat => ?_
    unfold Sheet.writeValue at hformat
    dsimp only at hformat
    split at hformat <;> exact hformat
  | formula text e edges result => exact hwrite _
  | unparsed text => exact hwrite _
  | discarded => exact hwrite _

/-- **A format is added with the triggers that it has.** -/
theorem Triggered.addFormat (ht : wb.Triggered) (sheet : SheetId) (s : Sheet) (ids : List Nat)
    (definition : Range × List Rule) : (addFormat sheet s (wb, ids) definition).1.Triggered := by
  have hlayout := layout_addFormat sheet s (wb, ids) definition
  intro id s' n format hs' hformat
  rw [retrigger_eq hlayout]
  have hsheet : (wb.onSheet sheet fun t => { t with
      formats := t.formats.put wb.nextFormat (wb.retrigger sheet
        ⟨definition.1.cut s.rows s.cols, definition.2, []⟩) }).sheet? id = some s' := hs'
  rw [sheet?_onSheet] at hsheet
  split at hsheet
  · rename_i hid
    subst hid
    obtain ⟨t, hold, rfl⟩ := Option.map_eq_some_iff.mp hsheet
    rw [Table.get?_put] at hformat
    split at hformat
    · rw [← Option.some.inj hformat, retrigger_retrigger]
    · exact ht sheet t n format hold hformat
  · exact ht id s' n format hsheet hformat

/-- **Once triggers were found again they are up to date,** whatever they were before. -/
theorem triggered_rebuild (wb : Workbook) : wb.rebuild.Triggered := by
  intro id s' n format hs' hformat
  rw [rebuild, sheet?_onSheets] at hs'
  obtain ⟨s, -, rfl⟩ := Option.map_eq_some_iff.mp hs'
  rw [rebuiltSheet, Table.get?_map] at hformat
  obtain ⟨old, -, rfl⟩ := Option.map_eq_some_iff.mp hformat
  rw [retrigger_eq (layout_rebuild wb), retrigger_retrigger]

/-- **Every edit keeps the triggers up to date.** -/
theorem Triggered.edit (h : Edit wb wb') (ht : wb.Triggered) : wb'.Triggered := by
  rcases h with key | ⟨hon, hplan⟩ | h
  · exact ht.recalculate key
  · exact ht.writeAny _ _
  cases h with
  | setStyle _ hon style => exact ht.onSheet _ (fun _ => rfl) fun _ _ _ hformat => hformat
  | applyFormat hformat => exact ht.onSheet _ (fun _ => rfl) fun _ _ _ hformat => hformat
  | addFormat hs ids definition => exact ht.addFormat _ _ ids definition
  | @removeFormat sheet s id format hs hformat =>
    refine ht.onSheet sheet (fun _ => rfl) fun s n kept hkept => ?_
    rw [Table.erase, Table.get?_filter] at hkept
    exact (Option.filter_eq_some_iff.mp hkept).1
  | resetFormatting sheet => exact ht.onSheet sheet (fun _ => rfl) fun _ _ _ hformat => hformat
  | merge hs hmerge =>
    obtain ⟨merged, hchange⟩ := exists_onSheet_merge hs hmerge
    rw [hchange]
    exact ht.onSheet _ (fun _ => rfl) fun _ _ _ hformat => hformat
  | unmerge id range => exact ht.onSheet id (fun _ => rfl) fun _ _ _ hformat => hformat
  | onArrows id change => exact ht.onSheet id (fun _ => rfl) fun _ _ _ hformat => hformat
  | changeSettings settings =>
    exact ht.of_formats rfl fun _ s _ _ hs hformat => ⟨s, hs, hformat⟩
  | rebuild => exact triggered_rebuild _
  | addSheet hname rows cols => exact triggered_rebuild _
  | resetSheet _ id rows cols => exact triggered_rebuild _
  | defineName hs hholds hnames => exact triggered_rebuild _
  | removeName id name => exact triggered_rebuild _
  | removeBand _ hs axis band hband => exact triggered_rebuild _

theorem triggered_new (settings : Settings) : (new settings).Triggered := by
  rintro ⟨i⟩ s n format hs hformat
  cases i with
  | zero =>
    obtain rfl := Option.some.inj hs
    cases hformat
  | succ i => cases hs

/-- **Every workbook there can be has its triggers up to date.** -/
theorem Reachable.triggered (h : wb.Reachable) : wb.Triggered :=
  h.induction triggered_new fun hedit ht => ht.edit hedit

/-! ## 3. Rebuilding -/

/-- No formula of a workbook whose edges are up to date reads its own cell. -/
theorem Tracked.edges_ne_ownCell (ht : wb.Tracked) {e : Expr}
    (he : (wb.content key).expr? = some e) (name : String) (spot : Spot) :
    wb.edges key true e ≠ .error (.ownCell name spot) := by
  intro hedges
  rcases ht.edges_cases he with hok | ⟨-, name', range, herror⟩
  · rw [hok] at hedges
    cases hedges
  · rw [herror] at hedges
    cases hedges

theorem Tracked.isGivenUp_eq (ht : wb.Tracked) (key : Key) :
    wb.isGivenUp key (wb.content key) = false := by
  unfold isGivenUp
  cases he : (wb.content key).expr? with
  | none => rfl
  | some e =>
    rw [Option.any_some]
    split
    · rename_i name spot hedges
      exact absurd hedges (ht.edges_ne_ownCell he name spot)
    · rfl

/-- What changes no sheet that is there changes nothing. -/
theorem onSheets_eq_self {change : SheetId → Sheet → Sheet}
    (h : ∀ id s, wb.sheet? id = some s → change id s = s) : wb.onSheets change = wb := by
  have hsheets : wb.numbered.map (fun s => change s.1 s.2) = wb.sheets := by
    refine List.ext_getElem? fun i => ?_
    have hget : (wb.onSheets change).sheet? ⟨i⟩ = wb.sheet? ⟨i⟩ := by
      rw [sheet?_onSheets]
      cases hs : wb.sheet? ⟨i⟩ with
      | none => rfl
      | some s => exact congrArg some (h ⟨i⟩ s hs)
    exact hget
  rw [onSheets, hsheets]

/-- What changes no entry of a table changes nothing. -/
theorem map_eq_self {κ α : Type} [Ord κ] [Std.TransOrd κ] [Std.LawfulEqOrd κ] (t : Table κ α)
    {f : κ → α → α} (h : ∀ k v, t.get? k = some v → f k v = v) : t.map f = t := by
  refine Table.ext ?_
  refine (List.map_congr_left fun e he => ?_).trans (List.map_id _)
  exact Prod.ext rfl (h e.1 e.2 ((t.get?_eq_some_iff).mpr he))

/-- **Rebuilding is idle once edges and triggers are up to date.** -/
theorem rebuild_eq_self (ht : wb.Tracked) (hf : wb.Triggered) : wb.rebuild = wb := by
  refine onSheets_eq_self fun id s hs => ?_
  have hcontent {spot : Spot} {c : Cell} (hc : s.cells.get? spot = some c) :
      wb.content ⟨id, spot⟩ = c.content := by
    rw [content, cell_eq_elim, hs]
    exact congrArg (fun c => (c.getD default).content) hc
  have hcells : (s.cells.map fun spot c =>
      { c with content := wb.rebuiltContent ⟨id, spot⟩ c.content }) = s.cells := by
    refine map_eq_self s.cells fun spot c hc => ?_
    rw [← hcontent hc, ht, hcontent hc]
  have hformats : (s.formats.map fun _ format => wb.retrigger id format) = s.formats :=
    map_eq_self s.formats fun n format hformat => hf id s n format hs hformat
  have hgivenUp : (s.cells.entries.filter fun e => wb.isGivenUp ⟨id, e.1⟩ e.2.content) = [] := by
    refine List.filter_eq_nil_iff.mpr fun e he => ?_
    rw [← hcontent ((s.cells.get?_eq_some_iff).mpr he), ht.isGivenUp_eq]
    exact Bool.false_ne_true
  rw [rebuiltSheet, hcells, hformats, hgivenUp]
  rfl

/-- **Edges and triggers are never out of date.**  In every workbook there can be, a formula has the
edges that are found now, or none if they cannot be found; nothing else has edges; every format has
the triggers that are found now; no formula would be given up; and so rebuilding changes nothing at
all. -/
theorem rebuild_of_reachable (h : wb.Reachable) :
    (∀ key e, (wb.content key).expr? = some e →
      wb.edges key true e = .ok (wb.content key).edges ∨
        (wb.content key).edges = [] ∧ ∃ fault, wb.edges key true e = .error fault) ∧
      (∀ key, (wb.content key).expr? = none → (wb.content key).edges = []) ∧
      (∀ id s n format, wb.sheet? id = some s → s.formats.get? n = some format →
        format.triggers = wb.triggers id format.range format.rules) ∧
      (∀ key e name spot, (wb.content key).expr? = some e →
        wb.edges key true e ≠ .error (.ownCell name spot)) ∧
      wb.rebuild = wb := by
  have ht := h.tracked
  have hf := h.triggered
  refine ⟨fun key e he => ?_, fun key hnone => ?_, fun id s n format hs hformat => ?_,
    fun key e name spot he => ht.edges_ne_ownCell he name spot, rebuild_eq_self ht hf⟩
  · refine (ht.edges_cases he).imp_right fun ⟨hnil, name, range, herror⟩ => ⟨hnil, _, herror⟩
  · cases hcontent : wb.content key with
    | formula text e edges result =>
      rw [hcontent] at hnone
      cases hnone
    | value v => rfl
    | unparsed text => rfl
    | discarded => rfl
  · exact (congrArg Format.triggers (hf id s n format hs hformat)).symm

/-- `B1` reads a sheet that is added later and then loses its first row, and a format of `A1:A3`
asks for what stands to the right of its cells. -/
theorem rebuild_of_reachable_followed :
    let wb := ((Session.start {}).run [.setFormula ⟨⟨0⟩, ⟨0, 1⟩⟩ "=A1+Data!A2",
      .addFormats ⟨0⟩ [(.make 0 0 3 1, [⟨.expression (.ofText "=B1>1"), 1, { bold := some true }⟩])],
      .addSheetSized "Data" 5 5, .deleteLines ⟨1⟩ .rows 0 1]).workbook
    wb.Reachable ∧
      (∃ e, (wb.content ⟨⟨0⟩, ⟨0, 1⟩⟩).expr? = some e ∧
        (wb.content ⟨⟨0⟩, ⟨0, 1⟩⟩).edges.map (·.target) =
          [⟨⟨0⟩, .single ⟨0, 0⟩⟩, ⟨⟨1⟩, .single ⟨0, 0⟩⟩] ∧
        wb.edges ⟨⟨0⟩, ⟨0, 1⟩⟩ true e = .ok (wb.content ⟨⟨0⟩, ⟨0, 1⟩⟩).edges) ∧
      (∃ s format, wb.sheet? ⟨0⟩ = some s ∧ s.formats.get? 0 = some format ∧
        format.triggers = [⟨⟨0⟩, .make 0 0 3 1⟩, ⟨⟨0⟩, .make 0 1 3 1⟩] ∧
        format.triggers = wb.triggers ⟨0⟩ format.range format.rules) ∧
      wb.rebuild = wb := by
  intro wb
  have hreach : wb.Reachable := ⟨_, _, rfl⟩
  obtain ⟨hedges, -, htriggers, -, hrebuild⟩ := rebuild_of_reachable hreach
  have hread : (wb.content ⟨⟨0⟩, ⟨0, 1⟩⟩).edges.map (·.target) =
      [⟨⟨0⟩, .single ⟨0, 0⟩⟩, ⟨⟨1⟩, .single ⟨0, 0⟩⟩] := by decide +kernel
  have hfound : (wb.sheet? ⟨0⟩).bind (fun s => (s.formats.get? 0).map (·.triggers)) =
      some [⟨⟨0⟩, .make 0 0 3 1⟩, ⟨⟨0⟩, .make 0 1 3 1⟩] := by decide +kernel
  have hne : (wb.content ⟨⟨0⟩, ⟨0, 1⟩⟩).edges ≠ [] := by
    intro hnil
    rw [hnil] at hread
    cases hread
  obtain ⟨e, he⟩ := Content.exists_expr_of_edges hne
  obtain ⟨s, hs, hformat⟩ := Option.bind_eq_some_iff.mp hfound
  obtain ⟨format, hformat, hlisted⟩ := Option.map_eq_some_iff.mp hformat
  exact ⟨hreach, ⟨e, he, hread, (hedges _ e he).resolve_right fun h => hne h.1⟩,
    ⟨s, format, hs, hformat, hlisted, htriggers _ s 0 format hs hformat⟩, hrebuild⟩

end Workbook

end Spreadsheet
