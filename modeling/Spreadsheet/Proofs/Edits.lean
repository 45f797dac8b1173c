/-
# What commands are made of

There are many commands, but few things they do to a workbook.  An *edit* is one of those things:
a cell is evaluated, something is written that may stand in its cell, or there is a *change* besides:
a format is applied, names or sheets change and all edges are found again.

* What is to be written is planned against the layout.  A write keeps the layout, so a plan for
  several cells stays good while it is carried out (`edits_writes`).
* A formula that was written is evaluated before the command is over.  So commands come in *phases*,
  which are larger than edits: no phase leaves a formula unevaluated that it wrote.  What is told
  belongs to them, too.
* Every command is a run of phases (`phases_step`), and so every workbook there can be is one after
  edits of a new workbook (`Reachable.induction`).
* Few changes choose a style for a cell or move it elsewhere.  Phases say whether there is one among
  them.

What every edit keeps is then kept by every command, and what only whole phases keep, too.
-/
import Mathlib.Logic.Relation
import Spreadsheet.Proofs.Footprint
import Spreadsheet.Session

namespace Spreadsheet

open Grid Formula Conditional
open Relation (ReflTransGen)

namespace Workbook

/-! ## 1. Plans -/

/-- There is such a place in the workbook. -/
def Has (wb : Workbook) (key : Key) : Prop :=
  ∃ s, wb.sheet? key.sheet = some s ∧ s.check key.spot = .ok ()

/-- **A format of a sheet of the workbook.** -/
def HasFormat (wb : Workbook) (sheet : SheetId) (format : Format) : Prop :=
  ∃ s n, wb.sheet? sheet = some s ∧ s.formats.get? n = some format

/-- **What may be written into a cell:** a value, a formula with the edges it has there, a text that
is no formula, or nothing in place of a formula that reads its own cell.  The text is what is kept
of a text that was given.  A formula comes with some value until it is evaluated. -/
inductive Plans (wb : Workbook) (key : Key) : Content → Prop
  | value (v : Value) : Plans wb key (.value v)
  | formula {given : String} {e : Expr} {edges : List Edge}
      (hparse : parse (formulaText given) = .ok e) (hedges : wb.edges key true e = .ok edges)
      (shown : Value) : Plans wb key (.formula (formulaText given) e edges (.value shown))
  | unparsed {given : String} {fault : ParseFault}
      (hparse : parse (formulaText given) = .error fault) :
      Plans wb key (.unparsed (formulaText given))
  | discarded : Plans wb key .discarded

variable {wb wb' : Workbook} {key : Key}

theorem check_eq {s s' : Sheet} (h : s.outline = s'.outline) (spot : Spot) :
    s.check spot = s'.check spot := by
  simp only [Sheet.outline, Outline.mk.injEq] at h
  obtain ⟨-, hrows, hcols, -⟩ := h
  rw [Sheet.check, Sheet.check, hrows, hcols]

/-- Workbooks of one layout have the same places. -/
theorem Has.congr (h : wb.layout = wb'.layout) (hon : wb.Has key) : wb'.Has key := by
  obtain ⟨s, hs, hcheck⟩ := hon
  have hout := outline_eq h key.sheet
  rw [hs] at hout
  obtain ⟨s', hs', hss⟩ := Option.map_eq_some_iff.mp hout.symm
  exact ⟨s', hs', (check_eq hss key.spot).trans hcheck⟩

/-- **A plan is one for every workbook of the same layout.** -/
theorem Plans.congr (h : wb.layout = wb'.layout) {content : Content}
    (hplan : wb.Plans key content) : wb'.Plans key content := by
  cases hplan with
  | value v => exact .value v
  | formula hparse hedges shown => exact .formula hparse (edges_eq h key true _ ▸ hedges) shown
  | unparsed hparse => exact .unparsed hparse
  | discarded => exact .discarded

/-- What a text becomes may be written. -/
theorem plans_of_contentOf {text : String} {content : Content}
    (h : wb.contentOf key text = .ok content) : wb.Plans key content := by
  unfold contentOf at h
  dsimp only at h
  split at h
  · rename_i fault hparse
    obtain rfl := Except.ok.inj h
    exact .unparsed hparse
  · rename_i e hparse
    obtain ⟨edges, hedges, rfl⟩ := map_eq_ok_iff.mp h
    exact .formula hparse hedges _

/-- What an entry of a block becomes may be written. -/
theorem plans_of_contentOfEntry {entry : Entry} {content : Content}
    (h : wb.contentOfEntry key entry = .ok content) : wb.Plans key content := by
  cases entry with
  | empty => obtain rfl := Except.ok.inj h; exact .value _
  | value v => obtain rfl := Except.ok.inj h; exact .value v
  | formula text =>
    unfold contentOfEntry at h
    dsimp only at h
    split at h
    · rename_i planned hplanned
      obtain rfl := Except.ok.inj h
      exact plans_of_contentOf hplanned
    · obtain rfl := Except.ok.inj h
      exact .discarded
    · cases h

/-! ## 2. Edits -/

/-- **What is done to a workbook** besides evaluating a cell and writing into one.  Which style was
chosen for which cell can be different afterwards only if the change is one of those that are
marked. -/
inductive Change (choosing : Bool) : Workbook → Workbook → Prop
  | setStyle {wb : Workbook} {key : Key} (hchoosing : choosing = true) (hon : wb.Has key)
      (style : Style) :
      Change choosing wb
        (wb.onSheet key.sheet fun s => s.settle key.spot ((s.cell key.spot).choose style))
  | applyFormat {wb : Workbook} {sheet : SheetId} {format : Format}
      (hformat : wb.HasFormat sheet format) : Change choosing wb (wb.applyFormat sheet format)
  | addFormat {wb : Workbook} {sheet : SheetId} {s : Sheet}
      (hs : (wb.sheet? sheet).map Sheet.outline = some s.outline) (ids : List Nat)
      (definition : Range × List Rule) :
      Change choosing wb (addFormat sheet s (wb, ids) definition).1
  | removeFormat {wb : Workbook} {sheet : SheetId} {s : Sheet} {id : Nat} {format : Format}
      (hs : wb.sheet? sheet = some s) (hformat : s.formats.get? id = some format) :
      Change choosing wb (wb.onSheet sheet fun s =>
        { s with
          formats := s.formats.erase id
          cells := s.cells.map fun spot c => if format.range.covers spot then c.restore else c })
  | resetFormatting (wb : Workbook) (sheet : SheetId) :
      Change choosing wb (wb.onSheet sheet resetTouched)
  | merge {wb : Workbook} {id : SheetId} {s s' : Sheet} {range : Range}
      (hs : wb.sheet? id = some s) (hmerge : s.merge range = .ok s') :
      Change choosing wb (wb.onSheet id fun _ => s')
  | unmerge (wb : Workbook) (id : SheetId) (range : Range) :
      Change choosing wb (wb.onSheet id (·.unmerge range))
  | onArrows (wb : Workbook) (id : SheetId) (change : Arrows → Arrows) :
      Change choosing wb (wb.onArrows id change)
  | changeSettings (wb : Workbook) (settings : Settings) :
      Change choosing wb { wb with settings }
  | rebuild (wb : Workbook) : Change choosing wb wb.rebuild
  | addSheet {wb : Workbook} {name : String} (hname : wb.checkSheetName name = .ok ())
      (rows cols : Nat) :
      Change choosing wb { wb with sheets := wb.sheets ++ [Sheet.new name rows cols] }.rebuild
  | resetSheet (wb : Workbook) (hchoosing : choosing = true) (id : SheetId) (rows cols : Nat) :
      Change choosing wb (wb.onSheet id fun s => .new s.name rows cols).rebuild
  | defineName {wb : Workbook} {id : SheetId} {s : Sheet} {name : String} {range : Range}
      {names : NameTable} (hs : wb.sheet? id = some s) (hholds : s.holds range = true)
      (hnames : s.names.define name range = .ok names) :
      Change choosing wb (wb.onSheet id fun s => { s with names }).rebuild
  | removeName (wb : Workbook) (id : SheetId) (name : String) :
      Change choosing wb (wb.onSheet id fun s => { s with names := s.names.remove name }).rebuild
  | removeBand {wb : Workbook} {id : SheetId} {s : Sheet} (hchoosing : choosing = true)
      (hs : wb.sheet? id = some s) (axis : Axis) (band : Span)
      (hband : band.first + band.count ≤ s.extent axis) :
      Change choosing wb (wb.removeBand id axis band).rebuild

/-- **One thing that happens to a workbook.** -/
inductive Edit : Workbook → Workbook → Prop
  | evaluate (wb : Workbook) (key : Key) : Edit wb (wb.recalculate key).1
  | write {wb : Workbook} {key : Key} {content : Content} (hon : wb.Has key)
      (hplan : wb.Plans key content) : Edit wb (wb.writeAny key content)
  | change {wb wb' : Workbook} {choosing : Bool} (h : Change choosing wb wb') : Edit wb wb'

/-- **A run of edits.** -/
abbrev Edits : Workbook → Workbook → Prop := ReflTransGen Edit

/-! ## 3. Edits that keep the layout -/

theorem layout_onSheet (id : SheetId) {change : Sheet → Sheet}
    (h : ∀ s, (change s).outline = s.outline) : (wb.onSheet id change).layout = wb.layout := by
  refine List.ext_getElem? fun i => ?_
  rw [getElem?_layout _ ⟨i⟩, getElem?_layout _ ⟨i⟩, sheet?_onSheet]
  split
  · rw [Option.map_map]
    exact congrArg (Option.map · _) (funext h)
  · rfl

theorem layout_mapContent (key : Key) (change : Content → Content) :
    (wb.mapContent key change).layout = wb.layout :=
  layout_onSheet key.sheet fun _ => rfl

@[simp] theorem layout_recalculate (wb : Workbook) (key : Key) :
    (wb.recalculate key).1.layout = wb.layout := by
  unfold recalculate
  split
  · rfl
  · exact layout_mapContent key _

theorem outline_writeValue (s : Sheet) (spot : Spot) (v : Value) :
    (s.writeValue spot v).outline = s.outline := by
  unfold Sheet.writeValue
  dsimp only
  split <;> rfl

@[simp] theorem layout_writeValue (wb : Workbook) (key : Key) (v : Value) :
    (wb.writeValue key v).layout = wb.layout :=
  layout_onSheet key.sheet fun s => outline_writeValue s key.spot v

@[simp] theorem layout_writeContent (wb : Workbook) (key : Key) (content : Content) :
    (wb.writeContent key content).layout = wb.layout :=
  layout_onSheet key.sheet fun _ => rfl

/-- **Writing keeps the layout.** -/
@[simp] theorem layout_writeAny (wb : Workbook) (key : Key) (content : Content) :
    (wb.writeAny key content).layout = wb.layout := by
  cases content <;> simp [writeAny]

@[simp] theorem layout_applyFormat (wb : Workbook) (sheet : SheetId) (format : Format) :
    (wb.applyFormat sheet format).layout = wb.layout :=
  layout_onSheet sheet fun _ => rfl

@[simp] theorem layout_applyFormats (formats : List (SheetId × Format)) (wb : Workbook) :
    (wb.applyFormats formats).layout = wb.layout := by
  unfold applyFormats
  split
  · rename_i henabled
    clear henabled
    induction formats generalizing wb with
    | nil => rfl
    | cons f formats ih => exact (ih _).trans (layout_applyFormat wb f.1 f.2)
  · rfl

/-- What keeps the outline of every sheet keeps the layout. -/
theorem layout_onSheets {change : SheetId → Sheet → Sheet}
    (h : ∀ id s, (change id s).outline = s.outline) (wb : Workbook) :
    (wb.onSheets change).layout = wb.layout := by
  refine List.ext_getElem? fun i => ?_
  rw [getElem?_layout _ ⟨i⟩, getElem?_layout _ ⟨i⟩, sheet?_onSheets, Option.map_map]
  exact Option.map_congr fun s _ => h ⟨i⟩ s

/-- Finding the edges again keeps the layout. -/
@[simp] theorem layout_rebuild (wb : Workbook) : wb.rebuild.layout = wb.layout := by
  refine layout_onSheets (fun id s => ?_) wb
  rfl

/-! ## 4. Phases -/

end Workbook

/-- Whether an event tells of an evaluation that failed in a way that no formula should. -/
def Event.isFailure : Event → Bool
  | .failed _ _ => true
  | _ => false

namespace Workbook

variable {choosing : Bool} {wb wb' wb'' : Workbook} {key : Key} {told more : List Event}

/-- Writes into several cells, one after the other. -/
def writeAll (wb : Workbook) (planned : List (Key × Content)) : Workbook :=
  planned.foldl (fun wb kc => wb.writeAny kc.1 kc.2) wb

/-- **A part of a command,** with what is told in it.  What was planned is written as a whole, and the
formulas among it are evaluated. -/
inductive Phase (choosing : Bool) : Workbook → List Event → Workbook → Prop
  | evaluate (wb : Workbook) (key : Key) :
      Phase choosing wb (wb.recalculate key).2 (wb.recalculate key).1
  | enter {wb : Workbook} (planned : List (Key × Content)) (formulas : List Key)
      (hplanned : ∀ kc ∈ planned, wb.Has kc.1 ∧ wb.Plans kc.1 kc.2)
      (hformulas : ∀ kc ∈ planned, kc.2.expr? ≠ none → kc.1 ∈ formulas) :
      Phase choosing wb ((wb.writeAll planned).recalculateEach formulas).2
        ((wb.writeAll planned).recalculateEach formulas).1
  | change {wb wb' : Workbook} (h : Change choosing wb wb') : Phase choosing wb [] wb'
  | tell (wb : Workbook) {event : Event} (h : event.isFailure = false) :
      Phase choosing wb [event] wb

/-- **A run of phases,** with what is told on the way. -/
inductive Phases (choosing : Bool) : Workbook → List Event → Workbook → Prop
  | refl (wb : Workbook) : Phases choosing wb [] wb
  | next {wb wb' wb'' : Workbook} {told more : List Event} (h : Phase choosing wb told wb')
      (hrest : Phases choosing wb' more wb'') : Phases choosing wb (told ++ more) wb''

theorem Phases.trans (h : Phases choosing wb told wb') (hrest : Phases choosing wb' more wb'') :
    Phases choosing wb (told ++ more) wb'' := by
  induction h with
  | refl => exact hrest
  | next h _ ih =>
    rw [List.append_assoc]
    exact .next h (ih hrest)

theorem Phase.run (h : Phase choosing wb told wb') : Phases choosing wb told wb' := by
  have hrun := Phases.next h (.refl wb')
  rwa [List.append_nil] at hrun

/-- A change that chooses nothing is a change, too. -/
theorem Change.anyhow (h : Change choosing wb wb') : Change true wb wb' := by
  cases h with
  | setStyle _ hon style => exact .setStyle rfl hon style
  | applyFormat hformat => exact .applyFormat hformat
  | addFormat hs ids definition => exact .addFormat hs ids definition
  | removeFormat hs hformat => exact .removeFormat hs hformat
  | resetFormatting sheet => exact .resetFormatting _ sheet
  | merge hs hmerge => exact .merge hs hmerge
  | unmerge id range => exact .unmerge _ id range
  | onArrows id change => exact .onArrows _ id change
  | changeSettings settings => exact .changeSettings _ settings
  | rebuild => exact .rebuild _
  | addSheet hname rows cols => exact .addSheet hname rows cols
  | resetSheet _ id rows cols => exact .resetSheet _ rfl id rows cols
  | defineName hs hholds hnames => exact .defineName hs hholds hnames
  | removeName id name => exact .removeName _ id name
  | removeBand _ hs axis band hband => exact .removeBand rfl hs axis band hband

theorem Phase.anyhow (h : Phase choosing wb told wb') : Phase true wb told wb' := by
  cases h with
  | evaluate key => exact .evaluate _ key
  | enter planned formulas hplanned hformulas => exact .enter planned formulas hplanned hformulas
  | change h => exact .change h.anyhow
  | tell h => exact .tell wb h

theorem Phases.anyhow (h : Phases choosing wb told wb') : Phases true wb told wb' := by
  induction h with
  | refl => exact .refl _
  | next h _ ih => exact .next h.anyhow ih

/-- What is done without a word may come behind. -/
theorem Phases.trans_silent (h : Phases choosing wb told wb')
    (hrest : Phases choosing wb' [] wb'') : Phases choosing wb told wb'' := by
  have hrun := h.trans hrest
  rwa [List.append_nil] at hrun

/-- A change may come first. -/
theorem Phases.of_change (h : Change choosing wb wb') (hrest : Phases choosing wb' told wb'') :
    Phases choosing wb told wb'' :=
  .next (.change h) hrest

theorem recalculateEach_cons_snd (wb : Workbook) (key : Key) (keys : List Key) :
    (wb.recalculateEach (key :: keys)).2 =
      (wb.recalculate key).2 ++ ((wb.recalculate key).1.recalculateEach keys).2 := by
  let visit (r : Workbook × List Event) (k : Key) : Workbook × List Event :=
    ((r.1.recalculate k).1, r.2 ++ (r.1.recalculate k).2)
  have hsnd (ks : List Key) (wb : Workbook) (told : List Event) :
      (ks.foldl visit (wb, told)).2 = told ++ (ks.foldl visit (wb, [])).2 := by
    induction ks generalizing wb told with
    | nil => exact (List.append_nil told).symm
    | cons k ks ih =>
      rw [List.foldl_cons, List.foldl_cons, ih, ih (wb.recalculate k).1 ([] ++ _), List.nil_append,
        List.append_assoc]
  exact hsnd keys (wb.recalculate key).1 (wb.recalculate key).2

theorem phases_recalculateEach (keys : List Key) (wb : Workbook) :
    Phases choosing wb (wb.recalculateEach keys).2 (wb.recalculateEach keys).1 := by
  induction keys generalizing wb with
  | nil => exact .refl wb
  | cons key keys ih =>
    rw [recalculateEach_cons_fst, recalculateEach_cons_snd]
    exact .next (.evaluate wb key) (ih _)

/-- Applying a format keeps the formats. -/
theorem HasFormat.applyFormat {id sheet : SheetId} {format applied : Format}
    (h : wb.HasFormat id format) : (wb.applyFormat sheet applied).HasFormat id format := by
  obtain ⟨s, n, hs, hformat⟩ := h
  rw [Workbook.applyFormat, HasFormat, sheet?_onSheet, hs]
  split
  · exact ⟨_, n, rfl, hformat⟩
  · exact ⟨s, n, rfl, hformat⟩

theorem hasFormat_of_mem_formats {sheet : SheetId} {f : Nat × Format} (h : f ∈ wb.formats sheet) :
    wb.HasFormat sheet f.2 := by
  unfold formats at h
  cases hs : wb.sheet? sheet with
  | none =>
    rw [hs] at h
    cases h
  | some s =>
    rw [hs] at h
    exact ⟨s, f.1, hs, s.formats.get?_eq_some_iff.mpr h⟩

theorem hasFormat_of_mem_allFormats {f : SheetId × Format} (h : f ∈ wb.allFormats) :
    wb.HasFormat f.1 f.2 := by
  obtain ⟨⟨id, s⟩, hs, hf⟩ := List.mem_flatMap.mp h
  obtain ⟨e, he, rfl⟩ := List.mem_map.mp hf
  exact ⟨s, e.1, mem_numbered.mp hs, s.formats.get?_eq_some_iff.mpr he⟩

theorem phases_applyFormats (formats : List (SheetId × Format)) (wb : Workbook)
    (hformats : ∀ f ∈ formats, wb.HasFormat f.1 f.2) :
    Phases choosing wb [] (wb.applyFormats formats) := by
  unfold applyFormats
  split
  · rename_i henabled
    clear henabled
    induction formats generalizing wb with
    | nil => exact .refl wb
    | cons f formats ih =>
      obtain ⟨hf, hrest⟩ := List.forall_mem_cons.mp hformats
      exact .of_change (.applyFormat hf) (ih _ fun g hg => (hrest g hg).applyFormat)
  · exact .refl wb

/-- What cells trigger are formats that are there. -/
theorem phases_refreshFormats (wb : Workbook) (changed : List Key) :
    Phases choosing wb [] (wb.refreshFormats changed) :=
  phases_applyFormats _ _ fun _ hf => hasFormat_of_mem_allFormats (List.mem_filter.mp hf).1

/-- So are some of the formats of a sheet. -/
theorem phases_applySome (wb : Workbook) (sheet : SheetId) (keep : Nat × Format → Bool) :
    Phases choosing wb []
      (wb.applyFormats (((wb.formats sheet).filter keep).map fun f => (sheet, f.2))) :=
  phases_applyFormats _ _ fun f hf => by
    obtain ⟨e, he, rfl⟩ := List.mem_map.mp hf
    exact hasFormat_of_mem_formats (List.mem_filter.mp he).1

/-- **A plan for several cells can be carried out one cell after the other.** -/
theorem edits_writes : ∀ {planned : List (Key × Content)} {wb : Workbook},
    (∀ kc ∈ planned, wb.Has kc.1 ∧ wb.Plans kc.1 kc.2) →
      Edits wb (wb.writeAll planned)
  | [], _, _ => .refl
  | kc :: rest, wb, h => by
    obtain ⟨hon, hplan⟩ := h kc List.mem_cons_self
    have hlayout : wb.layout = (wb.writeAny kc.1 kc.2).layout := (layout_writeAny wb _ _).symm
    refine .head (.write hon hplan) (edits_writes fun kc' hkc' => ?_)
    obtain ⟨hon', hplan'⟩ := h kc' (List.mem_cons_of_mem _ hkc')
    exact ⟨hon'.congr hlayout, hplan'.congr hlayout⟩

theorem edits_recalculateEach (keys : List Key) (wb : Workbook) :
    Edits wb (wb.recalculateEach keys).1 := by
  induction keys generalizing wb with
  | nil => exact .refl
  | cons key keys ih =>
    rw [recalculateEach_cons_fst]
    exact .head (.evaluate wb key) (ih _)

/-- **A phase is a run of edits.** -/
theorem Phase.edits (h : Phase choosing wb told wb') : Edits wb wb' := by
  cases h with
  | evaluate key => exact .single (.evaluate wb key)
  | enter planned formulas hplanned _ =>
    exact (edits_writes hplanned).trans (edits_recalculateEach formulas _)
  | change h => exact .single (.change h)
  | tell => exact .refl

theorem Phases.edits (h : Phases choosing wb told wb') : Edits wb wb' := by
  induction h with
  | refl => exact .refl
  | next h _ ih => exact h.edits.trans ih

/-- **An operation that is a run of phases.** -/
def Phased (choosing : Bool) {α : Type} (wb : Workbook) (r : Reply α) : Prop :=
  Phases choosing wb r.events r.workbook

/-- An operation behind a check is a run of phases if it is one when the check passed. -/
theorem phased_guard {α β : Type} {check : Except Error β} {go : β → Reply α}
    (h : ∀ b, check = .ok b → Phased choosing wb (go b)) :
    Phased choosing wb (Reply.guard wb check go) := by
  cases check with
  | error e => exact .refl wb
  | ok b => exact h b rfl

/-- **Completing an edit** ends what has been done so far. -/
theorem phased_complete {α : Type} (changed : List Key) (stack : List (List Key)) {event : Event}
    (hevent : event.isFailure = false) (answer : Except Error α) (h : Phases choosing wb told wb') :
    Phased choosing wb (wb'.complete changed stack event told answer) :=
  ((h.trans (phases_recalculateEach _ wb')).trans_silent (phases_refreshFormats _ _)).trans
    (Phase.tell _ hevent).run

theorem phased_calculate (wb : Workbook) : Phased choosing wb wb.calculate :=
  (phases_recalculateEach _ wb).trans_silent
    (phases_applyFormats _ _ fun _ => hasFormat_of_mem_allFormats)

/-- What is rebuilt in one change may be recalculated afterwards. -/
theorem phased_refresh {α : Type} {changed : Workbook} (h : Change choosing wb changed.rebuild)
    (answer : α) : Phased choosing wb (changed.refresh answer) :=
  .of_change h (phased_calculate _)

/-- What changes a workbook and tells nothing is a run of phases. -/
theorem phased_change {α : Type} (h : Change choosing wb wb') (answer : Except Error α) :
    Phased choosing wb ⟨answer, wb', []⟩ :=
  (Phase.change h).run

/-- Values are written and need no evaluation. -/
theorem phases_values {planned : List (Key × Content)}
    (hplanned : ∀ kc ∈ planned, wb.Has kc.1 ∧ wb.Plans kc.1 kc.2)
    (hvalues : ∀ kc ∈ planned, kc.2.expr? = none) :
    Phases choosing wb [] (wb.writeAll planned) :=
  (Phase.enter planned [] hplanned fun kc hkc hne => absurd (hvalues kc hkc) hne).run

/-- One thing without a formula is written. -/
theorem phases_write {content : Content} (hon : wb.Has key) (hplan : wb.Plans key content)
    (hvalue : content.expr? = none) : Phases choosing wb [] (wb.writeAny key content) := by
  have hwrite : Phases choosing wb [] (wb.writeAll [(key, content)]) :=
    phases_values (List.forall_mem_singleton.mpr ⟨hon, hplan⟩)
      (List.forall_mem_singleton.mpr hvalue)
  exact hwrite

/-! ## 5. Operations -/

theorem sheet_eq_ok {id : SheetId} {s : Sheet} (h : wb.sheet id = .ok s) :
    wb.sheet? id = some s := by
  unfold sheet at h
  split at h
  · rename_i s' hs'
    rw [hs', Except.ok.inj h]
  · cases h

/-- A place that passed its checks is there. -/
theorem has_of_check {s : Sheet} {u : Unit} (hs : wb.sheet key.sheet = .ok s)
    (hcheck : s.check key.spot = .ok u) : wb.Has key :=
  ⟨s, sheet_eq_ok hs, hcheck⟩

theorem check_eq_ok_iff {s : Sheet} {spot : Spot} {u : Unit} :
    s.check spot = .ok u ↔ spot.row < s.rows ∧ spot.col < s.cols := by
  unfold Sheet.check
  constructor
  · intro h
    split at h
    · cases h
    · split at h
      · cases h
      · omega
  · rintro ⟨hrow, hcol⟩
    rw [if_neg (by omega), if_neg (by omega)]

/-- **A range between places that are there consists of such places.** -/
theorem has_of_checkRange {id : SheetId} {s : Sheet} {range : Range} {u : Unit}
    (hs : wb.sheet id = .ok s) (hcheck : s.checkRange range = .ok u) {key : Key}
    (hkey : key ∈ keysOf id range) : wb.Has key := by
  obtain ⟨spot, hspot, rfl⟩ := List.mem_map.mp hkey
  refine ⟨s, sheet_eq_ok hs, ?_⟩
  unfold Sheet.checkRange at hcheck
  cases hfirst : s.check range.first with
  | error e => rw [hfirst] at hcheck; cases hcheck
  | ok u' =>
    rw [hfirst] at hcheck
    have hlast : s.check range.last = .ok u := hcheck
    obtain ⟨hfrow, hfcol⟩ := check_eq_ok_iff.mp hfirst
    obtain ⟨hlrow, hlcol⟩ := check_eq_ok_iff.mp hlast
    obtain ⟨row, hrow, hspot⟩ := List.mem_flatMap.mp hspot
    obtain ⟨col, hcol, rfl⟩ := List.mem_map.mp hspot
    rw [Span.lines, List.mem_range'_1] at hrow hcol
    simp only [Range.first, Range.last, Range.lastRow, Range.lastCol] at hfrow hfcol hlrow hlcol
    refine check_eq_ok_iff.mpr ⟨?_, ?_⟩
    · dsimp only; omega
    · dsimp only; omega

theorem phased_setValue (wb : Workbook) (key : Key) (v : Value) :
    Phased choosing wb (wb.setValue key v) :=
  phased_guard fun _ hs => phased_guard fun _ hcheck =>
    phased_complete _ _ rfl _ (phases_write (has_of_check hs hcheck) (.value v) rfl)

theorem phased_setValues (wb : Workbook) (sheet : SheetId) (range : Range) (values : List Value) :
    Phased choosing wb (wb.setValues sheet range values) := by
  refine phased_guard fun s hs => phased_guard fun _ hcheck => ?_
  split
  · exact .refl wb
  · let planned := ((keysOf sheet range).zip values).map fun kv => (kv.1, Content.value kv.2)
    have hplanned : ∀ kc ∈ planned, wb.Has kc.1 ∧ wb.Plans kc.1 kc.2 := by
      intro kc hkc
      obtain ⟨kv, hkv, rfl⟩ := List.mem_map.mp hkc
      exact ⟨has_of_checkRange hs hcheck (List.of_mem_zip hkv).1, .value kv.2⟩
    have hvalues : ∀ kc ∈ planned, kc.2.expr? = none := by
      intro kc hkc
      obtain ⟨kv, -, rfl⟩ := List.mem_map.mp hkc
      rfl
    have hwrite : Phases choosing wb [] (wb.writeAll planned) := phases_values hplanned hvalues
    rw [writeAll, List.foldl_map] at hwrite
    exact phased_complete _ _ rfl _ hwrite

/-- A text meant as a formula does not become a value. -/
theorem writeAny_of_contentOf {text : String} {content : Content}
    (h : wb.contentOf key text = .ok content) :
    wb.writeAny key content = wb.writeContent key content := by
  unfold contentOf at h
  dsimp only at h
  split at h
  · obtain rfl := Except.ok.inj h
    rfl
  · obtain ⟨edges, -, rfl⟩ := map_eq_ok_iff.mp h
    rfl

theorem phased_setFormula (wb : Workbook) (key : Key) (text : String) :
    Phased choosing wb (wb.setFormula key text) := by
  refine phased_guard fun s hs => phased_guard fun _ hcheck => ?_
  have hon := has_of_check hs hcheck
  dsimp only
  split
  · rename_i content hcontent
    have hwrite : Phase choosing wb ((wb.writeContent key content).recalculate key).2
        ((wb.writeContent key content).recalculate key).1 := by
      rw [← writeAny_of_contentOf hcontent]
      exact .enter [(key, content)] [key]
        (List.forall_mem_singleton.mpr ⟨hon, plans_of_contentOf hcontent⟩) (by simp)
    exact phased_complete [key] [[key]] rfl (.ok ()) hwrite.run
  · exact phased_complete _ _ rfl _ (phases_write hon .discarded rfl)
  · exact .refl wb

theorem phased_deleteFormula (wb : Workbook) (key : Key) :
    Phased choosing wb (wb.deleteFormula key) := by
  refine phased_guard fun s hs => phased_guard fun _ hcheck => ?_
  split
  · exact .refl wb
  · exact phased_complete _ _ rfl _ (phases_write (has_of_check hs hcheck) (.value .empty) rfl)

theorem phased_recalculateCell (wb : Workbook) (key : Key) :
    Phased choosing wb (wb.recalculateCell key) :=
  phased_guard fun _ _ => phased_guard fun _ _ => (Phase.evaluate wb key).run

/-- **Writing a block is a run of phases.**  All of it is planned before anything is written, and the
formulas among it are evaluated when all of it stands. -/
theorem phased_writeBlock (wb : Workbook) (sheet : SheetId) (block : Block) (kind : ChangeKind) :
    Phased choosing wb (wb.writeBlock sheet block kind) := by
  refine phased_guard fun s hs => phased_guard fun _ hcheck => ?_
  split
  · exact .refl wb
  · refine phased_guard fun planned hplanned => ?_
    have hwrite : ∀ kc ∈ planned, wb.Has kc.1 ∧ wb.Plans kc.1 kc.2 := by
      intro kc hkc
      obtain ⟨⟨key, entry⟩, hmem, hkc⟩ := (mem_mapM_iff (mapError_eq_ok_iff.mp hplanned)).mp hkc
      obtain ⟨content, hcontent, rfl⟩ := map_eq_ok_iff.mp hkc
      exact ⟨has_of_checkRange hs hcheck (List.of_mem_zip hmem).1, plans_of_contentOfEntry hcontent⟩
    have hformulas : ∀ kc ∈ planned, kc.2.expr? ≠ none →
        kc.1 ∈ (planned.filter (·.2.expr?.isSome)).map (·.1) := by
      intro kc hkc hne
      exact List.mem_map_of_mem
        (List.mem_filter.mpr ⟨hkc, by rwa [Option.isSome_iff_ne_none]⟩)
    exact phased_complete _ _ rfl _ (Phase.enter planned _ hwrite hformulas).run

theorem phased_copyFormula (wb : Workbook) (home : Key) (target : Range) :
    Phased choosing wb (wb.copyFormula home target) := by
  refine phased_guard fun s hs => phased_guard fun _ _ => ?_
  split
  · exact .refl wb
  · exact phased_guard fun block _ => phased_writeBlock ..

theorem phased_apply (a : Action) (wb : Workbook) : Phased choosing wb (a.apply wb) :=
  phased_guard fun _ _ => phased_writeBlock ..

theorem phased_revert (a : Action) (wb : Workbook) : Phased choosing wb (a.revert wb).1 := by
  unfold Action.revert
  split
  · exact .refl wb
  · exact phased_writeBlock ..

theorem phased_perform (wb : Workbook) (a : Action) : Phased choosing wb (wb.perform a) := by
  unfold perform
  dsimp only
  split
  · exact (phased_apply a wb).trans (Phase.tell _ rfl).run
  · exact phased_apply a wb

theorem phased_fill (wb : Workbook) (approves : FillRequest → Bool) (request : FillRequest) :
    Phased choosing wb (wb.fill approves request) := by
  refine phased_guard fun axis _ => ?_
  split
  · exact (Phase.tell wb rfl).run
  · exact .next (.tell wb rfl) (phased_guard fun block _ => phased_perform ..)

theorem phased_setStyle (wb : Workbook) (key : Key) (style : Style) :
    Phased true wb (wb.setStyle key style) :=
  phased_guard fun _ hs => phased_guard fun _ hcheck =>
    .of_change (.setStyle rfl (has_of_check hs hcheck) style) (phases_refreshFormats _ _)

theorem layout_addFormat (sheet : SheetId) (s : Sheet) (added : Workbook × List Nat)
    (definition : Range × List Rule) :
    (addFormat sheet s added definition).1.layout = added.1.layout :=
  layout_onSheet sheet fun _ => rfl

/-- Formats are cut to the sheet as it was before the first of them came; they do not change its
extents. -/
theorem phases_foldl_addFormat {sheet : SheetId} {s : Sheet} :
    ∀ (definitions : List (Range × List Rule)) (added : Workbook × List Nat),
      (added.1.sheet? sheet).map Sheet.outline = some s.outline →
        Phases choosing added.1 [] (definitions.foldl (addFormat sheet s) added).1
  | [], _, _ => .refl _
  | definition :: rest, added, hs => by
    refine .of_change (.addFormat hs added.2 definition) (phases_foldl_addFormat rest _ ?_)
    rw [outline_eq (layout_addFormat sheet s added definition) sheet]
    exact hs

theorem phased_addFormats (wb : Workbook) (sheet : SheetId)
    (definitions : List (Range × List Rule)) :
    Phased choosing wb (wb.addFormats sheet definitions) := by
  refine phased_guard fun s hs => ?_
  have hout : (wb.sheet? sheet).map Sheet.outline = some s.outline := by
    rw [sheet_eq_ok hs, Option.map_some]
  exact (phases_foldl_addFormat definitions (wb, []) hout).trans_silent (phases_applySome _ sheet _)

theorem phased_removeFormat (wb : Workbook) (sheet : SheetId) (id : Nat) :
    Phased choosing wb (wb.removeFormat sheet id) := by
  refine phased_guard fun s hs => ?_
  split
  · exact .refl wb
  · rename_i format hformat
    exact .of_change (.removeFormat (sheet_eq_ok hs) hformat) (phases_applySome _ sheet _)

theorem phased_reapplyFormat (wb : Workbook) (sheet : SheetId) (id : Nat) :
    Phased choosing wb (wb.reapplyFormat sheet id) := by
  unfold reapplyFormat
  split
  · exact .refl wb
  · refine phased_guard fun s hs => ?_
    split
    · exact .refl wb
    · rename_i format hformat
      exact phases_applyFormats _ _
        (List.forall_mem_singleton.mpr ⟨s, id, sheet_eq_ok hs, hformat⟩)

theorem phased_reapplyFormats (wb : Workbook) (sheet : SheetId) :
    Phased choosing wb (wb.reapplyFormats sheet) :=
  phased_guard fun s hs => phases_applyFormats _ _ fun f hf => by
    obtain ⟨e, he, rfl⟩ := List.mem_map.mp hf
    exact ⟨s, e.1, sheet_eq_ok hs, s.formats.get?_eq_some_iff.mpr he⟩

theorem phased_deleteLines (wb : Workbook) (id : SheetId) (axis : Axis) (first count : Nat) :
    Phased true wb (wb.deleteLines id axis first count) := by
  refine phased_guard fun s hs => phased_guard fun _ hcheck => ?_
  dsimp only
  split
  · refine phased_refresh (.removeBand rfl (sheet_eq_ok hs) axis _ ?_) ()
    have hfirst : first < s.extent axis := by
      obtain ⟨hrow, hcol⟩ := check_eq_ok_iff.mp hcheck
      cases axis
      · exact hrow
      · exact hcol
    dsimp only
    omega
  · exact .refl wb

theorem phased_defineName (wb : Workbook) (id : SheetId) (name : String) (range : Range) :
    Phased choosing wb (wb.defineName id name range) := by
  refine phased_guard fun s hs => ?_
  split
  · exact .refl wb
  · rename_i hholds
    refine phased_guard fun names hnames => ?_
    exact phased_refresh (.defineName (sheet_eq_ok hs) (by simpa using hholds)
      (mapError_eq_ok_iff.mp hnames)) ()

theorem phased_removeName (wb : Workbook) (id : SheetId) (name : String) :
    Phased choosing wb (wb.removeName id name) := by
  refine phased_guard fun s _ => ?_
  split
  · exact phased_refresh (.removeName wb id name) true
  · exact .refl wb

theorem phased_merge (wb : Workbook) (id : SheetId) (range : Range) :
    Phased choosing wb (wb.merge id range) :=
  phased_guard fun _ hs => phased_guard fun _ hmerge =>
    phased_change (.merge (sheet_eq_ok hs) hmerge) _

theorem phased_drawArrows (wb : Workbook) (kind : ArrowKind) (key : Key) :
    Phased choosing wb (wb.drawArrows kind key) := by
  refine phased_guard fun _ _ => phased_guard fun _ _ => ?_
  split
  · split
    · exact .refl wb
    · exact phased_change (.onArrows wb key.sheet _) _
  · split
    · exact .refl wb
    · exact phased_change (.onArrows wb key.sheet _) _

theorem phased_eraseArrows (wb : Workbook) (kind : ArrowKind) (key : Key) :
    Phased choosing wb (wb.eraseArrows kind key) := by
  refine phased_guard fun _ _ => ?_
  split <;> exact phased_change (.onArrows wb key.sheet _) _

theorem phased_eraseAllArrows (wb : Workbook) (id : SheetId) :
    Phased choosing wb (wb.eraseAllArrows id) :=
  phased_guard fun _ _ => phased_change (.onArrows wb id _) _

theorem phased_unmerge (wb : Workbook) (id : SheetId) (range : Range) :
    Phased choosing wb (wb.unmerge id range) :=
  phased_guard fun _ _ => phased_change (.unmerge wb id range) _

theorem phased_resetFormatting (wb : Workbook) (sheet : SheetId) :
    Phased choosing wb (wb.resetFormatting sheet) :=
  phased_guard fun _ _ => phased_change (.resetFormatting wb sheet) _

theorem phased_addSheetSized (wb : Workbook) (name : String) (rows cols : Nat) :
    Phased choosing wb (wb.addSheetSized name rows cols) :=
  phased_guard fun _ hname =>
    phased_change (.addSheet (mapError_eq_ok_iff.mp hname) rows cols) _

theorem phased_resetSheet (wb : Workbook) (id : SheetId) (rows cols : Nat) :
    Phased true wb (wb.resetSheet id rows cols) :=
  phased_guard fun _ _ => phased_refresh (.resetSheet wb rfl id rows cols) ()

end Workbook

/-! ## 6. Sessions -/

/-- Whether a command can change which style was chosen for which cell. -/
def Command.chooses : Command → Bool
  | .setStyle _ _ | .deleteLines _ _ _ _ | .resetSheet _ _ _ => true
  | _ => false

namespace Session

open Workbook

/-- **Every command is a run of phases,** and chooses a style in one of them only if it is a command
that can. -/
theorem phases_step (s : Session) (c : Command) :
    Phases c.chooses s.workbook (s.step c).events (s.step c).session.workbook := by
  cases c with
  | setValue key v => exact phased_setValue ..
  | setValues sheet range values => exact phased_setValues ..
  | setFormula key text => exact phased_setFormula ..
  | deleteFormula key => exact phased_deleteFormula ..
  | copyFormula home target => exact phased_copyFormula ..
  | setStyle key style => exact phased_setStyle ..
  | fill request => exact phased_fill ..
  | approveFills approve => exact .refl _
  | perform sheet block kind => exact phased_perform ..
  | revert number =>
    simp only [step, revert]
    split
    · exact .refl _
    · exact phased_revert ..
  | apply number =>
    simp only [step, apply]
    split
    · exact .refl _
    · exact phased_apply ..
  | recalculate key => exact phased_recalculateCell ..
  | calculate => exact phased_calculate _
  | propagate changed => exact phases_recalculateEach ..
  | rebuild => exact (Phase.change (.rebuild _)).run
  | changeSettings settings => exact (Phase.change (.changeSettings _ settings)).run
  | addSheet name => exact phased_addSheetSized ..
  | addSheetSized name rows cols => exact phased_addSheetSized ..
  | deleteLines sheet axis first count => exact phased_deleteLines ..
  | resetSheet sheet rows cols => exact phased_resetSheet ..
  | defineName sheet name range => exact phased_defineName ..
  | removeName sheet name => exact phased_removeName ..
  | merge sheet range => exact phased_merge ..
  | unmerge sheet range => exact phased_unmerge ..
  | addFormats sheet definitions => exact phased_addFormats ..
  | removeFormat sheet format => exact phased_removeFormat ..
  | reapplyFormat sheet format => exact phased_reapplyFormat ..
  | reapplyFormats sheet => exact phased_reapplyFormats ..
  | resetFormatting sheet => exact phased_resetFormatting ..
  | drawArrows kind key => exact phased_drawArrows ..
  | eraseArrows kind key => exact phased_eraseArrows ..
  | eraseAllArrows sheet => exact phased_eraseAllArrows ..

/-- **What is told in a run of commands.** -/
def told (s : Session) : List Command → List Event
  | [] => []
  | c :: commands => (s.step c).events ++ told (s.step c).session commands

/-- **A run of commands is a run of phases.** -/
theorem phases_run (s : Session) (commands : List Command) :
    Phases true s.workbook (s.told commands) (s.run commands).workbook := by
  induction commands generalizing s with
  | nil => exact .refl _
  | cons c commands ih => exact (s.phases_step c).anyhow.trans (ih _)

theorem edits_run (s : Session) (commands : List Command) :
    Edits s.workbook (s.run commands).workbook :=
  (s.phases_run commands).edits

end Session

namespace Workbook

/-- **A workbook that there can be:** a new one after a run of commands. -/
def Reachable (wb : Workbook) : Prop :=
  ∃ settings commands, ((Session.start settings).run commands).workbook = wb

/-- A workbook that there can be comes from a new one by edits. -/
theorem Reachable.edits {wb : Workbook} (h : wb.Reachable) :
    ∃ settings, Edits (.new settings) wb := by
  obtain ⟨settings, commands, rfl⟩ := h
  exact ⟨settings, (Session.start settings).edits_run commands⟩

/-- **What holds of new workbooks and is kept by edits holds of every workbook there can be.** -/
theorem Reachable.induction {P : Workbook → Prop} (hnew : ∀ settings, P (.new settings))
    (hedit : ∀ {wb wb' : Workbook}, Edit wb wb' → P wb → P wb') {wb : Workbook}
    (h : wb.Reachable) : P wb := by
  obtain ⟨settings, hedits⟩ := h.edits
  clear h
  induction hedits with
  | refl => exact hnew settings
  | tail _ hstep ih => exact hedit hstep ih

end Workbook

end Spreadsheet
