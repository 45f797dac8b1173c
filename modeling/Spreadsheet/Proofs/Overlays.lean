/-
# Formats over formats

* A format that is applied gives every cell of its range a look: the cell's own style under the
  changes of the rules that hold there.  Conditions read values and no styles, so the look of a cell
  is the same whichever formats were applied before (`OnlyStyled.look_eq`).
* Whatever an earlier format imposed is taken off first.  So where formats overlap, the one that was
  applied last is seen and the others are not (`style_foldl_applyFormat`).
* So applying one format again after all of them is no change where it was the last one, and
  otherwise only where it makes cells look as the last one does (`reapplyFormat_after_all`).
-/
import Spreadsheet.Proofs.OwnStyles

namespace Spreadsheet

open Grid Formula Conditional

namespace Workbook

variable {wb wb' : Workbook} {id : SheetId} {spot : Spot} {key : Key}

/-! ## 1. Looks -/

/-- **How a format makes a cell look:** the own style under the changes of the rules that hold
there. -/
def look (wb : Workbook) (id : SheetId) (format : Format) (spot : Spot) : Style :=
  (wb.changesAt id format spot).foldl Style.apply (wb.cell ⟨id, spot⟩).own

/-- **A workbook that differs at most in what formats have imposed.** -/
structure OnlyStyled (wb wb' : Workbook) : Prop where
  layout_eq : wb'.layout = wb.layout
  settings_eq : wb'.settings = wb.settings
  content_eq : ∀ key, wb'.content key = wb.content key
  own_eq : ∀ key, (wb'.cell key).own = (wb.cell key).own

theorem OnlyStyled.refl (wb : Workbook) : OnlyStyled wb wb :=
  ⟨rfl, rfl, fun _ => rfl, fun _ => rfl⟩

theorem OnlyStyled.trans {wb'' : Workbook} (h : OnlyStyled wb wb') (h' : OnlyStyled wb' wb'') :
    OnlyStyled wb wb'' where
  layout_eq := h'.layout_eq.trans h.layout_eq
  settings_eq := h'.settings_eq.trans h.settings_eq
  content_eq key := (h'.content_eq key).trans (h.content_eq key)
  own_eq key := (h'.own_eq key).trans (h.own_eq key)

/-- Formulas do not read styles. -/
theorem OnlyStyled.source_eq (h : OnlyStyled wb wb') : wb'.source = wb.source := by
  unfold source
  congr 1
  · exact funext fun name => sheetNamed?_eq h.layout_eq name
  · exact funext fun key => congrArg Content.shown (h.content_eq key)
  · exact funext fun id => funext fun name => namedRange?_eq h.layout_eq id name

/-- Nor do conditions. -/
theorem OnlyStyled.conditionHolds_eq (h : OnlyStyled wb wb') (home : Key) (rows columns : Nat)
    (condition : Condition) : wb'.conditionHolds home rows columns condition =
      wb.conditionHolds home rows columns condition := by
  have hrule (f : RuleFormula) : wb'.ruleValue? home rows columns f =
      wb.ruleValue? home rows columns f := by
    unfold ruleValue? evaluate
    rw [h.source_eq]
  have hvalue : wb'.value home = wb.value home := congrArg Content.shown (h.content_eq home)
  cases condition with
  | expression f => simp only [conditionHolds, hrule]
  | comparison how first second => simp only [conditionHolds, hrule, hvalue, h.settings_eq]

/-- **The look of a cell does not depend on what is imposed.** -/
theorem OnlyStyled.look_eq (h : OnlyStyled wb wb') (id : SheetId) (format : Format) (spot : Spot) :
    wb'.look id format spot = wb.look id format spot := by
  unfold look changesAt
  simp only [h.conditionHolds_eq, h.own_eq]

/-! ## 2. Applying one format -/

theorem onlyStyled_applyFormat (wb : Workbook) (id : SheetId) (format : Format) :
    OnlyStyled wb (wb.applyFormat id format) where
  layout_eq := layout_applyFormat wb id format
  settings_eq := rfl
  content_eq := content_applyFormat wb id format
  own_eq := keepsOwn_applyFormat wb id format

/-- A restyled cell looks as the changes make it look. -/
theorem style_restyled (c : Option Cell) (changes : List StyleChange) :
    ((restyled c changes).getD default).style = changes.foldl Style.apply (c.getD default).own := by
  have himposed (c : Option Cell) : ((changes.foldl imposedOn c).getD default).style =
      changes.foldl Style.apply (c.getD default).style := by
    induction changes generalizing c with
    | nil => rfl
    | cons change changes ih => exact ih (imposedOn c change)
  refine (himposed _).trans ?_
  cases c <;> rfl

/-- **Each spot is restyled once,** by its own changes. -/
theorem get?_foldl_restyled (changes : Spot → List StyleChange) : ∀ {spots : List Spot},
    spots.Nodup → ∀ (cells : Table Spot Cell) (spot : Spot),
      ((spots.map fun spot => (spot, changes spot)).foldl (fun cells c =>
        cells.set c.1 (restyled (cells.get? c.1) c.2)) cells).get? spot =
          if spot ∈ spots then restyled (cells.get? spot) (changes spot) else cells.get? spot
  | [], _, cells, spot => by simp
  | first :: rest, hspots, cells, spot => by
    obtain ⟨hfirst, hrest⟩ := List.nodup_cons.mp hspots
    rw [List.map_cons, List.foldl_cons, get?_foldl_restyled changes hrest, Table.get?_set]
    by_cases hspot : first = spot
    · subst hspot
      rw [if_neg hfirst, if_pos rfl, if_pos List.mem_cons_self]
    · rw [if_neg hspot]
      simp only [List.mem_cons, Ne.symm hspot, false_or]

theorem cell?_restyleSheet (s : Sheet) (changes : Spot → List StyleChange) {spots : List Spot}
    (hspots : spots.Nodup) (spot : Spot) :
    (restyleSheet s (spots.map fun spot => (spot, changes spot))).cell? spot =
      if spot ∈ spots then restyled (s.cell? spot) (changes spot) else s.cell? spot :=
  get?_foldl_restyled changes hspots s.cells spot

/-- **A format is seen on the cells of its range** and changes no other. -/
theorem style_applyFormat (hsheet : (wb.sheet? id).isSome = true) (format : Format) (key : Key) :
    (wb.applyFormat id format).style key =
      if key.sheet = id ∧ key.spot ∈ format.range.cells then wb.look id format key.spot
      else wb.style key := by
  obtain ⟨s, hs⟩ := Option.isSome_iff_exists.mp hsheet
  obtain ⟨kid, spot⟩ := key
  have hcells := cell?_restyleSheet s (wb.changesAt id format) (nodup_cells format.range) spot
  unfold applyFormat
  rw [style, style, cell_eq_elim, sheet?_onSheet]
  by_cases hid : id = kid
  · subst hid
    have hcell : wb.cell ⟨id, spot⟩ = (s.cell? spot).getD default := by
      rw [cell_eq_elim, hs]
      rfl
    rw [if_pos rfl, hs, Option.map_some, Option.elim_some, Sheet.cell, hcells]
    by_cases hspot : spot ∈ format.range.cells
    · rw [if_pos hspot, if_pos ⟨rfl, hspot⟩, style_restyled, look, hcell]
    · rw [if_neg hspot, if_neg fun h => hspot h.2, hcell]
  · rw [if_neg hid, if_neg fun h => hid h.1.symm, cell_eq_elim]

/-! ## 3. Applying one format after the other -/

/-- **The last of the formats** whose range a spot is in. -/
def lastOver (formats : List Format) (spot : Spot) : Option Format :=
  formats.reverse.find? fun format => decide (spot ∈ format.range.cells)

theorem lastOver_concat (formats : List Format) (format : Format) (spot : Spot) :
    lastOver (formats ++ [format]) spot =
      if spot ∈ format.range.cells then some format else lastOver formats spot := by
  unfold lastOver
  rw [List.reverse_append, List.reverse_singleton, List.singleton_append, List.find?_cons]
  by_cases hspot : spot ∈ format.range.cells <;> simp [hspot]

/-- A format that none behind it covers is the last one. -/
theorem lastOver_append_cons {before after : List Format} {format : Format}
    (hspot : spot ∈ format.range.cells) (hafter : ∀ f ∈ after, spot ∉ f.range.cells) :
    lastOver (before ++ format :: after) spot = some format := by
  have hnone : after.reverse.find? (fun f => decide (spot ∈ f.range.cells)) = none := by
    simpa using hafter
  simp [lastOver, hnone, hspot]

theorem onlyStyled_foldl_applyFormat (id : SheetId) (formats : List Format) (wb : Workbook) :
    OnlyStyled wb (formats.foldl (fun wb format => wb.applyFormat id format) wb) := by
  induction formats generalizing wb with
  | nil => exact .refl wb
  | cons format formats ih => exact (onlyStyled_applyFormat wb id format).trans (ih _)

theorem isSome_sheet?_of_layout (hlayout : wb'.layout = wb.layout)
    (hsheet : (wb.sheet? id).isSome = true) : (wb'.sheet? id).isSome = true := by
  have houtline := congrArg Option.isSome (outline_eq hlayout id)
  rw [Option.isSome_map, Option.isSome_map] at houtline
  rw [houtline, hsheet]

/-- **Of the formats that cover a cell, the one that was applied last is seen.** -/
theorem style_foldl_applyFormat (hsheet : (wb.sheet? id).isSome = true) (formats : List Format)
    (key : Key) :
    (formats.foldl (fun wb format => wb.applyFormat id format) wb).style key =
      if key.sheet = id then
        (lastOver formats key.spot).elim (wb.style key) (wb.look id · key.spot)
      else wb.style key := by
  induction formats using List.reverseRecOn with
  | nil => exact (ite_self _).symm
  | append_singleton formats format ih =>
    have honly := onlyStyled_foldl_applyFormat id formats wb
    rw [List.foldl_append, List.foldl_cons, List.foldl_nil,
      style_applyFormat (isSome_sheet?_of_layout honly.layout_eq hsheet), lastOver_concat,
      honly.look_eq, ih]
    by_cases hid : key.sheet = id <;> by_cases hspot : key.spot ∈ format.range.cells <;>
      simp [hid, hspot]

/-! ## 4. All formats of a sheet, and then one of them -/

/-- **The format that is seen at a spot:** the last one of the sheet that covers it. -/
def top? (wb : Workbook) (id : SheetId) (spot : Spot) : Option Format :=
  lastOver ((wb.formats id).map (·.2)) spot

/-- A format that no later one overlaps is on top of all its cells. -/
theorem top?_of_last {number : Nat} {format : Format} (hformat : (number, format) ∈ wb.formats id)
    (hlast : ∀ later f, (later, f) ∈ wb.formats id → number < later → spot ∉ f.range.cells)
    (hspot : spot ∈ format.range.cells) : wb.top? id spot = some format := by
  have hascending : Ascending (wb.formats id) := by
    unfold formats
    cases wb.sheet? id with
    | none => exact List.Pairwise.nil
    | some s => exact s.formats.ascending
  obtain ⟨before, after, hsplit⟩ := List.append_of_mem hformat
  rw [top?, hsplit, List.map_append, List.map_cons]
  refine lastOver_append_cons hspot fun f hf => ?_
  obtain ⟨⟨later, f'⟩, hmem, rfl⟩ := List.mem_map.mp hf
  rw [hsplit] at hascending
  have hbehind := (List.pairwise_cons.mp (List.pairwise_append.mp hascending).2.1).1 _ hmem
  refine hlast later f' ?_ (Nat.compare_eq_lt.mp hbehind)
  rw [hsplit]
  exact List.mem_append_right _ (List.mem_cons_of_mem _ hmem)

/-- A spot of a format has a format that is seen there. -/
theorem exists_top? {number : Nat} {format : Format} (hformat : (number, format) ∈ wb.formats id)
    (hspot : spot ∈ format.range.cells) : ∃ top, wb.top? id spot = some top := by
  refine Option.isSome_iff_exists.mp (List.find?_isSome.mpr ⟨format, ?_, decide_eq_true hspot⟩)
  exact List.mem_reverse.mpr (List.mem_map_of_mem hformat)

/-- Formats change no formats. -/
theorem formats_foldl_applyFormat (formats : List Format) {s : Sheet} (hs : wb.sheet? id = some s) :
    ∃ s', (formats.foldl (fun wb format => wb.applyFormat id format) wb).sheet? id = some s' ∧
      s'.formats = s.formats := by
  induction formats generalizing wb s with
  | nil => exact ⟨s, hs, rfl⟩
  | cons format formats ih =>
    have hfirst : (wb.applyFormat id format).sheet? id = some (restyleSheet s
        (format.range.cells.map fun spot => (spot, wb.changesAt id format spot))) := by
      rw [applyFormat, sheet?_onSheet, if_pos rfl, hs]
      rfl
    obtain ⟨s', hs', hformats⟩ := ih hfirst
    exact ⟨s', hs', hformats⟩

section Enabled

variable {s : Sheet} (henabled : wb.settings.formatsEnabled = true) (hs : wb.sheet? id = some s)
include henabled hs

theorem reapplyFormats_eq : wb.reapplyFormats id = ⟨.ok (), ((wb.formats id).map (·.2)).foldl
    (fun wb format => wb.applyFormat id format) wb, []⟩ := by
  rw [reapplyFormats, sheet, hs, Reply.guard_ok, applyFormats, if_pos henabled, formats, hs,
    Option.elim_some, List.foldl_map, List.foldl_map]

theorem reapplyFormat_eq {number : Nat} {format : Format}
    (hformat : s.formats.get? number = some format) :
    wb.reapplyFormat id number = ⟨.ok (), wb.applyFormat id format, []⟩ := by
  have hone : wb.applyFormats [(id, format)] = wb.applyFormat id format := by
    rw [applyFormats, if_pos henabled]
    rfl
  unfold reapplyFormat
  rw [henabled, sheet, hs, Reply.guard_ok]
  simp only [hformat, hone]
  rfl

end Enabled

/-- The formats of a sheet are those of its table. -/
theorem exists_of_mem_formats {number : Nat} {format : Format}
    (hformat : (number, format) ∈ wb.formats id) :
    ∃ s, wb.sheet? id = some s ∧ s.formats.get? number = some format := by
  unfold formats at hformat
  cases hs : wb.sheet? id with
  | none => simp [hs] at hformat
  | some s => exact ⟨s, rfl, s.formats.get?_eq_some_iff.mpr (by simpa [hs] using hformat)⟩

/-- **Once all formats of a sheet were applied, applying one of them again changes what is seen only
where it makes a cell look otherwise than the last format does that covers the cell.**  So it
changes nothing if no later format covers a cell of its range. -/
theorem reapplyFormat_after_all {number : Nat} {format : Format}
    (henabled : wb.settings.formatsEnabled = true) (hformat : (number, format) ∈ wb.formats id) :
    let all := wb.reapplyFormats id
    let one := all.workbook.reapplyFormat id number
    all.answer = .ok () ∧ one.answer = .ok () ∧
      (∀ spot, all.workbook.style ⟨id, spot⟩ =
        (wb.top? id spot).elim (wb.style ⟨id, spot⟩) (wb.look id · spot)) ∧
      ((∀ key, one.workbook.style key = all.workbook.style key) ↔
        ∀ spot ∈ format.range.cells, ∀ top, wb.top? id spot = some top →
          wb.look id format spot = wb.look id top spot) ∧
      ((∀ later f, (later, f) ∈ wb.formats id → number < later →
          ∀ spot ∈ format.range.cells, spot ∉ f.range.cells) →
        ∀ key, one.workbook.style key = all.workbook.style key) := by
  intro all one
  obtain ⟨s, hs, hnumber⟩ := exists_of_mem_formats hformat
  have hsheet : (wb.sheet? id).isSome = true := by rw [hs]; rfl
  have hanswer : all.answer = .ok () := congrArg Reply.answer (reapplyFormats_eq henabled hs)
  have hall : all.workbook = ((wb.formats id).map (·.2)).foldl
      (fun wb format => wb.applyFormat id format) wb :=
    congrArg Reply.workbook (reapplyFormats_eq henabled hs)
  have honly : OnlyStyled wb all.workbook := by
    rw [hall]
    exact onlyStyled_foldl_applyFormat id _ wb
  have hseen (spot : Spot) : all.workbook.style ⟨id, spot⟩ =
      (wb.top? id spot).elim (wb.style ⟨id, spot⟩) (wb.look id · spot) := by
    rw [hall]
    exact (style_foldl_applyFormat hsheet _ ⟨id, spot⟩).trans (if_pos rfl)
  have hone : one = ⟨.ok (), all.workbook.applyFormat id format, []⟩ := by
    obtain ⟨s', hs', hformats⟩ := formats_foldl_applyFormat ((wb.formats id).map (·.2)) hs
    rw [← hall] at hs'
    exact reapplyFormat_eq (honly.settings_eq ▸ henabled) hs' (hformats ▸ hnumber)
  -- applying it again is seen on its own range, and there as it would be without the others
  have hagain (key : Key) : one.workbook.style key =
      if key.sheet = id ∧ key.spot ∈ format.range.cells then wb.look id format key.spot
      else all.workbook.style key := by
    rw [hone, ← honly.look_eq]
    exact style_applyFormat (isSome_sheet?_of_layout honly.layout_eq hsheet) format key
  have hiff : (∀ key, one.workbook.style key = all.workbook.style key) ↔
      ∀ spot ∈ format.range.cells, ∀ top, wb.top? id spot = some top →
        wb.look id format spot = wb.look id top spot := by
    constructor
    · intro h spot hspot top htop
      have hkey := h ⟨id, spot⟩
      rwa [hagain, if_pos ⟨rfl, hspot⟩, hseen, htop] at hkey
    · rintro h ⟨_, spot⟩
      rw [hagain]
      split
      case isFalse => rfl
      case isTrue hin =>
        obtain ⟨rfl, hspot⟩ := hin
        obtain ⟨top, htop⟩ := exists_top? hformat hspot
        rw [hseen, htop]
        exact h spot hspot top htop
  refine ⟨hanswer, by rw [hone], hseen, hiff, fun hlast => hiff.mpr ?_⟩
  intro spot hspot top htop
  rw [top?_of_last hformat (fun later f hf hlt => hlast later f hf hlt spot hspot) hspot] at htop
  rw [Option.some.inj htop]

/-- Of two formats that cover a cell the later one is applied again, and the cell still looks as it
did.  The bold face of the earlier one is not seen. -/
theorem reapplyFormat_after_all_last :
    let rules (change : StyleChange) : List Rule := [⟨.expression (.ofText "=TRUE"), 1, change⟩]
    let wb := ((Session.start {}).run [.addFormats ⟨0⟩
      [(.make 0 0 2 2, rules { bold := some true }),
        (.make 1 1 2 2, rules { italic := some true })]]).workbook
    let all := (wb.reapplyFormats ⟨0⟩).workbook
    let shared : Key := ⟨⟨0⟩, ⟨1, 1⟩⟩
    all.style shared = { italic := true } ∧
      ∀ key, (all.reapplyFormat ⟨0⟩ 1).workbook.style key = all.style key := by
  intro rules wb all shared
  have henabled : wb.settings.formatsEnabled = true := rfl
  have hformats : (wb.formats ⟨0⟩).map (fun f => (f.1, f.2.range)) =
      [(0, .make 0 0 2 2), (1, .make 1 1 2 2)] := rfl
  have hseen : all.style shared = { italic := true } := by decide +kernel
  have hmem : (1, .make 1 1 2 2) ∈ (wb.formats ⟨0⟩).map (fun f => (f.1, f.2.range)) := by
    simp [hformats]
  obtain ⟨⟨number, format⟩, hformat, hdata⟩ := List.mem_map.mp hmem
  obtain ⟨rfl, -⟩ := Prod.mk.inj hdata
  obtain ⟨-, -, -, -, hkept⟩ := reapplyFormat_after_all henabled hformat
  refine ⟨hseen, hkept fun later f hf hlt => ?_⟩
  -- there is no later one
  have hlater := List.mem_map_of_mem (f := fun f => (f.1, f.2.range)) hf
  simp [hformats] at hlater
  omega

/-- **The format that was applied last is seen, whichever it is.**  A cell is bold by one format and
italic by the other.  Both are applied, and it is italic; then the first one is applied again, and
it is bold. -/
theorem seen_is_applied_last :
    let rules (change : StyleChange) : List Rule := [⟨.expression (.ofText "=TRUE"), 1, change⟩]
    let wb := ((Session.start {}).run [.addFormats ⟨0⟩
      [(.make 0 0 1 1, rules { bold := some true }),
        (.make 0 0 1 1, rules { italic := some true })]]).workbook
    let all := (wb.reapplyFormats ⟨0⟩).workbook
    let one := (all.reapplyFormat ⟨0⟩ 0).workbook
    wb.Reachable ∧ wb.settings.formatsEnabled = true ∧ 0 ∈ (wb.formats ⟨0⟩).map (·.1) ∧
      all.style ⟨⟨0⟩, ⟨0, 0⟩⟩ = { italic := true } ∧ one.style ⟨⟨0⟩, ⟨0, 0⟩⟩ = { bold := true } ∧
      ¬ ∀ key, one.style key = all.style key := by
  intro rules wb all one
  have hitalic : all.style ⟨⟨0⟩, ⟨0, 0⟩⟩ = { italic := true } := by decide +kernel
  have hbold : one.style ⟨⟨0⟩, ⟨0, 0⟩⟩ = { bold := true } := by decide +kernel
  refine ⟨⟨_, _, rfl⟩, rfl, by decide +kernel, hitalic, hbold, fun hall => ?_⟩
  have hsame := hall ⟨⟨0⟩, ⟨0, 0⟩⟩
  rw [hitalic, hbold] at hsame
  exact absurd hsame (by decide)

end Workbook
end Spreadsheet
