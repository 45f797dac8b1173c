/-
# Cells that formats have touched

* A cell has a baseline from the first style that a format imposed on it until what formats did is
  undone.  The sheet notes the places of such cells, but apart from the cells: cells are written to,
  dropped and moved with their rows, while places are noted, crossed out and renumbered one by one.
* Still the noted places are those of the cells with a baseline, each of them once (`Sheet.Noted`).
  A cell that is dropped has no baseline, and a cell that loses the lines before it stands where its
  place was renumbered to.
* Every change keeps this (`Noted.change`), and so it holds in every workbook there can be
  (`Reachable.noted`).  This is what undoing relies on, which visits the noted places only.
-/
import Mathlib.Data.List.Nodup
import Spreadsheet.Proofs.Tidiness
import Spreadsheet.Proofs.Tracking

namespace Spreadsheet

open Grid Formula Conditional

/-! ## 1. What contents leave alone -/

/-- **What is read off the styles of a cell:** contents do not matter, and a blank cell reads like
none. -/
structure Cell.OfStyles {γ : Type} (f : Cell → γ) : Prop where
  withContent : ∀ (c : Cell) (content : Content), f { c with content } = f c
  blank : ∀ c : Cell, c.isBlank = true → f c = f {}

theorem Cell.ofStyles_own : OfStyles own where
  withContent _ _ := rfl
  blank c h := by
    simp only [isBlank, Bool.and_eq_true, beq_iff_eq, Option.isNone_iff_eq_none] at h
    rw [own, h.2, h.1.2]
    rfl

theorem Cell.ofStyles_baseline : OfStyles fun c => c.baseline.isSome where
  withContent _ _ := rfl
  blank c h := by
    simp only [isBlank, Bool.and_eq_true, Option.isNone_iff_eq_none] at h
    rw [h.2]

section Reading

variable {γ : Type} {f : Cell → γ}

/-- A cell that is not kept reads like the one that is kept. -/
theorem Cell.OfStyles.kept (hf : OfStyles f) (c : Cell) :
    f ((if c.isBlank then none else some c).getD default) = f c := by
  split
  · rename_i hblank
    exact (hf.blank c hblank).symm
  · rfl

theorem Cell.OfStyles.settle (hf : OfStyles f) (s : Sheet) (place spot : Spot) (c : Cell) :
    f ((s.settle place c).cell spot) = if place = spot then f c else f (s.cell spot) := by
  rw [Sheet.cell, Sheet.cell?_settle]
  split
  · exact hf.kept c
  · rfl

theorem Cell.OfStyles.writeValue (hf : OfStyles f) (s : Sheet) (place spot : Spot) (v : Value) :
    f ((s.writeValue place v).cell spot) = f (s.cell spot) := by
  rw [Sheet.cell, Sheet.cell?_writeValue]
  split
  · rename_i hspot
    subst hspot
    exact (hf.kept _).trans (hf.withContent _ _)
  · rfl

theorem Cell.OfStyles.writeContent (hf : OfStyles f) (s : Sheet) (place spot : Spot)
    (content : Content) : f ((s.writeContent place content).cell spot) = f (s.cell spot) := by
  rw [Sheet.cell, Sheet.cell?_writeContent]
  split
  · rename_i hspot
    subst hspot
    exact hf.withContent _ _
  · rfl

/-- Evaluating and finding edges change contents only. -/
theorem Cell.OfStyles.mapContents (hf : OfStyles f) (s : Sheet) (change : Spot → Cell → Content)
    (spot : Spot) :
    f (((s.cells.map fun spot c => { c with content := change spot c }).get? spot).getD default) =
      f (s.cell spot) :=
  Workbook.eq_of_map (fun spot c => hf.withContent c (change spot c)) s spot

end Reading

/-! ## 2. Baselines after a format -/

namespace Workbook

/-- The last change to a cell is made to what those before it left. -/
theorem restyled_concat (c : Option Cell) (changes : List StyleChange) (last : StyleChange) :
    restyled c (changes ++ [last]) = imposedOn (restyled c changes) last :=
  List.foldl_append

/-- **A format captures the baseline of a cell exactly if it changes it.** -/
theorem isSome_baseline_restyled (c : Option Cell) (changes : List StyleChange) :
    ((restyled c changes).getD default).baseline.isSome =
      ((c.getD default).baseline.isSome || !changes.isEmpty) := by
  rcases List.eq_nil_or_concat changes with rfl | ⟨init, last, rfl⟩
  · cases c with
    | none => rfl
    | some c => exact (Bool.or_false _).symm
  · rw [List.concat_eq_append, restyled_concat]
    simp [imposedOn, Cell.impose]

/-- A cell that is reset has no baseline. -/
theorem baseline_reset? (c : Cell) : (c.reset?.getD default).baseline = none := by
  unfold Cell.reset?
  split <;> rfl

end Workbook

/-! ## 3. Noted places -/

/-- **A sheet that has noted the places of the cells with a baseline,** and no other place. -/
structure Sheet.Noted (s : Sheet) : Prop where
  nodup : s.touched.Nodup
  mem_iff : ∀ spot, spot ∈ s.touched ↔ (s.cell spot).baseline.isSome = true

namespace Sheet

variable {s s' : Sheet} {axis : Axis} {band : Span}

theorem noted_new (name : String) (rows cols : Nat) : (Sheet.new name rows cols).Noted where
  nodup := .nil
  mem_iff _ := ⟨nofun, nofun⟩

/-- Where places and baselines stay, they fit together. -/
theorem Noted.of_eq (h : s.Noted) (htouched : s'.touched = s.touched)
    (hcells : ∀ spot, (s'.cell spot).baseline.isSome = (s.cell spot).baseline.isSome) :
    s'.Noted := by
  refine ⟨htouched ▸ h.nodup, fun spot => ?_⟩
  rw [htouched, hcells, h.mem_iff]

/-- **A format notes where it imposes a style.** -/
theorem Noted.restyleSheet (h : s.Noted) (changes : List (Spot × List StyleChange)) :
    (Workbook.restyleSheet s changes).Noted := by
  induction changes generalizing s with
  | nil => exact h
  | cons change changes ih =>
    have hone : (Workbook.restyleSheet s [change]).Noted := by
      have hcell (spot : Spot) : ((Workbook.restyleSheet s [change]).cell spot).baseline.isSome =
          if change.1 = spot then (s.cell spot).baseline.isSome || !change.2.isEmpty
          else (s.cell spot).baseline.isSome := by
        change (((s.cells.set change.1 _).get? spot).getD default).baseline.isSome = _
        rw [Table.get?_set]
        split
        · rename_i hspot
          subst hspot
          exact Workbook.isSome_baseline_restyled _ _
        · rfl
      have htouched : (Workbook.restyleSheet s [change]).touched =
          if change.2.isEmpty then s.touched else s.touched.insert change.1 := rfl
      cases hempty : change.2.isEmpty with
      | true =>
        refine h.of_eq (htouched.trans (if_pos hempty)) fun spot => ?_
        rw [hcell, hempty]
        simp
      | false =>
        rw [hempty, if_neg Bool.false_ne_true] at htouched
        refine ⟨htouched ▸ h.nodup.insert, fun spot => ?_⟩
        rw [htouched, List.mem_insert_iff, h.mem_iff, hcell, hempty]
        by_cases hspot : change.1 = spot
        · simp [hspot]
        · simp [hspot, Ne.symm hspot]
    exact ih hone

/-- **When the noted cells are reset, no cell has a baseline any more.** -/
theorem Noted.resetTouched (h : s.Noted) : (Workbook.resetTouched s).Noted := by
  refine ⟨.nil, fun spot => ⟨nofun, fun hsome => ?_⟩⟩
  rw [cell, Workbook.cell?_resetTouched] at hsome
  split at hsome
  · cases hcell : s.cell? spot with
    | none =>
      rw [hcell] at hsome
      cases hsome
    | some c =>
      rw [hcell, Option.bind_some, Workbook.baseline_reset?] at hsome
      cases hsome
  · rename_i hfree
    exact absurd ((h.mem_iff spot).mpr hsome) hfree

/-- On a tidy sheet that loses lines every cell stands where its spot is restored from. -/
theorem Tidy.cell?_without (h : s.Tidy) (hband : band.first + band.count ≤ s.extent axis)
    (spot : Spot) :
    (s.without axis band).cell? spot = s.cell? (spot.restored axis band) := by
  cases hold : s.cell? (spot.restored axis band) with
  | some c => rw [Sheet.cell?_without hband (h.cells hold).1, hold]
  | none =>
    cases hnew : (s.without axis band).cell? spot with
    | none => rfl
    | some c =>
      rw [cell?_restored_of_without hband hnew] at hold
      cases hold

/-- **Noted places go where their cells go** when a sheet loses lines. -/
theorem Noted.without (h : s.Noted) (htidy : s.Tidy)
    (hband : band.first + band.count ≤ s.extent axis) : (s.without axis band).Noted := by
  have htouched : (s.without axis band).touched =
      s.touched.filterMap fun spot => spot.without? axis band := by
    cases axis <;> rfl
  refine ⟨?_, fun spot => ?_⟩
  · rw [htouched]
    refine h.nodup.filterMap fun a b new ha hb => ?_
    rw [Option.mem_def, Spot.without?_eq_some_iff] at ha hb
    exact ha.symm.trans hb
  · have hcell : (s.without axis band).cell spot = s.cell (spot.restored axis band) :=
      congrArg (·.getD default) (htidy.cell?_without hband spot)
    rw [htouched, List.mem_filterMap, hcell, ← h.mem_iff]
    constructor
    · rintro ⟨old, hold, hspot⟩
      rw [Spot.without?_eq_some_iff] at hspot
      rwa [hspot]
    · intro hold
      exact ⟨_, hold, Spot.without?_restored spot axis band⟩

end Sheet

/-! ## 4. Workbooks -/

namespace Workbook

variable {wb wb' : Workbook} {key : Key}

/-- **A workbook whose sheets have noted what formats have touched.** -/
def Noted (wb : Workbook) : Prop := ∀ id s, wb.sheet? id = some s → s.Noted

theorem Noted.onSheet (h : wb.Noted) (id : SheetId) {change : Sheet → Sheet}
    (hchange : ∀ s, wb.sheet? id = some s → s.Noted → (change s).Noted) :
    (wb.onSheet id change).Noted :=
  forall_onSheet h id hchange

theorem Noted.onSheets (h : wb.Noted) {change : SheetId → Sheet → Sheet}
    (hchange : ∀ id s, s.Noted → (change id s).Noted) : (wb.onSheets change).Noted :=
  forall_onSheets h hchange

theorem Noted.recalculate (h : wb.Noted) (key : Key) : (wb.recalculate key).1.Noted := by
  unfold Workbook.recalculate
  split
  · exact h
  · refine h.onSheet key.sheet fun s _ hs => hs.of_eq rfl fun spot => ?_
    refine eq_of_map (f := fun c => c.baseline.isSome) (fun _ _ => ?_) s spot
    split <;> rfl

/-- Whatever is written, baselines stay. -/
theorem Noted.writeAny (h : wb.Noted) (key : Key) (content : Content) :
    (wb.writeAny key content).Noted := by
  have hwrite (content : Content) : (wb.writeContent key content).Noted :=
    h.onSheet key.sheet fun s _ hs => hs.of_eq rfl fun spot =>
      Cell.ofStyles_baseline.writeContent s key.spot spot content
  cases content with
  | value v =>
    refine h.onSheet key.sheet fun s _ hs => hs.of_eq ?_ fun spot =>
      Cell.ofStyles_baseline.writeValue s key.spot spot v
    unfold Sheet.writeValue
    dsimp only
    split <;> rfl
  | formula text e edges result => exact hwrite _
  | unparsed text => exact hwrite _
  | discarded => exact hwrite _

theorem Noted.rebuild (h : wb.Noted) : wb.rebuild.Noted :=
  h.onSheets fun _ s hs => hs.of_eq rfl fun spot => Cell.ofStyles_baseline.mapContents s _ spot

theorem Noted.removeBand (h : wb.Noted) (htidy : wb.Tidy) {id : SheetId} {s : Sheet}
    (hs : wb.sheet? id = some s) {axis : Axis} {band : Span}
    (hband : band.first + band.count ≤ s.extent axis) : (wb.removeBand id axis band).Noted := by
  have hfollow : (wb.onSheets (followSheet id (wb.sheetName id) axis band)).Noted :=
    h.onSheets fun _ s hs => hs.of_eq rfl fun spot => Cell.ofStyles_baseline.mapContents s _ spot
  refine hfollow.onSheet id fun t ht hnoted => ?_
  have ht' := htidy.follow id (wb.sheetName id) axis band id t ht
  refine hnoted.without ht' ?_
  rw [sheet?_onSheets, hs] at ht
  rw [← Option.some.inj ht]
  cases axis <;> exact hband

/-- **Whatever is done to a workbook of tidy sheets, the noted places are those of the cells with a
baseline.** -/
theorem Noted.change {choosing : Bool} (hchange : Change choosing wb wb') (htidy : wb.Tidy)
    (h : wb.Noted) : wb'.Noted := by
  cases hchange with
  | setStyle _ hon style =>
    refine h.onSheet _ fun s _ hs => hs.of_eq rfl fun spot => ?_
    rw [Cell.ofStyles_baseline.settle]
    split
    · rename_i hspot
      subst hspot
      simp [Cell.choose]
    · rfl
  | applyFormat hformat => exact h.onSheet _ fun _ _ hs => hs.restyleSheet _
  | @addFormat sheet s _ ids definition =>
    have hadd : (wb.onSheet sheet fun t => { t with
        formats := t.formats.put wb.nextFormat
          (wb.retrigger sheet ⟨definition.1.cut s.rows s.cols, definition.2, []⟩) }).Noted :=
      h.onSheet sheet fun _ _ hs => hs.of_eq rfl fun _ => rfl
    exact hadd
  | removeFormat hs hformat =>
    refine h.onSheet _ fun s _ hs => hs.of_eq rfl fun spot => ?_
    refine eq_of_map (f := fun c => c.baseline.isSome) (fun _ _ => ?_) s spot
    split <;> rfl
  | resetFormatting sheet => exact h.onSheet sheet fun _ _ hs => hs.resetTouched
  | merge hs hmerge =>
    obtain ⟨merged, hchange⟩ := exists_onSheet_merge hs hmerge
    rw [hchange]
    exact h.onSheet _ fun _ _ hs => hs.of_eq rfl fun _ => rfl
  | unmerge id range => exact h.onSheet id fun _ _ hs => hs.of_eq rfl fun _ => rfl
  | onArrows id change => exact h.onSheet id fun _ _ hs => hs.of_eq rfl fun _ => rfl
  | changeSettings settings => exact h
  | rebuild => exact h.rebuild
  | addSheet hname rows cols =>
    refine Noted.rebuild ?_
    exact forall_appended h (Sheet.noted_new ..)
  | resetSheet _ id rows cols =>
    exact (h.onSheet id fun s _ _ => Sheet.noted_new s.name rows cols).rebuild
  | @defineName id =>
    refine (h.onSheet id fun s _ hs => ?_).rebuild
    exact hs.of_eq rfl fun _ => rfl
  | removeName id name =>
    refine (h.onSheet id fun s _ hs => ?_).rebuild
    exact hs.of_eq rfl fun _ => rfl
  | removeBand _ hs axis band hband => exact (h.removeBand htidy hs hband).rebuild

theorem Noted.edit (hedit : Edit wb wb') (htidy : wb.Tidy) (h : wb.Noted) : wb'.Noted := by
  cases hedit with
  | evaluate key => exact h.recalculate key
  | write hon hplan => exact h.writeAny _ _
  | change hchange => exact h.change hchange htidy

theorem noted_new (settings : Settings) : (new settings).Noted :=
  forall_new Sheet.noted_new

/-- **In every workbook there can be, the noted places are those of the cells with a baseline.** -/
theorem Reachable.noted (h : wb.Reachable) : wb.Noted := by
  have hboth : wb.Tidy ∧ wb.Noted :=
    h.induction (P := fun wb => wb.Tidy ∧ wb.Noted)
      (fun settings => ⟨tidy_new settings, noted_new settings⟩)
      fun hedit hwb => ⟨hwb.1.edit hedit, hwb.2.edit hedit hwb.1⟩
  exact hboth.2

end Workbook

end Spreadsheet
