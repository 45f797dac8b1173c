/-
# Fills and hidden cells

* A fill changes cells where it lands, so in its target only.  Away from its source it skips hidden
  cells and lands on the first cell of a merged region.
* Back from the source it lands where a region starts *on the line that is filled*.  That is the first
  cell of the region if the region starts on that line, and a hidden cell if it starts on an earlier
  one (`changed_by_fill`).
* So a fill that goes back over a region of several lines writes into cells that are not seen
  (`hidden_cell_filled`).
-/
import Spreadsheet.Proofs.FillPlans

namespace Spreadsheet

open Grid Formula Conditional

namespace Sheet

variable {s : Sheet} {axis : Axis} {source target : Range} {line place : Nat}

/-! ## 1. Landings on merged regions -/

/-- **A fill lands on the first place that a region has on the line,** and forward on the first cell
of the region. -/
theorem Fillable.first_of_landing (h : s.Fillable axis source target) (htidy : s.Tidy)
    (hline : line ∈ filledLines axis source) (hplace : place ∈ s.landings axis source target line)
    {region : Range} (hregion : region ∈ s.merged)
    (hcovers : region.covers (axis.spot line place) = true) :
    (region.along axis).first = place ∧
      (Forward axis source target → region.first = axis.spot line place) := by
  have hwalk : s.Walks axis source target line _ := walks_landings (lineItems_ne_nil hplace)
  unfold Walks at hwalk
  by_cases hforward : Forward axis source target
  · rw [if_pos hforward] at hwalk
    have hfirst := first_of_extra? (hwalk.shown place hplace)
      (htidy.regionAt?_eq_some_iff.mpr ⟨hregion, hcovers⟩)
    refine ⟨?_, fun _ => hfirst⟩
    rw [region.first_eq_spot axis] at hfirst
    exact (Axis.spot_inj.mp hfirst).2
  · rw [if_neg hforward] at hwalk
    refine ⟨?_, fun hforward' => absurd hforward' hforward⟩
    obtain ⟨start, k, hfirst, hlast, rfl⟩ := hwalk.exists_landing place hplace
    refine htidy.landing_eq_first hfirst (fun other hother p hp hp' hcovers' => ?_) hregion hcovers
    -- a region with a cell in the target lies within it
    have hin := h.regions other hother (Range.meets_of_covers hcovers'
      ((h.covers_iff hline).mpr ⟨hp, by omega⟩))
    simp only [Range.includes, Span.includes, Bool.and_eq_true, decide_eq_true_eq] at hin
    cases axis with
    | rows => exact hin.1.1
    | columns => exact hin.2.1

end Sheet

/-! ## 2. What a fill changes -/

namespace Workbook

variable {wb : Workbook} {request : FillRequest}

/-- **What a fill plans anew lies in its target, on the first place that a merged region has on its
line.**  It is a hidden cell exactly if the region starts on an earlier line, and never if the fill
goes forward or the regions of the target are one line wide. -/
theorem changed_by_fill (hreachable : wb.Reachable) {approves : FillRequest → Bool}
    (h : (wb.fill approves request).answer = .ok ()) :
    ∃ s axis planned, wb.sheet request.sheet = .ok s ∧ wb.fillAxis request = .ok axis ∧
      wb.capture request.sheet request.target =
        .ok (.over request.target fun spot => (s.cell spot).entry) ∧
      wb.planFill request.sheet axis request.source request.target =
        .ok (.over request.target planned) ∧
      ∀ spot, planned spot ≠ (s.cell spot).entry → request.target.covers spot = true ∧
        ∀ region ∈ s.merged, region.covers spot = true →
          (region.along axis).first = spot.along axis ∧
          (region.first ≠ spot ↔ (region.along axis.across).first < spot.along axis.across) ∧
          (request.source.lastAlong axis < (request.target.along axis).first ∨
            (region.along axis.across).count = 1 → region.first = spot) := by
  obtain ⟨s, axis, block, hs, haxis, hfillable, hplan, -, -⟩ := exists_of_fill h
  have htidy : s.Tidy := hreachable.tidy _ _ (sheet_eq_ok hs)
  refine ⟨s, axis, _, hs, haxis, capture_eq hs hfillable.target_on,
    planFill_eq hs hfillable.target_on, fun spot hne => ?_⟩
  obtain ⟨line, hline, place, hplace, rfl⟩ := Sheet.exists_landing_of_planned hne
  have hitems := Sheet.lineItems_ne_nil hplace
  refine ⟨(hfillable.fills hline hitems).inside place hplace, fun region hregion hcovers => ?_⟩
  obtain ⟨hfirst, hforward⟩ := hfillable.first_of_landing htidy hline hplace hregion hcovers
  have hacross := (Range.covers_spot_iff.mp hcovers).2
  have hhidden : region.first ≠ axis.spot line place ↔ (region.along axis.across).first < line := by
    rw [region.first_eq_spot axis, ne_eq, Axis.spot_inj]
    omega
  rw [Axis.along_spot, Axis.along_across_spot]
  refine ⟨hfirst, hhidden, ?_⟩
  rintro (hahead | hone)
  · exact hforward hahead
  · by_contra hne'
    have hbefore := hhidden.mp hne'
    simp only [Range.lastAlong, Span.last, hone] at hacross
    omega

/-- Two columns are continued down over a region of both.  Only its first cell is filled: the column
beside it goes on behind the region. -/
theorem changed_by_fill_down :
    let wb := ((Session.start {}).run [.setValue ⟨⟨0⟩, ⟨0, 0⟩⟩ (.text "x"),
      .setValue ⟨⟨0⟩, ⟨0, 1⟩⟩ (.text "y"), .merge ⟨0⟩ (.make 1 0 2 2)]).workbook
    let request : FillRequest := ⟨⟨0⟩, .make 0 0 1 2, .make 1 0 3 2⟩
    wb.Reachable ∧ (wb.fill (fun _ => true) request).answer = .ok () ∧
      ∃ s planned, wb.sheet ⟨0⟩ = .ok s ∧
        wb.planFill ⟨0⟩ .rows request.source request.target = .ok (.over request.target planned) ∧
        request.target.cells.map planned =
          [.value (.text "x"), .empty, .empty, .empty, .value (.text "x"), .value (.text "y")] ∧
        ∀ spot, (Range.make 1 0 2 2).covers spot = true → spot ≠ ⟨1, 0⟩ →
          planned spot = (s.cell spot).entry := by
  intro wb request
  have hreachable : wb.Reachable := ⟨_, _, rfl⟩
  have haccepted : (wb.fill (fun _ => true) request).answer = .ok () :=
    eq_ok_of_isOk (by decide +kernel)
  have hdown : (wb.fillAxis request).toOption = some .rows := by decide +kernel
  have hentries : (wb.planFill ⟨0⟩ .rows request.source request.target).toOption.map (·.entries) =
      some [.value (.text "x"), .empty, .empty, .empty, .value (.text "x"), .value (.text "y")] := by
    decide +kernel
  have hmerged : (wb.sheet ⟨0⟩).toOption.map (·.merged) = some [.make 1 0 2 2] := by decide +kernel
  obtain ⟨s, axis, planned, hs, haxis, -, hplan, hchanged⟩ := changed_by_fill hreachable haccepted
  rw [haxis] at hdown
  obtain rfl : axis = .rows := Option.some.inj hdown
  rw [hplan] at hentries
  rw [hs] at hmerged
  refine ⟨hreachable, haccepted, s, planned, hs, hplan, Option.some.inj hentries, ?_⟩
  intro spot hcovers hspot
  by_contra hne
  have hmerged' : s.merged = [.make 1 0 2 2] := Option.some.inj hmerged
  have hregion : Range.make 1 0 2 2 ∈ s.merged := hmerged' ▸ List.mem_cons_self
  exact hspot (((hchanged spot hne).2 _ hregion hcovers).2.2 (.inl (by decide))).symm

/-- **A fill that goes back writes into a hidden cell.**  Two cells are merged, and a text that stands
under the second one is continued upwards into it. -/
theorem hidden_cell_filled :
    let wb := ((Session.start {}).run [.setValue ⟨⟨0⟩, ⟨1, 1⟩⟩ (.text "x"),
      .merge ⟨0⟩ (.make 0 0 1 2)]).workbook
    let request : FillRequest := ⟨⟨0⟩, .make 1 0 1 2, .make 0 0 1 2⟩
    wb.Reachable ∧ (wb.fill (fun _ => true) request).answer = .ok () ∧
      ∃ s planned, wb.sheet ⟨0⟩ = .ok s ∧
        wb.planFill ⟨0⟩ .rows request.source request.target = .ok (.over request.target planned) ∧
        planned ⟨0, 1⟩ = .value (.text "x") ∧ (s.cell ⟨0, 1⟩).entry = .empty ∧
        s.merged = [.make 0 0 1 2] ∧
        ¬ ∀ spot, planned spot ≠ (s.cell spot).entry → request.target.covers spot = true ∧
          ∀ region ∈ s.merged, region.covers spot = true → region.first = spot := by
  intro wb request
  have hon : ((wb.sheet ⟨0⟩).bind (·.checkRange request.target)).isOk = true := by decide +kernel
  have hentries : (wb.planFill ⟨0⟩ .rows request.source request.target).toOption.map (·.entries) =
      some [.empty, .value (.text "x")] := by decide +kernel
  have hsheet : (wb.sheet ⟨0⟩).toOption.map (fun s => (s.merged, (s.cell ⟨0, 1⟩).entry)) =
      some ([.make 0 0 1 2], .empty) := by decide +kernel
  obtain ⟨s, hs, hcheck⟩ := bind_eq_ok_iff.mp (eq_ok_of_isOk hon)
  have hplan : wb.planFill ⟨0⟩ .rows request.source request.target = _ := planFill_eq hs hcheck
  rw [hplan] at hentries
  rw [hs] at hsheet
  obtain ⟨hmerged, hempty⟩ := Prod.mk.inj (Option.some.inj hsheet)
  have hfilled : s.planned .rows request.source request.target ⟨0, 1⟩ = .value (.text "x") :=
    (List.cons.inj (List.cons.inj (Option.some.inj hentries)).2).1
  refine ⟨⟨_, _, rfl⟩, eq_ok_of_isOk (by decide +kernel), s, _, hs, hplan, hfilled, hempty, hmerged,
    fun hall => ?_⟩
  have hchanged : s.planned .rows request.source request.target ⟨0, 1⟩ ≠ (s.cell ⟨0, 1⟩).entry := by
    rw [hfilled, hempty]
    decide
  have hfirst := (hall ⟨0, 1⟩ hchanged).2 (.make 0 0 1 2)
    (by rw [hmerged]; exact List.mem_cons_self) (by decide)
  exact absurd hfirst (by decide)

end Workbook

end Spreadsheet
