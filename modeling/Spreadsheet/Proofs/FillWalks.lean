/-
# Walks of a fill

* Forward, a fill looks at the places of a line one after the other.  It skips hidden cells, lands on
  the others, and goes on behind the room that the copied cell or the one there takes
  (`GoesForward`).
* Backward it takes the room that ends at the place it looks at, lands on the first place of it, or
  where the merged region starts that is there, and goes on in front of that (`GoesBackward`).
* Both come to an end, since each round leaves less of the target to look at.  The places landed on
  rise or fall strictly and stay in the target, and where there is no merged region they are all of
  its places.
* Where a fill lands on a merged region it lands on the first place that the region has on the line;
  forward that is its first cell, backward it need not be.
-/
import Mathlib.Data.List.Basic
import Spreadsheet.Proofs.Tidiness
import Spreadsheet.Workbook.Fill

namespace Spreadsheet

open Grid Formula Conditional

/-! ## 1. Places of a line -/

namespace Grid

@[simp] theorem Axis.along_spot (axis : Axis) (line place : Nat) :
    (axis.spot line place).along axis = place := by
  cases axis <;> rfl

@[simp] theorem Axis.along_across_spot (axis : Axis) (line place : Nat) :
    (axis.spot line place).along axis.across = line := by
  cases axis <;> rfl

theorem Axis.spot_inj {axis : Axis} {line line' place place' : Nat} :
    axis.spot line place = axis.spot line' place' ↔ line = line' ∧ place = place' := by
  cases axis <;> simp [Axis.spot, and_comm]

/-- **A range covers the places within its span of the lines within the other.** -/
theorem Range.covers_spot_iff {r : Range} {axis : Axis} {line place : Nat} :
    r.covers (axis.spot line place) = true ↔
      ((r.along axis).first ≤ place ∧ place ≤ r.lastAlong axis) ∧
        (r.along axis.across).first ≤ line ∧ line ≤ r.lastAlong axis.across := by
  rw [covers_iff, Span.covers_iff, Span.covers_iff]
  cases axis with
  | rows => rfl
  | columns => exact and_comm

theorem Range.first_eq_spot (r : Range) (axis : Axis) :
    r.first = axis.spot (r.along axis.across).first (r.along axis).first := by
  cases axis <;> rfl

end Grid

namespace Sheet

section Walks

variable (s : Sheet) (axis : Axis) (line : Nat) (items : List FillItem)

/-! ## 2. Going on until the target is left -/

/-- Over how many further places the cell extends that is copied in a step. -/
def room (step : Nat) : Nat := (itemInTurn items step).elim 0 (·.extra)

/-- **A fill away from its source** that looks at a place next lands on these places before it comes
to its end. -/
inductive GoesForward (last : Nat) : Nat → Nat → List Nat → Prop where
  | done {place step : Nat} (h : last < place) : GoesForward last place step []
  | skip {place step : Nat} {landings : List Nat} (h : place ≤ last)
      (hidden : s.extra? axis (axis.spot line place) = none)
      (rest : GoesForward last (place + 1) step landings) : GoesForward last place step landings
  | land {place step extra : Nat} {landings : List Nat} (h : place ≤ last)
      (shown : s.extra? axis (axis.spot line place) = some extra)
      (rest : GoesForward last (place + max (room items step) extra + 1) (step + 1) landings) :
      GoesForward last place step (place :: landings)

/-- **A fill towards the start of the target** that looks at a place next, or has passed the start of
the sheet, lands on these places before it comes to its end. -/
inductive GoesBackward (first : Nat) : Int → Nat → List Nat → Prop where
  | done {cursor : Int} {step : Nat} (h : cursor < first) : GoesBackward first cursor step []
  | land {place step : Nat} {landings : List Nat} (h : first ≤ place)
      (rest : GoesBackward first ((s.landing axis line items first place step : Int) - 1)
        (step + 1) landings) :
      GoesBackward first place step (s.landing axis line items first place step :: landings)

/-- **A walk away from the source ends.** -/
theorem goesForward_walkForward (place last step : Nat) :
    s.GoesForward axis line items last place step
      (s.walkForward axis line items place last step) := by
  fun_induction walkForward s axis line items place last step with
  | case1 place step hdone => exact .done hdone
  | case2 place step hmore hidden ih => exact .skip (Nat.le_of_not_lt hmore) hidden ih
  | case3 place step hmore extra hshown room ih => exact .land (Nat.le_of_not_lt hmore) hshown ih

/-- **A walk back from the source ends.** -/
theorem goesBackward_walkBackward (first place step : Nat) :
    s.GoesBackward axis line items first place step
      (s.walkBackward axis line items first place step) := by
  fun_induction walkBackward s axis line items first place step with
  | case1 place step hmore here hzero =>
    refine .land hmore (.done ?_)
    omega
  | case2 place step hmore here hne ih =>
    refine .land hmore ?_
    have hpred : ((here - 1 : Nat) : Int) = (here : Int) - 1 := by omega
    rwa [hpred] at ih
  | case3 place step hdone =>
    refine .done ?_
    omega

variable {s axis line items}

/-! ## 3. Landings -/

/-- A walk away from the source lands within the rest of the target. -/
theorem GoesForward.bounds {last place step : Nat} {landings : List Nat}
    (h : s.GoesForward axis line items last place step landings) :
    ∀ p ∈ landings, place ≤ p ∧ p ≤ last := by
  induction h with
  | done => exact nofun
  | skip h _ _ ih => exact fun p hp => ⟨by have := (ih p hp).1; omega, (ih p hp).2⟩
  | land h _ _ ih =>
    refine List.forall_mem_cons.mpr ⟨⟨Nat.le_refl _, h⟩, fun p hp => ?_⟩
    have := ih p hp
    omega

/-- **It lands farther on each time.** -/
theorem GoesForward.pairwise {last place step : Nat} {landings : List Nat}
    (h : s.GoesForward axis line items last place step landings) : landings.Pairwise (· < ·) := by
  induction h with
  | done => exact .nil
  | skip _ _ _ ih => exact ih
  | land _ _ rest ih =>
    refine .cons (fun p hp => ?_) ih
    have := (rest.bounds p hp).1
    omega

/-- **It lands on no hidden cell.** -/
theorem GoesForward.shown {last place step : Nat} {landings : List Nat}
    (h : s.GoesForward axis line items last place step landings) :
    ∀ p ∈ landings, (s.extra? axis (axis.spot line p)).isSome = true := by
  induction h with
  | done => exact nofun
  | skip _ _ _ ih => exact ih
  | land _ hshown _ ih =>
    exact List.forall_mem_cons.mpr ⟨Option.isSome_of_eq_some hshown, ih⟩

/-- A step back lands in the target. -/
theorem first_le_landing (first place step : Nat) :
    first ≤ s.landing axis line items first place step := Nat.le_max_right _ _

/-- A walk back from the source lands within what is left of the target. -/
theorem GoesBackward.bounds {first step : Nat} {cursor : Int} {landings : List Nat}
    (h : s.GoesBackward axis line items first cursor step landings) :
    ∀ p ∈ landings, first ≤ p ∧ (p : Int) ≤ cursor := by
  induction h with
  | done => exact nofun
  | land h _ ih =>
    rename_i place step landings _
    have hle := s.landing_le axis line items step h
    refine List.forall_mem_cons.mpr ⟨⟨first_le_landing .., by omega⟩, fun p hp => ?_⟩
    have := ih p hp
    omega

/-- **It lands farther back each time.** -/
theorem GoesBackward.pairwise {first step : Nat} {cursor : Int} {landings : List Nat}
    (h : s.GoesBackward axis line items first cursor step landings) :
    landings.Pairwise (· > ·) := by
  induction h with
  | done => exact .nil
  | land _ rest ih =>
    refine .cons (fun p hp => ?_) ih
    have := (rest.bounds p hp).2
    omega

/-- **Each landing is that of a step** from a place of the target. -/
theorem GoesBackward.exists_landing {first step : Nat} {cursor : Int} {landings : List Nat}
    (h : s.GoesBackward axis line items first cursor step landings) :
    ∀ p ∈ landings, ∃ place k, first ≤ place ∧ (place : Int) ≤ cursor ∧
      p = s.landing axis line items first place k := by
  induction h with
  | done => exact nofun
  | land h _ ih =>
    rename_i place step landings _
    have hle := s.landing_le axis line items step h
    refine List.forall_mem_cons.mpr ⟨⟨place, step, h, Int.le_refl _, rfl⟩, fun p hp => ?_⟩
    obtain ⟨place', k, hfirst, hplace, hp⟩ := ih p hp
    exact ⟨place', k, hfirst, by omega, hp⟩

/-! ## 4. Lines without merged regions -/

/-- A spot outside all merged regions is not hidden and extends no farther. -/
theorem extra?_of_free {spot : Spot} (h : s.regionAt? spot = none) :
    s.extra? axis spot = some 0 := by
  rw [extra?, h]

/-- It starts where it is. -/
theorem startAlong_of_free {spot : Spot} (h : s.regionAt? spot = none) :
    s.startAlong axis spot = spot.along axis := by
  rw [startAlong, h]

/-- **Away from the source every place is landed on.** -/
theorem GoesForward.eq_range' {last place step : Nat} {landings : List Nat}
    (h : s.GoesForward axis line items last place step landings)
    (hroom : ∀ k, room items k = 0)
    (hfree : ∀ p, place ≤ p → p ≤ last → s.regionAt? (axis.spot line p) = none) :
    landings = List.range' place (last + 1 - place) := by
  induction h with
  | done h => rw [Nat.sub_eq_zero_of_le h, List.range'_zero]
  | skip h hidden _ _ =>
    rw [extra?_of_free (hfree _ (Nat.le_refl _) h)] at hidden
    cases hidden
  | land h hshown _ ih =>
    rename_i place step extra landings _
    rw [extra?_of_free (hfree _ (Nat.le_refl _) h)] at hshown
    obtain rfl := Option.some.inj hshown
    rw [hroom, Nat.max_self, Nat.add_zero] at ih
    have hcount : last + 1 - place = (last + 1 - (place + 1)) + 1 := by omega
    rw [hcount, List.range'_succ, ← ih fun p hp => hfree p (by omega)]

/-- **Back from the source as well, in turned order.** -/
theorem GoesBackward.eq_reverse {first step : Nat} {cursor : Int} {landings : List Nat}
    (h : s.GoesBackward axis line items first cursor step landings)
    (hroom : ∀ k, room items k = 0)
    (hfree : ∀ p : Nat, first ≤ p → (p : Int) ≤ cursor → s.regionAt? (axis.spot line p) = none) :
    landings = (List.range' first (cursor + 1 - first).toNat).reverse := by
  induction h with
  | done h =>
    rename_i cursor step
    have hcount : (cursor + 1 - (first : Int)).toNat = 0 := by omega
    rw [hcount]
    rfl
  | land h _ ih =>
    rename_i place step landings _
    have hlanding : s.landing axis line items first place step = place := by
      have hstart : s.startAlong axis (axis.spot line place) = _ :=
        startAlong_of_free (hfree place h (Int.le_refl _))
      rw [Axis.along_spot] at hstart
      have hnothing : place - max (room items step) (place - place) = place := by
        rw [hroom]
        omega
      unfold landing
      simp only [hstart]
      rw [room] at hnothing
      rw [hnothing, Nat.max_eq_left h, hstart, Nat.max_eq_left h]
    have hcount : ((place : Int) + 1 - first).toNat =
        (((place : Int) - 1) + 1 - first).toNat + 1 := by omega
    have hlast : first + (((place : Int) - 1) + 1 - first).toNat = place := by omega
    rw [hlanding] at ih
    rw [hcount, List.range'_concat, Nat.one_mul, hlast, List.reverse_concat, hlanding,
      ← ih fun p hfirst hp => hfree p hfirst (by omega)]

/-! ## 5. Landing on merged regions -/

/-- **A cell that is not hidden and belongs to a region is the first one of it.** -/
theorem first_of_extra? {spot : Spot} {region : Range} (h : (s.extra? axis spot).isSome = true)
    (hregion : s.regionAt? spot = some region) : region.first = spot := by
  rw [extra?, hregion] at h
  by_contra hne
  simp only [if_neg hne] at h
  cases h

/-- **A cell belongs to one region at most.** -/
theorem Tidy.regionAt?_eq_some_iff (h : s.Tidy) {spot : Spot} {region : Range} :
    s.regionAt? spot = some region ↔ region ∈ s.merged ∧ region.covers spot = true := by
  refine ⟨fun hregion => ⟨List.mem_of_find?_eq_some hregion, covers_of_regionAt? hregion⟩, ?_⟩
  rintro ⟨hmem, hcovers⟩
  obtain ⟨before, after, hsplit⟩ := List.append_of_mem hmem
  have hapart := h.apart
  rw [hsplit] at hapart
  rw [regionAt?, hsplit, List.find?_append, List.find?_eq_none.mpr, Option.none_or,
    List.find?_cons, hcovers]
  intro other hother hcovers'
  have hdisjoint := (List.pairwise_append.mp hapart).2.2 other hother region List.mem_cons_self
  rw [hdisjoint spot hcovers'] at hcovers
  cases hcovers

/-- **A step back lands where the region on its place starts,** if the regions there lie within the
target. -/
theorem Tidy.landing_eq_first (h : s.Tidy) {first place step : Nat} (hplace : first ≤ place)
    (hwithin : ∀ region ∈ s.merged, ∀ p, first ≤ p → p ≤ place →
      region.covers (axis.spot line p) = true → first ≤ (region.along axis).first)
    {region : Range} (hregion : region ∈ s.merged)
    (hcovers : region.covers
      (axis.spot line (s.landing axis line items first place step)) = true) :
    (region.along axis).first = s.landing axis line items first place step := by
  have hat := (h.regionAt?_eq_some_iff.mpr ⟨hregion, hcovers⟩)
  generalize hlanding : s.landing axis line items first place step = landed at hat hcovers ⊢
  unfold landing at hlanding
  simp only at hlanding
  generalize htop : max (place - max ((itemInTurn items step).elim 0 (·.extra))
    (place - s.startAlong axis (axis.spot line place))) first = top at hlanding
  have hbetween : first ≤ top ∧ top ≤ place := by omega
  cases hthere : s.regionAt? (axis.spot line top) with
  | none =>
    -- it lands on a place outside all regions
    rw [startAlong_of_free hthere, Axis.along_spot, Nat.max_eq_left hbetween.1] at hlanding
    rw [← hlanding, hthere] at hat
    cases hat
  | some other =>
    obtain ⟨hother, hcovers'⟩ := h.regionAt?_eq_some_iff.mp hthere
    have hstart := hwithin other hother top hbetween.1 hbetween.2 hcovers'
    rw [startAlong, hthere, Nat.max_eq_left hstart] at hlanding
    -- the region that is there is the one that is landed on
    have hcovers'' : other.covers (axis.spot line landed) = true := by
      rw [Range.covers_spot_iff] at hcovers' ⊢
      omega
    have hsame := hat.symm.trans (h.regionAt?_eq_some_iff.mpr ⟨hother, hcovers''⟩)
    rw [Option.some.inj hsame]
    exact hlanding

end Walks

end Sheet

end Spreadsheet
