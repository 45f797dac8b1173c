/-
# What a fill plans

* A fill that is accepted has its source and its target on the sheet and apart, side by side on one
  axis (`Fillable`).  Each line of the source is filled by itself, away from the source or back from
  it.
* What a fill writes is told without its loops: a list of writes for each line, one for each place
  where the fill lands (`lineWrites`).  No spot is written to twice, so where a step lands there
  stands what the step brings, and everywhere else what was there (`planned`, `planFill_eq`).
* The steps take the cells of the line in turn.  A formula that can be read is moved along, another
  text is copied, and a value goes on as the series of the line does (`Continues`).
* An accepted fill writes what was planned and does nothing else, so all its lines are filled by their
  walks (`Fills`, `fill_by_walks`), and the cells of the target then hold what was planned for them
  (`content_fill`).
-/
import Spreadsheet.Proofs.Entries
import Spreadsheet.Proofs.FillWalks

namespace Spreadsheet

open Grid Formula Conditional

/-! ## 1. Fills that are accepted -/

/-- **A target that can be filled from a source** along an axis. -/
structure Sheet.Fillable (s : Sheet) (axis : Axis) (source target : Range) : Prop where
  source_on : s.checkRange source = .ok ()
  target_on : s.checkRange target = .ok ()
  across_eq : source.along axis.across = target.along axis.across
  apart : source.lastAlong axis < (target.along axis).first ∨
    target.lastAlong axis < (source.along axis).first
  regions : ∀ region ∈ s.merged, region.meets target = true → target.includes region = true

/-- Ranges with the same lines that do not meet lie one behind the other. -/
theorem Grid.Range.apart_of_not_meets {r q : Range} {axis : Axis}
    (hstarts : (r.along axis.across).first < axis.across.words)
    (hacross : r.along axis.across = q.along axis.across) (h : r.meets q = false) :
    r.lastAlong axis < (q.along axis).first ∨ q.lastAlong axis < (r.along axis).first := by
  have hle := Span.first_le_last hstarts
  cases axis with
  | rows =>
    simp only [Range.along, Axis.across, Range.lastAlong] at hacross hle ⊢
    simp only [meets, Span.meets, Bool.and_eq_false_iff, decide_eq_false_iff_not,
      ← hacross] at h
    omega
  | columns =>
    simp only [Range.along, Axis.across, Range.lastAlong] at hacross hle ⊢
    simp only [meets, Span.meets, Bool.and_eq_false_iff, decide_eq_false_iff_not,
      ← hacross] at h
    omega

namespace Workbook

variable {wb : Workbook} {request : FillRequest} {axis : Axis}

/-- **What is checked before a fill.** -/
theorem fillable_of_fillAxis (h : wb.fillAxis request = .ok axis) :
    ∃ s, wb.sheet request.sheet = .ok s ∧ s.Fillable axis request.source request.target := by
  unfold fillAxis at h
  obtain ⟨s, hs, h⟩ := bind_eq_ok_iff.mp h
  obtain ⟨_, hsource, h⟩ := bind_eq_ok_iff.mp h
  obtain ⟨_, htarget, h⟩ := bind_eq_ok_iff.mp h
  dsimp only at h
  have hmeets : request.source.meets request.target = false := by
    refine Bool.eq_false_iff.mpr fun hmeets => ?_
    rw [if_pos hmeets] at h
    cases h
  rw [if_neg (Bool.eq_false_iff.mp hmeets)] at h
  have hfillable (hacross : request.source.along axis.across = request.target.along axis.across)
      (hnone : s.merged.find? (fun region =>
        region.meets request.target && !request.target.includes region) = none) :
      s.Fillable axis request.source request.target := by
    have hstarts := Sheet.starts_of_holds (Sheet.holds_of_checkRange hsource) axis.across
    refine ⟨hsource, htarget, hacross, Range.apart_of_not_meets hstarts hacross hmeets,
      fun region hregion hin => ?_⟩
    simpa [hin] using List.find?_eq_none.mp hnone region hregion
  by_cases hcols : request.source.cols = request.target.cols
  · rw [if_pos hcols] at h
    split at h
    · cases h
    · rename_i hnone
      obtain rfl := Except.ok.inj h
      exact ⟨s, hs, hfillable hcols hnone⟩
  · rw [if_neg hcols] at h
    by_cases hrows : request.source.rows = request.target.rows
    · rw [if_pos hrows] at h
      split at h
      · cases h
      · rename_i hnone
        obtain rfl := Except.ok.inj h
        exact ⟨s, hs, hfillable hrows hnone⟩
    · rw [if_neg hrows] at h
      cases h

/-- **An accepted fill writes what was planned for it,** and does nothing else. -/
theorem exists_of_fill {approves : FillRequest → Bool}
    (h : (wb.fill approves request).answer = .ok ()) :
    ∃ s axis block, wb.sheet request.sheet = .ok s ∧ wb.fillAxis request = .ok axis ∧
      s.Fillable axis request.source request.target ∧
      wb.planFill request.sheet axis request.source request.target = .ok block ∧
      (wb.writeBlock request.sheet block .fill).answer = .ok () ∧
      (wb.fill approves request).workbook =
        (wb.writeBlock request.sheet block .fill).workbook := by
  unfold fill at h ⊢
  obtain ⟨axis, haxis⟩ := exists_of_guard h
  obtain ⟨s, hs, hfillable⟩ := fillable_of_fillAxis haxis
  rw [haxis, Reply.guard_ok] at h ⊢
  cases happroved : approves request with
  | false =>
    rw [happroved] at h
    cases h
  | true =>
    rw [happroved] at h
    obtain ⟨a, hdone, -⟩ := map_eq_ok_iff.mp h
    obtain ⟨block, hplan⟩ := exists_of_guard hdone
    rw [hplan, Reply.guard_ok] at hdone ⊢
    obtain ⟨hanswer, hworkbook⟩ :=
      perform_eq_apply wb { sheet := request.sheet, block, kind := .fill }
    obtain ⟨-, -, hwritten, happlied, -⟩ := exists_of_apply (hanswer.symm.trans hdone)
    exact ⟨s, axis, block, hs, rfl, hfillable, hplan, hwritten, hworkbook.trans happlied⟩

end Workbook

/-! ## 2. What one line gets -/

/-- **A fill goes forward** if its source ends before the target starts. -/
def Forward (axis : Axis) (source target : Range) : Prop :=
  source.lastAlong axis < (target.along axis).first

instance (axis : Axis) (source target : Range) : Decidable (Forward axis source target) :=
  inferInstanceAs (Decidable (_ < _))

namespace Sheet

variable (s : Sheet) (axis : Axis) (source target : Range) (line : Nat)

/-- The cells of a line of the source that are copied. -/
def lineItems : List FillItem :=
  s.fillItems axis line (source.along axis).first (source.lastAlong axis)

/-- The series that the values of a line begin. -/
def lineSeries : Series := Series.detect ((s.lineItems axis source line).map (·.content.shown))

/-- The cells of a line in the order in which they are copied. -/
def lineOrder : List FillItem :=
  if Forward axis source target then s.lineItems axis source line
  else (s.lineItems axis source line).reverse

/-- Where a step is in the series of a line. -/
def lineIndex (step : Nat) : Int :=
  if Forward axis source target then ((s.lineItems axis source line).length : Int) + step
  else -((step : Int) + 1)

/-- **The places of a line where a fill lands.** -/
def landings : List Nat :=
  let first := (target.along axis).first
  let last := target.lastAlong axis
  let order := s.lineOrder axis source target line
  if order.isEmpty then []
  else if Forward axis source target then s.walkForward axis line order first last 0
  else s.walkBackward axis line order first last 0

/-- What a step brings to the place where it lands. -/
def landed? (order : List FillItem) (series : Series) (index : Nat → Int) (landing : Nat × Nat) :
    Option (Spot × Entry) :=
  let spot := axis.spot line landing.1
  (itemInTurn order landing.2).map fun item => (spot, fillEntry item series (index landing.2) spot)

/-- What is written to a line. -/
def lineWrites : List (Spot × Entry) :=
  (s.landings axis source target line).zipIdx.filterMap
    (landed? axis line (s.lineOrder axis source target line) (s.lineSeries axis source line)
      (s.lineIndex axis source target line))

/-- Going through the landings is going through what they bring. -/
theorem foldl_landed (order : List FillItem) (series : Series) (index : Nat → Int)
    (landings : List (Nat × Nat)) (block : Block) :
    landings.foldl (fun block landing =>
      match itemInTurn order landing.2 with
      | some item => block.set (axis.spot line landing.1)
          (fillEntry item series (index landing.2) (axis.spot line landing.1))
      | none => block) block =
      (landings.filterMap (landed? axis line order series index)).foldl
        (fun block w => block.set w.1 w.2) block := by
  rw [List.foldl_filterMap]
  congr 1
  funext block landing
  unfold landed?
  cases itemInTurn order landing.2 <;> rfl

/-- **A line gets what its steps bring.** -/
theorem planLine_eq (block : Block) : s.planLine axis source target block line =
    (s.lineWrites axis source target line).foldl (fun block w => block.set w.1 w.2) block := by
  have horder : (s.lineOrder axis source target line).isEmpty =
      (s.lineItems axis source line).isEmpty := by
    unfold lineOrder
    split <;> simp
  cases hempty : (s.lineItems axis source line).isEmpty with
  | true =>
    rw [lineWrites, landings, if_pos (horder.trans hempty)]
    exact if_pos hempty
  | false =>
    have hsome : ¬ (s.lineItems axis source line).isEmpty = true := by simp [hempty]
    rw [lineWrites, landings, if_neg (horder ▸ hsome), ← foldl_landed]
    refine (if_neg hsome).trans ?_
    unfold lineIndex lineOrder
    by_cases hforward : Forward axis source target
    · simp only [if_pos hforward]
      exact if_pos hforward
    · simp only [if_neg hforward]
      exact if_neg hforward

/-! ## 3. What is written where -/

variable {s axis source target line}

/-- There is an item in turn if there is an item. -/
theorem exists_itemInTurn {items : List FillItem} (h : items ≠ []) (step : Nat) :
    ∃ item, itemInTurn items step = some item :=
  ⟨_, List.getElem?_eq_getElem (Nat.mod_lt step (List.length_pos_of_ne_nil h))⟩

/-- The order leaves out no item and adds none. -/
theorem mem_lineOrder {item : FillItem} :
    item ∈ s.lineOrder axis source target line ↔ item ∈ s.lineItems axis source line := by
  unfold lineOrder
  split
  · exact Iff.rfl
  · exact List.mem_reverse

theorem lineOrder_eq_nil_iff :
    s.lineOrder axis source target line = [] ↔ s.lineItems axis source line = [] := by
  unfold lineOrder
  split <;> simp

theorem lineOrder_ne_nil (h : s.lineItems axis source line ≠ []) :
    s.lineOrder axis source target line ≠ [] := fun hnil => h (lineOrder_eq_nil_iff.mp hnil)

/-- Nothing is written to a line from which nothing is copied. -/
theorem landings_of_nil (h : s.lineItems axis source line = []) :
    s.landings axis source target line = [] := by
  rw [landings, lineOrder_eq_nil_iff.mpr h]
  rfl

/-- Where the fill lands there is something to copy. -/
theorem lineItems_ne_nil {place : Nat} (h : place ∈ s.landings axis source target line) :
    s.lineItems axis source line ≠ [] := fun hnil => by
  rw [landings_of_nil hnil] at h
  cases h

/-- **Written is what the steps bring to the places where they land.** -/
theorem mem_lineWrites {w : Spot × Entry} :
    w ∈ s.lineWrites axis source target line ↔ ∃ k place item,
      (s.landings axis source target line)[k]? = some place ∧
        itemInTurn (s.lineOrder axis source target line) k = some item ∧
        w = (axis.spot line place, fillEntry item (s.lineSeries axis source line)
          (s.lineIndex axis source target line k) (axis.spot line place)) := by
  simp only [lineWrites, landed?, List.mem_filterMap, Prod.exists, List.mk_mem_zipIdx_iff_getElem?,
    Option.map_eq_some_iff]
  constructor
  · rintro ⟨place, k, hk, item, hitem, rfl⟩
    exact ⟨k, place, item, hk, hitem, rfl⟩
  · rintro ⟨k, place, item, hk, hitem, rfl⟩
    exact ⟨place, k, hk, item, hitem, rfl⟩

/-- A line is written to where the fill lands. -/
theorem map_fst_lineWrites : (s.lineWrites axis source target line).map (·.1) =
    (s.landings axis source target line).map (axis.spot line) := by
  by_cases hitems : s.lineItems axis source line = []
  · rw [lineWrites, landings_of_nil hitems]
    rfl
  · have hlanded (landing : Nat × Nat) : (landed? axis line (s.lineOrder axis source target line)
        (s.lineSeries axis source line) (s.lineIndex axis source target line) landing).map (·.1) =
          some (axis.spot line landing.1) := by
      obtain ⟨item, hitem⟩ := exists_itemInTurn (lineOrder_ne_nil hitems) landing.2
      rw [landed?, hitem]
      rfl
    rw [lineWrites, List.map_filterMap]
    simp only [hlanded]
    rw [List.filterMap_eq_map']
    conv_rhs => rw [← List.zipIdx_map_fst 0 (s.landings axis source target line), List.map_map]
    rfl

/-- The walk of a fill over a line. -/
def Walks (s : Sheet) (axis : Axis) (source target : Range) (line : Nat) (landings : List Nat) :
    Prop :=
  let first := (target.along axis).first
  let last := target.lastAlong axis
  let items := s.lineItems axis source line
  if Forward axis source target then s.GoesForward axis line items last first 0 landings
  else s.GoesBackward axis line items.reverse first last 0 landings

/-- **The walk ends,** and where it lands the fill does. -/
theorem walks_landings (hitems : s.lineItems axis source line ≠ []) :
    s.Walks axis source target line (s.landings axis source target line) := by
  have horder : ¬ (s.lineOrder axis source target line).isEmpty = true := fun h =>
    lineOrder_ne_nil hitems (List.isEmpty_iff.mp h)
  rw [Walks, landings, if_neg horder, lineOrder]
  by_cases hforward : Forward axis source target
  · simp only [if_pos hforward]
    exact goesForward_walkForward ..
  · simp only [if_neg hforward]
    exact goesBackward_walkBackward ..

/-- The fill lands on places of the target. -/
theorem Walks.bounds {landings : List Nat} (h : s.Walks axis source target line landings) :
    ∀ p ∈ landings, (target.along axis).first ≤ p ∧ p ≤ target.lastAlong axis := by
  unfold Walks at h
  split at h
  · exact h.bounds
  · intro p hp
    have := h.bounds p hp
    omega

/-- The fill lands on no place twice. -/
theorem Walks.nodup {landings : List Nat} (h : s.Walks axis source target line landings) :
    landings.Nodup := by
  unfold Walks at h
  split at h
  · exact h.pairwise.imp Nat.ne_of_lt
  · exact h.pairwise.imp Nat.ne_of_gt

theorem nodup_landings (s : Sheet) (axis : Axis) (source target : Range) (line : Nat) :
    (s.landings axis source target line).Nodup := by
  by_cases hitems : s.lineItems axis source line = []
  · rw [landings_of_nil hitems]
    exact List.nodup_nil
  · exact (walks_landings hitems).nodup

/-! ## 4. The whole plan -/

/-- The lines that are filled. -/
def filledLines (axis : Axis) (source : Range) : List Nat :=
  List.range' (source.along axis.across).first (source.along axis.across).count

/-- All that a fill writes. -/
def fillWrites (s : Sheet) (axis : Axis) (source target : Range) : List (Spot × Entry) :=
  (filledLines axis source).flatMap (s.lineWrites axis source target)

/-- **A fill writes to no spot twice:** not on one line, and not on two. -/
theorem nodup_fillWrites (s : Sheet) (axis : Axis) (source target : Range) :
    ((s.fillWrites axis source target).map (·.1)).Nodup := by
  rw [fillWrites, List.map_flatMap]
  simp only [map_fst_lineWrites]
  refine List.nodup_flatMap.mpr ⟨fun line _ => ?_, ?_⟩
  · exact (nodup_landings s axis source target line).map fun _ _ h => (Axis.spot_inj.mp h).2
  · have hlines : (filledLines axis source).Nodup := List.nodup_range'
    refine hlines.imp fun {line line'} hne spot h h' => hne ?_
    obtain ⟨_, -, rfl⟩ := List.mem_map.mp h
    obtain ⟨_, -, heq⟩ := List.mem_map.mp h'
    exact (Axis.spot_inj.mp heq).1.symm

/-- What a fill plans for a spot. -/
def planned (s : Sheet) (axis : Axis) (source target : Range) : Spot → Entry :=
  overwrite (fun spot => (s.cell spot).entry) (s.fillWrites axis source target)

/-- **Where a step lands its item is planned.** -/
theorem planned_of_mem (hline : line ∈ filledLines axis source) {w : Spot × Entry}
    (hw : w ∈ s.lineWrites axis source target line) : s.planned axis source target w.1 = w.2 :=
  overwrite_of_mem _ (nodup_fillWrites s axis source target)
    (List.mem_flatMap.mpr ⟨line, hline, hw⟩)

/-- **What is planned anew is where a step lands.** -/
theorem exists_landing_of_planned {spot : Spot}
    (hne : s.planned axis source target spot ≠ (s.cell spot).entry) :
    ∃ line ∈ filledLines axis source, ∃ place ∈ s.landings axis source target line,
      spot = axis.spot line place := by
  have hmem : spot ∈ (s.fillWrites axis source target).map (·.1) := by
    by_contra hmem
    exact hne (overwrite_of_notMem _ hmem)
  rw [fillWrites, List.map_flatMap, List.mem_flatMap] at hmem
  obtain ⟨line, hline, hmem⟩ := hmem
  rw [map_fst_lineWrites] at hmem
  obtain ⟨place, hplace, rfl⟩ := List.mem_map.mp hmem
  exact ⟨line, hline, place, hplace, rfl⟩

/-- **Where none lands the cell stays as it is.** -/
theorem planned_of_notMem {place : Nat} (hplace : place ∉ s.landings axis source target line) :
    s.planned axis source target (axis.spot line place) =
      (s.cell (axis.spot line place)).entry := by
  by_contra hne
  obtain ⟨line', -, place', hplace', heq⟩ := exists_landing_of_planned hne
  obtain ⟨rfl, rfl⟩ := Axis.spot_inj.mp heq
  exact hplace hplace'

end Sheet

namespace Workbook

variable {wb : Workbook} {s : Sheet} {sheet : SheetId} {axis : Axis} {source target : Range}

/-- **The block of a fill** has for each spot what is planned for it. -/
theorem planFill_eq (hs : wb.sheet sheet = .ok s) (htarget : s.checkRange target = .ok ()) :
    wb.planFill sheet axis source target = .ok (.over target (s.planned axis source target)) := by
  have hlines (block : Block) :
      (Sheet.filledLines axis source).foldl (s.planLine axis source target) block =
        (s.fillWrites axis source target).foldl (fun block w => block.set w.1 w.2) block := by
    rw [Sheet.fillWrites, List.foldl_flatMap]
    congr 1
    funext block line
    exact s.planLine_eq axis source target line block
  rw [planFill, hs]
  change (wb.capture sheet target >>= _) = _
  rw [capture_eq hs htarget]
  exact congrArg Except.ok ((hlines _).trans (Block.foldl_set_over htarget _ _))

end Workbook

/-! ## 5. What a step brings -/

/-- **How an item goes on at a spot:** a formula is moved there, a text that is no formula is copied
as it is, and a value is continued by the series of its line. -/
inductive Continues (item : FillItem) (series : Series) (index : Int) (spot : Spot) :
    Entry → Prop where
  | moved {text : String} {e : Expr} (htext : item.content.formulaText? = some text)
      (hparse : parse text = .ok e) :
      Continues item series index spot (.formula (e.moved ((spot.row : Int) - item.spot.row)
        ((spot.col : Int) - item.spot.col)).source)
  | copied {text : String} {fault : ParseFault} (htext : item.content.formulaText? = some text)
      (hparse : parse text = .error fault) : Continues item series index spot (.formula text)
  | valued (htext : item.content.formulaText? = none) :
      Continues item series index spot (.ofValue (series.value index))

namespace Sheet

variable {s : Sheet} {axis : Axis} {source target : Range} {line : Nat}

theorem continues_fillEntry (item : FillItem) (series : Series) (index : Int) (spot : Spot) :
    Continues item series index spot (fillEntry item series index spot) := by
  unfold fillEntry
  cases hcontent : item.content with
  | value v => exact .valued (by rw [hcontent]; rfl)
  | discarded => exact .valued (by rw [hcontent]; rfl)
  | unparsed text | formula text _ _ _ =>
    have htext : item.content.formulaText? = some text := by rw [hcontent]; rfl
    dsimp only
    cases hparse : parse text with
    | ok e => exact .moved htext hparse
    | error fault => exact .copied htext hparse

/-- **How a line is filled.** -/
structure Fills (s : Sheet) (axis : Axis) (source target : Range) (line : Nat)
    (planned : Spot → Entry) (landings : List Nat) : Prop where
  /-- The walk ends, on places of the target. -/
  walks : s.Walks axis source target line landings
  inside : ∀ place ∈ landings, target.covers (axis.spot line place) = true
  /-- Forward the items are taken in turn, and the series goes on behind them. -/
  forward : source.lastAlong axis < (target.along axis).first →
    landings.Pairwise (· < ·) ∧ ∀ k place, landings[k]? = some place →
      let items := s.lineItems axis source line
      ∃ item, items[k % items.length]? = some item ∧
        Continues item (s.lineSeries axis source line) ((items.length : Int) + k)
          (axis.spot line place) (planned (axis.spot line place))
  /-- Backward they are taken from the last to the first, and the series in front of them. -/
  backward : target.lastAlong axis < (source.along axis).first →
    landings.Pairwise (· > ·) ∧ ∀ k place, landings[k]? = some place →
      let items := s.lineItems axis source line
      ∃ item, items[items.length - 1 - k % items.length]? = some item ∧
        Continues item (s.lineSeries axis source line) (-((k : Int) + 1))
          (axis.spot line place) (planned (axis.spot line place))
  /-- The other cells stay as they are. -/
  kept : ∀ place, place ∉ landings →
    planned (axis.spot line place) = (s.cell (axis.spot line place)).entry
  /-- Without merged regions there are no other cells in the target. -/
  all : (∀ region ∈ s.merged, region.meets source = false ∧ region.meets target = false) →
    ∀ place, target.covers (axis.spot line place) = true → place ∈ landings

/-! ## 6. How a line is filled -/

/-- A region that has a cell of a range meets the range. -/
theorem regionAt?_of_not_meets {range : Range} (h : ∀ region ∈ s.merged, region.meets range = false)
    {spot : Spot} (hspot : range.covers spot = true) : s.regionAt? spot = none := by
  refine List.find?_eq_none.mpr fun region hregion hcovers => ?_
  have hmeets := Range.meets_of_covers hcovers hspot
  rw [h region hregion] at hmeets
  cases hmeets

/-- **What is planned where a step lands** is how its item goes on there. -/
theorem continues_planned (hline : line ∈ filledLines axis source) {k place : Nat}
    (hitems : s.lineItems axis source line ≠ [])
    (hk : (s.landings axis source target line)[k]? = some place) :
    ∃ item, itemInTurn (s.lineOrder axis source target line) k = some item ∧
      Continues item (s.lineSeries axis source line) (s.lineIndex axis source target line k)
        (axis.spot line place) (s.planned axis source target (axis.spot line place)) := by
  obtain ⟨item, hitem⟩ := exists_itemInTurn (lineOrder_ne_nil hitems) k
  refine ⟨item, hitem, ?_⟩
  have hplanned := planned_of_mem hline (mem_lineWrites.mpr ⟨k, place, item, hk, hitem, rfl⟩)
  rw [hplanned]
  exact continues_fillEntry ..

section Accepted

variable (h : s.Fillable axis source target)
include h

/-- The lines that are filled are those of the source and of the target. -/
theorem Fillable.mem_filledLines : line ∈ filledLines axis source ↔
    (source.along axis.across).first ≤ line ∧ line ≤ source.lastAlong axis.across := by
  have hlast := last_lt_of_holds (holds_of_checkRange h.source_on) axis.across
  have hextent := s.extent_le axis.across
  have hwords := limit_lt_words axis.across
  have hpos := (source.along axis.across).count_pos
  rw [filledLines, List.mem_range'_1]
  simp only [Range.lastAlong, Span.last] at hlast ⊢
  omega

/-- The places of a line in the target. -/
theorem Fillable.covers_iff (hline : line ∈ filledLines axis source) {place : Nat} :
    target.covers (axis.spot line place) = true ↔
      (target.along axis).first ≤ place ∧ place ≤ target.lastAlong axis := by
  have hbounds := h.mem_filledLines.mp hline
  rw [Range.lastAlong, h.across_eq] at hbounds
  rw [Range.covers_spot_iff]
  exact and_iff_left hbounds

/-- Where no region meets the source, nothing that is copied extends farther. -/
theorem Fillable.room_lineOrder (hline : line ∈ filledLines axis source)
    (hfree : ∀ region ∈ s.merged, region.meets source = false) (step : Nat) :
    room (s.lineOrder axis source target line) step = 0 := by
  have hextra : ∀ item ∈ s.lineOrder axis source target line, item.extra = 0 := by
    intro item hitem
    obtain ⟨place, hplace, hitem⟩ := List.mem_filterMap.mp (mem_lineOrder.mp hitem)
    obtain ⟨extra, hextra, rfl⟩ := Option.map_eq_some_iff.mp hitem
    have hcovers : source.covers (axis.spot line place) = true := by
      rw [List.mem_range'_1] at hplace
      exact Range.covers_spot_iff.mpr ⟨by omega, h.mem_filledLines.mp hline⟩
    rw [extra?_of_free (regionAt?_of_not_meets hfree hcovers)] at hextra
    exact (Option.some.inj hextra).symm
  rw [room]
  cases hitem : itemInTurn (s.lineOrder axis source target line) step with
  | none => rfl
  | some item => exact hextra item (List.mem_of_getElem? hitem)

/-- **Without merged regions the fill lands everywhere.** -/
theorem Fillable.mem_landings (hline : line ∈ filledLines axis source)
    (hitems : s.lineItems axis source line ≠ [])
    (hfree : ∀ region ∈ s.merged, region.meets source = false ∧ region.meets target = false)
    {place : Nat} (hplace : target.covers (axis.spot line place) = true) :
    place ∈ s.landings axis source target line := by
  have hroom := h.room_lineOrder hline fun region hregion => (hfree region hregion).1
  have hempty {p : Nat} (hfirst : (target.along axis).first ≤ p) (hlast : p ≤ target.lastAlong axis) :
      s.regionAt? (axis.spot line p) = none :=
    regionAt?_of_not_meets (fun region hregion => (hfree region hregion).2)
      ((h.covers_iff hline).mpr ⟨hfirst, hlast⟩)
  rw [h.covers_iff hline] at hplace
  have hwalk : s.Walks axis source target line _ := walks_landings hitems
  unfold Walks at hwalk
  unfold lineOrder at hroom
  split at hwalk
  · rename_i hforward
    simp only [if_pos hforward] at hroom
    rw [hwalk.eq_range' hroom fun p => hempty, List.mem_range'_1]
    omega
  · rename_i hforward
    simp only [if_neg hforward] at hroom
    rw [hwalk.eq_reverse hroom fun p hfirst hlast => hempty hfirst (by omega), List.mem_reverse,
      List.mem_range'_1]
    omega

/-- A fill that does not go forward has its source behind its target. -/
theorem Fillable.not_forward (hbehind : target.lastAlong axis < (source.along axis).first) :
    ¬ Forward axis source target := by
  have hsource := Span.first_le_last (starts_of_holds (holds_of_checkRange h.source_on) axis)
  have htarget := Span.first_le_last (starts_of_holds (holds_of_checkRange h.target_on) axis)
  unfold Forward
  simp only [Range.lastAlong] at hbehind ⊢
  omega

/-- **Each line is filled by its own walk.** -/
theorem Fillable.fills (hline : line ∈ filledLines axis source)
    (hitems : s.lineItems axis source line ≠ []) :
    s.Fills axis source target line (s.planned axis source target)
      (s.landings axis source target line) := by
  have hwalk : s.Walks axis source target line _ := walks_landings hitems
  refine ⟨hwalk, fun place hplace => ?_, fun hforward => ?_, fun hbehind => ?_,
    fun place => planned_of_notMem, fun hfree place => h.mem_landings hline hitems hfree⟩
  · exact (h.covers_iff hline).mpr (hwalk.bounds place hplace)
  · have hforward : Forward axis source target := hforward
    unfold Walks at hwalk
    rw [if_pos hforward] at hwalk
    refine ⟨hwalk.pairwise, fun k place hk => ?_⟩
    obtain ⟨item, hitem, hcontinues⟩ := continues_planned hline hitems hk
    rw [lineIndex, if_pos hforward] at hcontinues
    rw [lineOrder, if_pos hforward] at hitem
    exact ⟨item, hitem, hcontinues⟩
  · have hback := h.not_forward hbehind
    unfold Walks at hwalk
    rw [if_neg hback] at hwalk
    refine ⟨hwalk.pairwise, fun k place hk => ?_⟩
    obtain ⟨item, hitem, hcontinues⟩ := continues_planned hline hitems hk
    rw [lineIndex, if_neg hback] at hcontinues
    rw [lineOrder, if_neg hback, itemInTurn, List.length_reverse, List.getElem?_reverse
      (Nat.mod_lt k (List.length_pos_of_ne_nil hitems))] at hitem
    exact ⟨item, hitem, hcontinues⟩

end Accepted

end Sheet

namespace Workbook

variable {wb : Workbook} {request : FillRequest}

/-- **What an accepted fill writes.**  Its source lies in front of its target or behind it, and line by
line it goes through the target: the walk ends, the items are taken in turn, the places where it
lands get what the items go on with, and the other places keep what was captured.  A line from which
nothing is copied keeps all of it. -/
theorem fill_by_walks {approves : FillRequest → Bool}
    (h : (wb.fill approves request).answer = .ok ()) :
    ∃ s axis planned, wb.sheet request.sheet = .ok s ∧ wb.fillAxis request = .ok axis ∧
      wb.capture request.sheet request.target =
        .ok (.over request.target fun spot => (s.cell spot).entry) ∧
      wb.planFill request.sheet axis request.source request.target =
        .ok (.over request.target planned) ∧
      (wb.fill approves request).workbook =
        (wb.writeBlock request.sheet (.over request.target planned) .fill).workbook ∧
      (request.source.lastAlong axis < (request.target.along axis).first ∨
        request.target.lastAlong axis < (request.source.along axis).first) ∧
      ∀ line, (request.source.along axis.across).first ≤ line →
        line ≤ request.source.lastAlong axis.across →
          (s.lineItems axis request.source line = [] → ∀ place,
            planned (axis.spot line place) = (s.cell (axis.spot line place)).entry) ∧
          (s.lineItems axis request.source line ≠ [] → ∃ landings,
            s.Fills axis request.source request.target line planned landings) := by
  obtain ⟨s, axis, block, hs, haxis, hfillable, hplan, -, hworkbook⟩ := exists_of_fill h
  have heq : wb.planFill request.sheet axis request.source request.target = _ :=
    planFill_eq hs hfillable.target_on
  rw [heq] at hplan
  obtain rfl := Except.ok.inj hplan
  refine ⟨s, axis, _, hs, haxis, capture_eq hs hfillable.target_on, heq, hworkbook,
    hfillable.apart, fun line hfirst hlast => ⟨fun hitems place => ?_, fun hitems =>
      ⟨s.landings axis request.source request.target line, ?_⟩⟩⟩
  · exact Sheet.planned_of_notMem (Sheet.landings_of_nil hitems ▸ List.not_mem_nil)
  · exact hfillable.fills (hfillable.mem_filledLines.mpr ⟨hfirst, hlast⟩) hitems

/-- Two cells are continued down a column where the second one is merged with the cell under it, and
so are two cells of the target: the fill lands on every other place there.  Beside it a formula
moves, and a text that is none is copied. -/
theorem fill_by_walks_over_region :
    let wb := ((Session.start {}).run [.setValue ⟨⟨0⟩, ⟨0, 0⟩⟩ (.text "x1"),
      .setValue ⟨⟨0⟩, ⟨1, 0⟩⟩ (.text "x2"), .setFormula ⟨⟨0⟩, ⟨0, 1⟩⟩ "=A1",
      .setFormula ⟨⟨0⟩, ⟨1, 1⟩⟩ "=A1 B", .merge ⟨0⟩ (.make 1 0 2 1),
      .merge ⟨0⟩ (.make 4 0 2 1)]).workbook
    let request : FillRequest := ⟨⟨0⟩, .make 0 0 3 2, .make 3 0 6 2⟩
    (wb.fill (fun _ => true) request).answer = .ok () ∧ ∃ s planned, wb.sheet ⟨0⟩ = .ok s ∧
      wb.planFill ⟨0⟩ .rows request.source request.target = .ok (.over request.target planned) ∧
      (∀ line ≤ 1, ∃ landings,
        s.Fills .rows request.source request.target line planned landings) ∧
      request.target.cells.map planned =
        [.value (.text "x3"), .formula "=A4", .value (.text "x4"), .formula "=A1 B",
          .empty, .empty, .value (.text "x5"), .formula "=A7",
          .value (.text "x6"), .formula "=A1 B", .empty, .empty] := by
  intro wb request
  have haccepted : (wb.fill (fun _ => true) request).answer = .ok () :=
    eq_ok_of_isOk (by decide +kernel)
  have hdown : (wb.fillAxis request).toOption = some .rows := by decide +kernel
  have hentries : (wb.planFill ⟨0⟩ .rows request.source request.target).toOption.map (·.entries) =
      some [.value (.text "x3"), .formula "=A4", .value (.text "x4"), .formula "=A1 B",
        .empty, .empty, .value (.text "x5"), .formula "=A7",
        .value (.text "x6"), .formula "=A1 B", .empty, .empty] := by decide +kernel
  have hcounts : (wb.sheet ⟨0⟩).toOption.map (fun s =>
      ((s.lineItems .rows request.source 0).length,
        (s.lineItems .rows request.source 1).length)) = some (2, 3) := by decide +kernel
  obtain ⟨s, axis, planned, hs, haxis, -, hplan, -, -, hlines⟩ := fill_by_walks haccepted
  rw [haxis] at hdown
  obtain rfl : axis = .rows := Option.some.inj hdown
  rw [hplan] at hentries
  rw [hs] at hcounts
  refine ⟨haccepted, s, planned, hs, hplan, fun line hline => ?_, Option.some.inj hentries⟩
  refine (hlines line (Nat.zero_le line) hline).2 fun hnil => ?_
  obtain ⟨hfirst, hsecond⟩ := Prod.mk.inj (Option.some.inj hcounts)
  match line, hline with
  | 0, _ => rw [hnil] at hfirst; cases hfirst
  | 1, _ => rw [hnil] at hsecond; cases hsecond

/-- **What stands on the sheet after a fill.**  A cell of the target holds what its planned entry
becomes, and every other cell what it held, apart from the latest results of formulas. -/
theorem content_fill {approves : FillRequest → Bool}
    (h : (wb.fill approves request).answer = .ok ()) :
    ∃ axis planned, wb.fillAxis request = .ok axis ∧
      wb.planFill request.sheet axis request.source request.target =
        .ok (.over request.target planned) ∧
      (∀ spot, request.target.covers spot = true → ∃ content,
        wb.contentOfEntry ⟨request.sheet, spot⟩ (planned spot) = .ok content ∧
          Content.Restored content
            ((wb.fill approves request).workbook.content ⟨request.sheet, spot⟩)) ∧
      ∀ key, key ∉ keysOf request.sheet request.target →
        Content.Restored (wb.content key) ((wb.fill approves request).workbook.content key) := by
  obtain ⟨s, axis, block, hs, haxis, hfillable, hplan, hwritten, hworkbook⟩ := exists_of_fill h
  have heq : wb.planFill request.sheet axis request.source request.target = _ :=
    planFill_eq hs hfillable.target_on
  obtain rfl := Except.ok.inj (heq.symm.trans hplan)
  rw [hworkbook]
  exact ⟨axis, _, haxis, heq,
    fun spot => content_writeBlock_over hs hfillable.target_on hwritten,
    (sameAround_writeBlock hs hfillable.target_on hwritten).2⟩

end Workbook

end Spreadsheet
