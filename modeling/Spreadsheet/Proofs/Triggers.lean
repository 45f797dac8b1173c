/-
# What triggers a format

* An edge of a rule *sweeps* the cells that it comes to cover when its first line stays and its last
  one moves along with the range of the format, on the axes on which the edge moves.  The triggers
  of a format cover its own range and the cells that the edges of its rules sweep, and nothing else
  (`isTriggeredBy_iff`).
* What a reference reads for any cell of the range is swept by its own edge, whichever ends of it
  are fixed, and also if the ends change places on the way (`sweeps_of_readsThrough`).
* A reference has no edge of its own if an earlier edge includes it.  If that one does not move
  where the reference does, the reference is *left behind*.  So all that a rule reads triggers the
  format exactly if this holds of what is left behind (`reads_trigger_iff`), and it may fail
  (`left_behind_by_fixed_reference`).
-/
import Spreadsheet.Proofs.Following
import Spreadsheet.Proofs.Upkeep

namespace Spreadsheet.Grid

/-! ## 1. Stretching and cutting spans -/

section

variable {words limit line count x : Nat}

/-- A span that is stretched to a count, as far as there are lines. -/
theorem Span.signed_eq_make (hline : line < limit) (hcount : 0 < count) :
    Span.signed limit line count = .make line (min count (limit - line)) := by
  have hgrow : max (count : Int) 1 = count := by omega
  have hfirst : max 0 (min (line : Int) (limit - 1)) = line := by omega
  have hlast : max (line : Int) (min (line + count - 1) (limit - 1)) - line + 1 =
      (min count (limit - line) : Nat) := by omega
  simp only [signed, Int.natCast_nonneg, if_true, hgrow, hfirst, hlast, Int.toNat_natCast]

theorem Span.covers_signed (hline : line < limit) (hlimit : limit ≤ words) (hcount : 0 < count) :
    (Span.signed limit line count).covers words x = true ↔
      line ≤ x ∧ x < line + count ∧ x < limit := by
  rw [signed_eq_make hline hcount, covers_iff]
  simp only [make, last]
  omega

/-- Cutting a span that starts on the axis takes away the lines beyond the axis. -/
theorem Span.covers_cut {s : Span} (hs : s.first < limit) (hlimit : limit ≤ words)
    (hx : x < limit) : (s.cut words limit).covers words x = s.covers words x := by
  have hedge : max limit 1 - 1 = limit - 1 := by omega
  have hfirst : min s.first (limit - 1) = s.first := by omega
  have hle : s.first ≤ s.last words := first_le_last (by omega)
  have hwords : s.last words ≤ words - 1 := Nat.min_le_right _ _
  rw [Bool.eq_iff_iff, covers_iff, covers_iff]
  simp only [cut, make, hedge, hfirst]
  generalize s.last words = last at hle hwords
  have hlast : min (s.first + (max (min last (limit - 1) - s.first + 1) 1 - 1)) (words - 1) =
      min last (limit - 1) := by omega
  simp only [Span.last, hlast]
  omega

/-- The last line between two lines is the later one, as far as there are lines. -/
theorem Span.last_between {a b : Nat} :
    (Span.between a b).last words = min (max a b) (words - 1) := by
  have hmin : min a b ≤ max a b := Nat.le_trans (Nat.min_le_left a b) (Nat.le_max_left a b)
  rw [last, between, Nat.add_sub_cancel, Nat.add_sub_cancel' hmin]

/-- Lines that move on, by no more than a count each, stay between where they were and that far
behind it. -/
theorem Span.between_of_moved {a b i j travel : Nat} (ha : i ≤ a ∧ a ≤ i + travel)
    (hb : j ≤ b ∧ b ≤ j + travel) (hends : max i j < words)
    (hx : (Span.between a b).covers words x = true) :
    (Span.between i j).first ≤ x ∧ x ≤ (Span.between i j).last words + travel := by
  rw [covers_iff, last_between] at hx
  rw [last_between, Nat.min_eq_left (Nat.le_sub_one_of_lt hends)]
  have hfirst : min i j ≤ min a b := Nat.le_min.mpr
    ⟨Nat.le_trans (Nat.min_le_left i j) ha.1, Nat.le_trans (Nat.min_le_right i j) hb.1⟩
  have hlast : max a b ≤ max i j + travel := Nat.max_le.mpr
    ⟨Nat.le_trans ha.2 (Nat.add_le_add_right (Nat.le_max_left i j) _),
      Nat.le_trans hb.2 (Nat.add_le_add_right (Nat.le_max_right i j) _)⟩
  exact ⟨Nat.le_trans hfirst hx.1,
    Nat.le_trans (Nat.le_trans hx.2 (Nat.min_le_left _ _)) hlast⟩

/-- The cells of a range stand less than its counts away from its first one. -/
theorem Range.offset_lt {r : Range} {spot : Spot} (h : spot ∈ r.cells) (axis : Axis) :
    (r.along axis).first ≤ spot.along axis ∧
      spot.along axis - (r.along axis).first < (r.along axis).count := by
  have hline {s : Span} {words line : Nat} (hmem : line ∈ s.lines words) :
      s.first ≤ line ∧ line - s.first < s.count := by
    have hpos := s.count_pos
    rw [Span.lines, List.mem_range'_1, Span.last] at hmem
    omega
  obtain ⟨row, hrow, hspot⟩ := List.mem_flatMap.mp h
  obtain ⟨col, hcol, rfl⟩ := List.mem_map.mp hspot
  cases axis with
  | rows => exact hline hrow
  | columns => exact hline hcol

end

end Spreadsheet.Grid

namespace Spreadsheet

open Grid Formula Conditional

/-! ## 2. What an edge sweeps -/

/-- **How far an edge moves over a range** on an axis. -/
def Edge.travel (edge : Edge) (range : Range) (axis : Axis) : Nat :=
  if (edge.origin.along axis).fixed then 0 else (range.along axis).count - 1

/-- **The cells that an edge sweeps** as it moves over a range. -/
@[mk_iff]
structure Edge.Sweeps (edge : Edge) (range : Range) (x : Key) : Prop where
  sheet_eq : edge.target.sheet = x.sheet
  along : ∀ axis, (edge.target.range.along axis).first ≤ x.spot.along axis ∧
    x.spot.along axis ≤ (edge.target.range.along axis).last axis.words + edge.travel range axis

/-- An edge that includes another one and moves as far sweeps what that one sweeps. -/
theorem Edge.Sweeps.of_includes {kept edge : Edge} {range : Range} {x : Key}
    (h : edge.Sweeps range x) (hincludes : kept.target.includes edge.target = true)
    (htravel : ∀ axis, edge.travel range axis ≤ kept.travel range axis) : kept.Sweeps range x := by
  simp only [Target.includes, Range.includes, Span.includes, Bool.and_eq_true, beq_iff_eq,
    decide_eq_true_eq] at hincludes
  obtain ⟨hsheet, hrows, hcols⟩ := hincludes
  refine ⟨hsheet.trans h.sheet_eq, fun axis => ?_⟩
  have hswept := h.along axis
  have hfar := htravel axis
  cases axis with
  | rows =>
    simp only [Range.along] at hswept ⊢
    omega
  | columns =>
    simp only [Range.along] at hswept ⊢
    omega

namespace Workbook

variable {wb : Workbook} {sheet : SheetId} {range : Range} {rules : List Rule} {x : Key}

theorem along_spread (edge : Edge) (range : Range) (axis : Axis) :
    (spread edge range).along axis = .signed axis.limit (edge.target.range.along axis).first
      ((edge.target.range.along axis).count + edge.travel range axis : Nat) := by
  have htravel (fixed : Bool) (s : Span) :
      ((if fixed then 0 else s.count - 1 : Nat) : Int) = if fixed then 0 else (s.count : Int) - 1 := by
    have hpos := s.count_pos
    cases fixed with
    | false =>
      simp only [Bool.false_eq_true, if_false]
      omega
    | true => rfl
  rw [Int.natCast_add, Edge.travel, htravel]
  cases axis <;> rfl

/-- **On its sheet an edge is spread over the cells that it sweeps.** -/
theorem covers_cut_spread {edge : Edge} {s : Sheet} {spot : Spot}
    (hholds : s.holds edge.target.range = true) (hspot : ∀ axis, spot.along axis < s.extent axis) :
    ((spread edge range).cut s.rows s.cols).covers spot = true ↔ ∀ axis,
      (edge.target.range.along axis).first ≤ spot.along axis ∧ spot.along axis ≤
        (edge.target.range.along axis).last axis.words + edge.travel range axis := by
  rw [Range.covers_iff_along]
  refine forall_congr' fun axis => ?_
  have hwords := limit_lt_words axis
  have hlimit := s.extent_le axis
  have hon := hspot axis
  have hlast := Sheet.last_lt_of_holds hholds axis
  have hcount := (edge.target.range.along axis).count_pos
  have hfirst : (edge.target.range.along axis).first < s.extent axis :=
    Nat.lt_of_le_of_lt (Span.first_le_last (Sheet.starts_of_holds hholds axis)) hlast
  have hcut : ((spread edge range).cut s.rows s.cols).along axis =
      ((spread edge range).along axis).cut axis.words (s.extent axis) := by
    cases axis <;> rfl
  have hstart : ((spread edge range).along axis).first < s.extent axis := by
    rw [along_spread]
    simp only [Span.signed, Span.make, Int.natCast_nonneg, if_true]
    omega
  rw [hcut, Span.covers_cut hstart (by omega) hon, along_spread,
    Span.covers_signed (by omega) (by omega) (by omega)]
  unfold Span.last at hlast ⊢
  omega

/-! ## 3. The triggers of a format -/

theorem covers_addTrigger {triggers : List Target} {t : Target} :
    (∃ u ∈ addTrigger triggers t, u.covers x = true) ↔
      (∃ u ∈ triggers, u.covers x = true) ∨ t.covers x = true := by
  unfold addTrigger
  split
  · rename_i h
    obtain ⟨u, hu, hincludes⟩ := List.any_eq_true.mp h
    rw [or_iff_left_of_imp]
    exact fun hx => ⟨u, hu, Target.covers_of_includes hincludes hx⟩
  · simp [or_and_right, exists_or]

/-- **What the triggers cover,** in terms of the edges that they are made from. -/
theorem covers_triggers_iff (hon : wb.Has x)
    (hholds : ∀ edge ∈ wb.ruleEdges sheet range rules, ∀ s,
      wb.sheet? edge.target.sheet = some s → s.holds edge.target.range = true) :
    (∃ t ∈ wb.triggers sheet range rules, t.covers x = true) ↔
      (⟨sheet, range⟩ : Target).covers x = true ∨
        ∃ edge ∈ wb.ruleEdges sheet range rules, edge.Sweeps range x := by
  obtain ⟨sx, hsx, hcheck⟩ := hon
  have hown : (⟨sheet, range⟩ : Target).covers x = true ↔
      ∃ t ∈ [(⟨sheet, range⟩ : Target)], t.covers x = true := by simp
  rw [triggers, hown]
  generalize [(⟨sheet, range⟩ : Target)] = start
  generalize wb.ruleEdges sheet range rules = edges at hholds ⊢
  induction edges generalizing start with
  | nil => simp
  | cons edge rest ih =>
    refine (ih _ fun e he => hholds e (List.mem_cons_of_mem _ he)).trans ?_
    have hcons : (∃ e ∈ edge :: rest, e.Sweeps range x) ↔
        edge.Sweeps range x ∨ ∃ e ∈ rest, e.Sweeps range x := by simp
    rw [hcons, ← or_assoc]
    refine or_congr_left ?_
    cases hs : wb.sheet? edge.target.sheet with
    | none =>
      simp only [hs]
      rw [or_iff_left]
      rintro ⟨hsheet, -⟩
      rw [hsheet, hsx] at hs
      cases hs
    | some s =>
      simp only [hs]
      rw [covers_addTrigger, Target.covers, Bool.and_eq_true, beq_iff_eq, Edge.sweeps_iff]
      refine or_congr_right (and_congr_right fun hsheet => ?_)
      obtain rfl : s = sx := by
        rw [hsheet, hsx] at hs
        exact (Option.some.inj hs).symm
      exact covers_cut_spread (hholds edge List.mem_cons_self s hs)
        (Sheet.check_eq_ok_iff_along.mp hcheck)

/-- The edges of the rules of a format lie on their sheets. -/
theorem holds_of_mem_ruleEdges {edge : Edge} (h : edge ∈ wb.ruleEdges sheet range rules)
    {s : Sheet} (hs : wb.sheet? edge.target.sheet = some s) :
    s.holds edge.target.range = true := by
  simp only [ruleEdges, List.mem_flatMap] at h
  obtain ⟨rule, -, e, -, hedge⟩ := h
  cases hedges : wb.edges ⟨sheet, range.first⟩ rule.condition.checksSelf e with
  | error fault =>
    rw [hedges] at hedge
    cases hedge
  | ok edges =>
    rw [hedges] at hedge
    obtain ⟨m, hm, s', hres⟩ := exists_mention_of_edge hedges hedge
    obtain rfl : s' = s := Option.some.inj (hres.sheet_eq.symm.trans hs)
    exact (exists_edge_of_mention hedges hm hres).1

/-- **What triggers a format:** its own cells, and those that the edges of its rules sweep. -/
theorem isTriggeredBy_iff (h : wb.Reachable) {s : Sheet} {id : Nat} {format : Format}
    (hs : wb.sheet? sheet = some s) (hformat : s.formats.get? id = some format)
    (hon : wb.Has x) : format.isTriggeredBy [x] = true ↔
      (⟨sheet, format.range⟩ : Target).covers x = true ∨
        ∃ edge ∈ wb.ruleEdges sheet format.range format.rules, edge.Sweeps format.range x := by
  have htriggers : wb.triggers sheet format.range format.rules = format.triggers :=
    congrArg Format.triggers (h.triggered sheet s id format hs hformat)
  rw [← covers_triggers_iff hon fun edge hedge s hs => holds_of_mem_ruleEdges hedge hs, htriggers]
  simp [Format.isTriggeredBy]

end Workbook

/-! ## 4. References that move -/

/-- The lines of a reference lie between those of its two ends. -/
theorem Formula.Reference.along_range_between (r : Reference) (axis : Axis) :
    r.range.along axis = .between (r.first.along axis).index (r.last.along axis).index := by
  cases r with
  | cell pos =>
    cases axis <;> simp [range, Range.single, Range.along, Span.single, Span.between, first, last,
      Position.along, Position.spot]
  | area first last => cases axis <;> rfl

theorem Grid.Coordinate.of_move? {c new : Coordinate} {limit : Nat} {delta : Int}
    (h : c.move? limit delta = some new) :
    (new.index : Int) = c.index + if c.fixed then 0 else delta := by
  simp only [move?, Option.ite_none_right_eq_some, Option.some.injEq] at h
  obtain ⟨⟨hnonneg, -⟩, rfl⟩ := h
  rw [Int.toNat_of_nonneg hnonneg]
  split <;> omega

/-- How far a move leads on an axis. -/
def shiftAlong (rows columns : Int) : Axis → Int
  | .rows => rows
  | .columns => columns

/-- How far a cell is from the first one of a range. -/
theorem shiftAlong_offset (spot : Spot) (range : Range) (axis : Axis) :
    shiftAlong (spot.row - range.rows.first : Nat) (spot.col - range.cols.first : Nat) axis =
      (spot.along axis - (range.along axis).first : Nat) := by
  cases axis <;> rfl

theorem Grid.Position.of_move? {p new : Position} {rows columns : Int}
    (h : p.move? rows columns = some new) (axis : Axis) :
    ((new.along axis).index : Int) = (p.along axis).index +
      if (p.along axis).fixed then 0 else shiftAlong rows columns axis := by
  unfold move? at h
  split at h
  · rename_i row col hrow hcol
    obtain rfl := Option.some.inj h
    cases axis with
    | rows => exact Coordinate.of_move? hrow
    | columns => exact Coordinate.of_move? hcol
  · cases h

/-- **Where the lines of a reference are after a move:** between its ends, each of which has moved on
its own. -/
theorem Formula.Reference.of_move? {r new : Reference} {rows columns : Int}
    (h : r.move? rows columns = some new) (axis : Axis) :
    ∃ a b : Nat, new.range.along axis = .between a b ∧
      (a : Int) = (r.first.along axis).index +
        (if (r.first.along axis).fixed then 0 else shiftAlong rows columns axis) ∧
      (b : Int) = (r.last.along axis).index +
        if (r.last.along axis).fixed then 0 else shiftAlong rows columns axis := by
  cases r with
  | cell pos =>
    obtain ⟨new, hnew, rfl⟩ := Option.map_eq_some_iff.mp h
    exact ⟨_, _, along_range_between _ axis, Position.of_move? hnew axis,
      Position.of_move? hnew axis⟩
  | area first last =>
    simp only [move?] at h
    split at h
    · rename_i a b ha hb
      obtain rfl := Option.some.inj h
      refine ⟨(a.along axis).index, (b.along axis).index, ?_, Position.of_move? ha axis,
        Position.of_move? hb axis⟩
      -- Putting the ends in order does not change what lies between them.
      have hordered (c d : Coordinate) :
          Span.between (inOrder c d).1.index (inOrder c d).2.index = .between c.index d.index := by
        unfold inOrder
        split
        · rfl
        · simp only [Span.between, Nat.min_comm, Nat.max_comm]
      cases axis <;> exact hordered _ _
    · cases h

/-- A line that stays or moves as far as a cell of the range moves on by no more than an edge travels
that moves along with it. -/
theorem Edge.le_travel_of_moved {edge : Edge} {range : Range} {spot : Spot} {axis : Axis}
    {c : Coordinate} {line : Nat} (hspot : spot ∈ range.cells)
    (hline : (line : Int) = c.index +
      if c.fixed then 0 else ((spot.along axis - (range.along axis).first : Nat) : Int))
    (hloose : c.fixed = false → (edge.origin.along axis).fixed = false) :
    c.index ≤ line ∧ line ≤ c.index + edge.travel range axis := by
  have hoffset := (Range.offset_lt hspot axis).2
  unfold travel
  cases hc : c.fixed with
  | false =>
    rw [hc, if_neg Bool.false_ne_true] at hline
    rw [hloose hc, if_neg Bool.false_ne_true]
    omega
  | true =>
    rw [hc, if_pos rfl] at hline
    omega

/-- **Wherever a reference moves to within a range, its edge sweeps what it reads there.** -/
theorem sweeps_of_move? {target new : Reference} {id : SheetId} {range : Range} {spot : Spot}
    {x : Key} (hspot : spot ∈ range.cells)
    (hends : ∀ axis, (target.range.along axis).last axis.words < axis.limit)
    (h : target.move? (spot.row - range.rows.first : Nat) (spot.col - range.cols.first : Nat) =
      some new) (hcovers : (new.edge id).target.covers x = true) :
    (target.edge id).Sweeps range x := by
  rw [Target.covers, Bool.and_eq_true, beq_iff_eq] at hcovers
  refine ⟨hcovers.1, fun axis => ?_⟩
  obtain ⟨a, b, hbetween, ha, hb⟩ := Reference.of_move? h axis
  have hx := Range.covers_iff_along.mp hcovers.2 axis
  -- The edge travels unless both ends stay.
  have hfixed : ((target.edge id).origin.along axis).fixed =
      ((target.first.along axis).fixed && (target.last.along axis).fixed) := by
    cases axis <;> rfl
  have hlast : max (target.first.along axis).index (target.last.along axis).index < axis.words := by
    have hlimit := hends axis
    have hwords := limit_lt_words axis
    rw [Reference.along_range_between, Span.last_between] at hlimit
    omega
  rw [shiftAlong_offset] at ha hb
  change (new.range.along axis).covers axis.words (x.spot.along axis) = true at hx
  rw [hbetween] at hx
  have hswept := Span.between_of_moved
    (Edge.le_travel_of_moved hspot ha fun hc => by rw [hfixed, hc, Bool.false_and])
    (Edge.le_travel_of_moved hspot hb fun hc => by rw [hfixed, hc, Bool.and_false]) hlast hx
  rwa [← Reference.along_range_between] at hswept

/-- **What is mentioned in place of a mention** by a formula that stands a number of lines away. -/
def Mention.moved? (rows columns : Int) : Mention → Option Mention
  | .ref sheet target =>
    (if rows = 0 ∧ columns = 0 then some target else target.move? rows columns).map (.ref sheet)
  | .name called => some (.name called)

/-- **A moved formula mentions what has moved,** as far as it is still there. -/
theorem mentions_moved_iff {e : Expr} {rows columns : Int} {m' : Mention} :
    (e.moved rows columns).Mentions m' ↔
      ∃ m, e.Mentions m ∧ m.moved? rows columns = some m' := by
  by_cases hstay : rows = 0 ∧ columns = 0
  · have hself (m : Mention) : m.moved? rows columns = some m := by
      cases m <;> simp [Mention.moved?, hstay]
    rw [Expr.moved, if_pos hstay]
    simp [hself]
  · rw [Expr.moved, if_neg hstay, mentions_mapRefs_iff]
    simp only [mentions_refOrError_iff]
    constructor
    · rintro (⟨sheet, target, hm, q, hq, rfl⟩ | ⟨name, hm, rfl⟩)
      · exact ⟨_, hm, by rw [Mention.moved?, if_neg hstay, hq]; rfl⟩
      · exact ⟨_, hm, rfl⟩
    · rintro ⟨m, hm, hmoved⟩
      cases m with
      | ref sheet target =>
        rw [Mention.moved?, if_neg hstay] at hmoved
        obtain ⟨q, hq, rfl⟩ := Option.map_eq_some_iff.mp hmoved
        exact .inl ⟨sheet, target, hm, q, hq, rfl⟩
      | name name =>
        obtain rfl := Option.some.inj hmoved
        exact .inr ⟨name, hm, rfl⟩

namespace Workbook

variable {wb : Workbook} {sheet : SheetId} {range : Range} {x : Key} {e : Expr}

/-! ## 5. What a rule reads -/

/-- **A formula of a rule reads a cell** if it mentions the cell where it stands for some cell of
the range. -/
def RuleReads (wb : Workbook) (sheet : SheetId) (range : Range) (e : Expr) (x : Key) : Prop :=
  ∃ spot ∈ range.cells, ∃ m edge s,
    (e.moved (spot.row - range.rows.first : Nat) (spot.col - range.cols.first : Nat)).Mentions m ∧
      wb.Resolves ⟨sheet, spot⟩ m edge s ∧ edge.target.covers x = true

/-- A formula of a rule reads a cell through a mention that is the edge `own` for the first cell. -/
def RuleReadsThrough (wb : Workbook) (sheet : SheetId) (range : Range) (e : Expr) (own : Edge)
    (x : Key) : Prop :=
  ∃ m s, e.Mentions m ∧ wb.Resolves ⟨sheet, range.first⟩ m own s ∧
    ∃ spot ∈ range.cells, ∃ m' edge s',
      m.moved? (spot.row - range.rows.first : Nat) (spot.col - range.cols.first : Nat) = some m' ∧
        wb.Resolves ⟨sheet, spot⟩ m' edge s' ∧ edge.target.covers x = true

/-- **An edge is left behind** by the edges that are kept if each of them that includes it moves
less far than it on some axis. -/
def LeftBehind (edges : List Edge) (range : Range) (own : Edge) : Prop :=
  ∀ kept ∈ edges, kept.target.includes own.target = true →
    ∃ axis, kept.travel range axis < own.travel range axis

/-- A mention that resolves where it has moved to resolves for the first cell, too. -/
theorem exists_resolves_of_moved {m m' : Mention} {rows columns : Int} {spot : Spot} {edge : Edge}
    {s : Sheet} (hm : m.moved? rows columns = some m') (h : wb.Resolves ⟨sheet, spot⟩ m' edge s)
    (first : Spot) : ∃ own, wb.Resolves ⟨sheet, first⟩ m own s := by
  cases m with
  | name name =>
    obtain rfl := Option.some.inj hm
    exact ⟨edge, h.edge_eq, h.sheet_eq⟩
  | ref named target =>
    obtain ⟨target', -, rfl⟩ := Option.map_eq_some_iff.mp hm
    obtain ⟨id, hid, -, hs⟩ := resolves_ref_iff.mp h
    exact ⟨_, resolves_ref_iff.mpr ⟨id, hid, rfl, hs⟩⟩

theorem ruleReads_iff :
    wb.RuleReads sheet range e x ↔ ∃ own, wb.RuleReadsThrough sheet range e own x := by
  constructor
  · rintro ⟨spot, hspot, m', edge, s, hm', hres, hcovers⟩
    obtain ⟨m, hm, hmoved⟩ := mentions_moved_iff.mp hm'
    obtain ⟨own, hown⟩ := exists_resolves_of_moved hmoved hres range.first
    exact ⟨own, m, s, hm, hown, spot, hspot, m', edge, s, hmoved, hres, hcovers⟩
  · rintro ⟨own, m, s, hm, hown, spot, hspot, m', edge, s', hmoved, hres, hcovers⟩
    exact ⟨spot, hspot, m', edge, s', mentions_moved_iff.mpr ⟨m, hm, hmoved⟩, hres, hcovers⟩

/-- **What a rule reads through a mention is swept by the edge of the mention.** -/
theorem sweeps_of_readsThrough {own : Edge} (h : wb.RuleReadsThrough sheet range e own x)
    (hholds : ∀ s, wb.sheet? own.target.sheet = some s → s.holds own.target.range = true) :
    own.Sweeps range x := by
  obtain ⟨m, s, -, hown, spot, hspot, m', edge, s', hmoved, hres, hcovers⟩ := h
  have hstays (hcovers : own.target.covers x = true) : own.Sweeps range x := by
    rw [Target.covers, Bool.and_eq_true, beq_iff_eq, Range.covers_iff_along] at hcovers
    refine ⟨hcovers.1, fun axis => ?_⟩
    have hx := Span.covers_iff.mp (hcovers.2 axis)
    omega
  cases m with
  | name name =>
    obtain rfl := Option.some.inj hmoved
    obtain rfl : edge = own := Option.some.inj (hres.edge_eq.symm.trans hown.edge_eq)
    exact hstays hcovers
  | ref named target =>
    obtain ⟨target', htarget', rfl⟩ := Option.map_eq_some_iff.mp hmoved
    obtain ⟨id, hid, rfl, hs⟩ := resolves_ref_iff.mp hown
    obtain ⟨id', hid', rfl, -⟩ := resolves_ref_iff.mp hres
    obtain rfl : id = id' := Option.some.inj (hid.symm.trans hid')
    split at htarget'
    · obtain rfl := Option.some.inj htarget'
      exact hstays hcovers
    · refine sweeps_of_move? hspot (fun axis => ?_) htarget' hcovers
      exact Nat.lt_of_lt_of_le (Sheet.last_lt_of_holds (hholds s hs) axis) (s.extent_le axis)

/-- The edges of a formula of a rule are among those of the rules. -/
theorem mem_ruleEdges {rules : List Rule} {rule : Rule} {f : RuleFormula} {edges : List Edge}
    {edge : Edge} (hrule : rule ∈ rules) (hf : f ∈ rule.condition.formulas)
    (he : f.parsed = some e)
    (hedges : wb.edges ⟨sheet, range.first⟩ rule.condition.checksSelf e = .ok edges)
    (hedge : edge ∈ edges) : edge ∈ wb.ruleEdges sheet range rules := by
  simp only [ruleEdges, List.mem_flatMap, List.mem_filterMap]
  exact ⟨rule, hrule, e, ⟨f, hf, he⟩, by rw [hedges]; exact hedge⟩

/-! ## 6. The theorem -/

/-- **When everything a rule reads triggers the format.**  For every formula of a rule whose edges
can be found, every cell of a sheet that the formula reads for any cell of the range triggers the
format, exactly if those do that it reads through mentions that are left behind. -/
theorem reads_trigger_iff (h : wb.Reachable) {s : Sheet} {id : Nat} {format : Format}
    (hs : wb.sheet? sheet = some s) (hformat : s.formats.get? id = some format) {rule : Rule}
    (hrule : rule ∈ format.rules) {f : RuleFormula} (hf : f ∈ rule.condition.formulas)
    (he : f.parsed = some e) {edges : List Edge}
    (hedges : wb.edges ⟨sheet, format.range.first⟩ rule.condition.checksSelf e = .ok edges) :
    (∀ x, wb.Has x → wb.RuleReads sheet format.range e x → format.isTriggeredBy [x] = true) ↔
      ∀ own, LeftBehind edges format.range own →
        ∀ x, wb.Has x → wb.RuleReadsThrough sheet format.range e own x →
          format.isTriggeredBy [x] = true := by
  constructor
  · intro hall own _ x hon hreads
    exact hall x hon (ruleReads_iff.mpr ⟨own, hreads⟩)
  · intro hbehind x hon hreads
    obtain ⟨own, hthrough⟩ := ruleReads_iff.mp hreads
    by_cases hleft : LeftBehind edges format.range own
    · exact hbehind own hleft x hon hthrough
    · -- Some edge that is kept includes the mention's own one and moves as far.
      simp only [LeftBehind, not_forall, not_exists, Nat.not_lt] at hleft
      obtain ⟨kept, hkept, hincludes, htravel⟩ := hleft
      rw [isTriggeredBy_iff h hs hformat hon]
      refine .inr ⟨kept, mem_ruleEdges hrule hf he hedges hkept, ?_⟩
      have ⟨m, t, hm, hown, _⟩ := hthrough
      obtain ⟨checked, hmem⟩ := exists_mem_mentions hm rule.condition.checksSelf
      have hholds := (exists_edge_of_mention hedges hmem hown).1
      refine (sweeps_of_readsThrough hthrough fun t' ht' => ?_).of_includes hincludes htravel
      obtain rfl : t = t' := Option.some.inj (hown.sheet_eq.symm.trans ht')
      exact hholds

/-- A range one corner of which stays in its row and the other one in its column: on the way the
corners change places, and all that is read triggers the format. -/
theorem reads_trigger_between_corners :
    let f := RuleFormula.ofText "=AND(A$2:$B1)"
    let rule : Rule := ⟨.expression f, 1, {}⟩
    let wb := ((Session.start {}).run [.addFormats ⟨0⟩ [(.make 0 3 3 2, [rule])]]).workbook
    wb.Reachable ∧ ∃ s format e edges, wb.sheet? ⟨0⟩ = some s ∧ s.formats.get? 0 = some format ∧
      rule ∈ format.rules ∧ f.parsed = some e ∧
      wb.edges ⟨⟨0⟩, format.range.first⟩ true e = .ok edges ∧
      ∀ x, wb.Has x → wb.RuleReads ⟨0⟩ format.range e x → format.isTriggeredBy [x] = true := by
  intro f rule wb
  let target : Reference := .area ⟨⟨0, false⟩, ⟨0, false⟩⟩ ⟨⟨1, true⟩, ⟨1, true⟩⟩
  have hreach : wb.Reachable := ⟨_, _, rfl⟩
  have hformat : ((wb.sheet? ⟨0⟩).bind (·.formats.get? 0)).map (fun format =>
      (format.range, format.rules)) = some (.make 0 3 3 2, [rule]) := rfl
  have hmentions : f.parsed.map (·.mentions true) =
      some [(.ref none target, true)] := by decide +kernel
  obtain ⟨format, hfound, hdata⟩ := Option.map_eq_some_iff.mp hformat
  obtain ⟨s, hs, hget⟩ := Option.bind_eq_some_iff.mp hfound
  obtain ⟨hrange, hrules⟩ := Prod.mk.inj hdata
  obtain ⟨e, he, hmentioned⟩ := Option.map_eq_some_iff.mp hmentions
  have hedges : wb.edges ⟨⟨0⟩, format.range.first⟩ true e = .ok [target.edge ⟨0⟩] := by
    rw [hrange, edges, hmentioned]
    rfl
  have hrule : rule ∈ format.rules := by rw [hrules]; exact List.mem_singleton_self _
  refine ⟨hreach, s, format, e, _, hs, hget, hrule, he, hedges, ?_⟩
  refine (reads_trigger_iff hreach hs hget hrule (List.mem_singleton_self _) he hedges).mpr ?_
  -- The only mention has the only edge.
  rintro own hleft x - ⟨m, t, hm, hown, -⟩
  obtain ⟨checked, hmem⟩ := exists_mem_mentions hm true
  rw [hmentioned, List.mem_singleton] at hmem
  obtain rfl := (Prod.mk.inj hmem).1
  obtain rfl := Option.some.inj hown.edge_eq
  obtain ⟨axis, hless⟩ := hleft _ (List.mem_singleton_self _) (Target.includes_refl _)
  exact absurd hless (Nat.lt_irrefl _)

/-- **A reference is left behind by a fixed one.**  A format compares the cells of column A with the
first of them.  The edge to `$A$1` includes that to `A1`, so only the first cell triggers it. -/
theorem left_behind_by_fixed_reference :
    let f := RuleFormula.ofText "=$A$1=A1"
    let rule : Rule := ⟨.expression f, 1, {}⟩
    let wb := ((Session.start {}).run [.addFormats ⟨0⟩ [(.make 0 3 3 1, [rule])]]).workbook
    wb.Reachable ∧ ∃ s format e edges, wb.sheet? ⟨0⟩ = some s ∧ s.formats.get? 0 = some format ∧
      rule ∈ format.rules ∧ f.parsed = some e ∧ e.callsIndirect = false ∧
      wb.edges ⟨⟨0⟩, format.range.first⟩ true e = .ok edges ∧
      ¬ ∀ x, wb.Has x → wb.RuleReads ⟨0⟩ format.range e x → format.isTriggeredBy [x] = true := by
  intro f rule wb
  have hformat : ((wb.sheet? ⟨0⟩).bind (·.formats.get? 0)).map (fun format =>
      (format.range, format.rules)) = some (.make 0 3 3 1, [rule]) := rfl
  have hfacts : ((wb.sheet? ⟨0⟩).bind (·.formats.get? 0)).map (·.triggers) =
        some [⟨⟨0⟩, .make 0 3 3 1⟩, ⟨⟨0⟩, .single ⟨0, 0⟩⟩] ∧
      (wb.sheet? ⟨0⟩).map (fun s => (s.check ⟨1, 0⟩).isOk) = some true ∧
      f.parsed.map (fun e => (e.mentions true, e.callsIndirect)) =
        some ([(.ref none (.cell (.fixedAt ⟨0, 0⟩)), true),
          (.ref none (.cell (.ofSpot ⟨0, 0⟩)), true)], false) := by decide +kernel
  obtain ⟨htriggers, hcheck, hparsed⟩ := hfacts
  obtain ⟨format, hfound, hdata⟩ := Option.map_eq_some_iff.mp hformat
  obtain ⟨s, hs, hget⟩ := Option.bind_eq_some_iff.mp hfound
  obtain ⟨hrange, hrules⟩ := Prod.mk.inj hdata
  rw [hfound, Option.map_some, Option.some.injEq] at htriggers
  rw [hs, Option.map_some, Option.some.injEq] at hcheck
  obtain ⟨e, he, hdata⟩ := Option.map_eq_some_iff.mp hparsed
  obtain ⟨hmentions, hindirect⟩ := Prod.mk.inj hdata
  have hedges : wb.edges ⟨⟨0⟩, format.range.first⟩ true e =
      .ok [(Reference.cell (.fixedAt ⟨0, 0⟩)).edge ⟨0⟩] := by
    rw [hrange, edges, hmentions]
    rfl
  refine ⟨⟨_, _, rfl⟩, s, format, e, _, hs, hget, by rw [hrules]; exact List.mem_singleton_self _,
    he, hindirect, hedges, fun hall => ?_⟩
  have hreads : wb.RuleReads ⟨0⟩ format.range e ⟨⟨0⟩, ⟨1, 0⟩⟩ := by
    have hm : e.Mentions (.ref none (.cell (.ofSpot ⟨0, 0⟩))) := by
      have hmem : (.ref none (.cell (.ofSpot ⟨0, 0⟩)), true) ∈ e.mentions true := by
        simp [hmentions]
      exact mentions_of_mem hmem
    rw [hrange]
    exact ⟨⟨1, 3⟩, by decide, .ref none (.cell (.ofSpot ⟨1, 0⟩)), _, s,
      mentions_moved_iff.mpr ⟨_, hm, rfl⟩, ⟨rfl, hs⟩, by decide⟩
  have htriggered := hall ⟨⟨0⟩, ⟨1, 0⟩⟩ ⟨s, hs, eq_ok_of_isOk hcheck⟩ hreads
  rw [Format.isTriggeredBy, htriggers] at htriggered
  revert htriggered
  decide

end Workbook

end Spreadsheet
