/-
# Rules follow the cells of a sheet that loses lines

* The formulas of a rule are written for the first cell of the range and read relative to it.  A
  removal changes them as if they stood in a cell of their own: their references follow the cells
  that they name for the first cell, while the range, and with it what they are relative to, loses
  lines on its own.
* A reference is *level* if both its ends move along and are on the first line of the range.  If
  that line is left, taking the lines away and then moving to a cell of the range leads to the same
  place as moving first (`LevelAt.moved?_atLine`), so the formula follows the cells.
* If the first line is removed, and others of the range are left, every level reference gives way to
  `#REF!`.  The formula then follows the cells only if it reads all of them by names, too
  (`ruleFollows_deleteLines_iff`), and in general it does not (`rule_lost_by_deleteLines`).
-/
import Spreadsheet.Proofs.Tidiness
import Spreadsheet.Proofs.Triggers

namespace Spreadsheet.Grid

/-- **If the first line of a span is left, it is again the first one.** -/
theorem Span.first_of_without? {band s t : Span} {words line : Nat} (hs : s.first < words)
    (h : s.without? words band = some t) (hline : band.restored line = s.first) :
    t.first = line := by
  obtain ⟨hstarts, hcovers⟩ := covers_of_without? hs h
  have hle : t.first ≤ line := by
    have hcovered : t.covers words line = true := by
      rw [hcovers, hline]
      exact covers_iff.mpr ⟨Nat.le_refl _, first_le_last hs⟩
    exact (covers_iff.mp hcovered).1
  have hge : line ≤ t.first := by
    have hcovered : s.covers words (band.restored t.first) = true := by
      rw [← hcovers]
      exact covers_iff.mpr ⟨Nat.le_refl _, first_le_last hstarts⟩
    refine Nat.not_lt.mp fun hlt => ?_
    have hbefore : band.restored t.first < band.restored line := restored_lt_iff.mpr hlt
    rw [hline] at hbefore
    exact Nat.not_lt.mpr (covers_iff.mp hcovered).1 hbefore
  exact Nat.le_antisymm hle hge

theorem Span.covers_single {line words x : Nat} (h : line < words) :
    (Span.single line).covers words x = true ↔ x = line := by
  rw [covers_iff]
  simp only [single, last]
  omega

/-- A coordinate that moves along is where the move leads. -/
theorem Coordinate.move?_loose {line dest limit : Nat} {delta : Int}
    (hdest : (line : Int) + delta = dest) (hlimit : dest < limit) :
    (⟨line, false⟩ : Coordinate).move? limit delta = some ⟨dest, false⟩ := by
  simp only [move?, Bool.false_eq_true, if_false, hdest]
  rw [if_pos ⟨by omega, by omega⟩, Int.toNat_natCast]

end Spreadsheet.Grid

namespace Spreadsheet

open Grid Formula Conditional

/-! ## 1. Level references -/

namespace Formula

/-- **A reference that is level on an axis:** both its ends are on one line and move along. -/
def Reference.LevelAt (r : Reference) (axis : Axis) (line : Nat) : Prop :=
  r.first.along axis = ⟨line, false⟩ ∧ r.last.along axis = ⟨line, false⟩

/-- The reference with both ends on a line. -/
def Reference.atLine (axis : Axis) (line : Nat) : Reference → Reference
  | .cell pos => .cell (reindex pos axis line)
  | .area first last => .area (reindex first axis line) (reindex last axis line)

@[simp] theorem Reference.first_atLine (r : Reference) (axis : Axis) (line : Nat) :
    (r.atLine axis line).first = reindex r.first axis line := by
  cases r <;> rfl

@[simp] theorem Reference.last_atLine (r : Reference) (axis : Axis) (line : Nat) :
    (r.atLine axis line).last = reindex r.last axis line := by
  cases r <;> rfl

/-- **What a reference reads like** in a formula that stands a number of lines away. -/
def Reference.moved? (r : Reference) (rows columns : Int) : Option Reference :=
  if rows = 0 ∧ columns = 0 then some r else r.move? rows columns

section Level

variable {r : Reference} {axis : Axis} {band : Span} {line dest : Nat}

/-- **A level reference is renumbered like its line.** -/
theorem Reference.LevelAt.without?_eq (h : r.LevelAt axis line) (band : Span) :
    r.without? axis band = (band.renumber? line).map (atLine axis · r) := by
  obtain ⟨hfirst, hlast⟩ := h
  cases r with
  | cell pos =>
    simp only [first] at hfirst
    rw [without?_cell, hfirst]
    rfl
  | area a b =>
    simp only [first] at hfirst
    simp only [last] at hlast
    rw [without?_area, hfirst, hlast]
    simp only [remainder?_self, Option.map_map]
    rfl

theorem Reference.LevelAt.atLine (h : r.LevelAt axis line) (dest : Nat) :
    (r.atLine axis dest).LevelAt axis dest := by
  have hend {p : Position} (hp : p.along axis = ⟨line, false⟩) :
      (reindex p axis dest).along axis = ⟨dest, false⟩ := by
    have hself : (reindex p axis dest).along axis = { p.along axis with index := dest } := by
      cases axis <;> rfl
    rw [hself, hp]
  rw [LevelAt, first_atLine, last_atLine]
  exact ⟨hend h.1, hend h.2⟩

/-- **A level reference covers on its new line what it covered on the line that this was.** -/
theorem Reference.LevelAt.covers_atLine (h : r.LevelAt axis (band.restored line))
    (hline : band.restored line < axis.words) (spot : Spot) :
    (r.atLine axis line).range.covers spot = r.range.covers (spot.restored axis band) := by
  have hsingle {r : Reference} {line : Nat} (h : r.LevelAt axis line) :
      r.range.along axis = .single line := by
    rw [Reference.along_range_between, h.1, h.2]
    simp [Span.between, Span.single]
  have hrange : (r.atLine axis line).range = r.range.withAlong axis (.single line) := by
    refine Range.ext_along fun other => ?_
    by_cases hother : other = axis
    · subst hother
      rw [hsingle (h.atLine line), Range.along_withAlong_self]
    · rw [Range.along_withAlong_of_ne _ hother, along_range_between, along_range_between]
      simp [along_reindex, hother]
  rw [hrange]
  refine Range.covers_withAlong ?_
  rw [hsingle h, Bool.eq_iff_iff, Span.covers_single hline,
    Span.covers_single (Nat.lt_of_le_of_lt (Span.le_restored line) hline), Span.restored_inj]

/-- **Moves in parallel:** one leads from `line` to `dest`, the other one from and to what these
lines were before the removal, and on the other axis both lead equally far. -/
structure Parallel (axis : Axis) (band : Span) (line dest : Nat)
    (rows columns rows' columns' : Int) : Prop where
  before : (band.restored line : Int) + shiftAlong rows columns axis = band.restored dest
  after : (line : Int) + shiftAlong rows' columns' axis = dest
  other : ∀ other, other ≠ axis → shiftAlong rows' columns' other = shiftAlong rows columns other
  within : band.restored dest < axis.limit

variable {rows columns rows' columns' : Int}

/-- A move that leads nowhere else is in parallel only with moves that do not, either. -/
theorem Parallel.stay_iff (h : Parallel axis band line dest rows columns rows' columns') :
    (rows = 0 ∧ columns = 0 → dest = line) ∧
      ((rows' = 0 ∧ columns' = 0) ↔ rows = 0 ∧ columns = 0) := by
  obtain ⟨hbefore, hafter, hother, -⟩ := h
  have hinj : band.restored dest = band.restored line ↔ dest = line := Span.restored_inj
  cases axis with
  | rows =>
    have hsame : columns' = columns := hother .columns (by decide)
    simp only [shiftAlong] at hbefore hafter
    omega
  | columns =>
    have hsame : rows' = rows := hother .rows (by decide)
    simp only [shiftAlong] at hbefore hafter
    omega

theorem Parallel.move?_reindex (h : Parallel axis band line dest rows columns rows' columns')
    {p : Position} (hp : p.along axis = ⟨band.restored line, false⟩) :
    (reindex p axis line).move? rows' columns' =
      (p.move? rows columns).map (reindex · axis dest) ∧
    ∀ q, p.move? rows columns = some q → q.along axis = ⟨band.restored dest, false⟩ := by
  have hold := Coordinate.move?_loose h.before h.within
  have hnew := Coordinate.move?_loose h.after
    (Nat.lt_of_le_of_lt (Span.le_restored dest) h.within)
  obtain ⟨row, col⟩ := p
  cases axis with
  | rows =>
    obtain rfl : row = ⟨band.restored line, false⟩ := hp
    have hother : columns' = columns := h.other .columns (by decide)
    simp only [shiftAlong, Axis.limit] at hold hnew
    simp only [reindex, Position.withAlong, Position.along, Position.move?, hold, hnew, hother]
    cases col.move? maxColumns columns with
    | none => exact ⟨rfl, fun q hq => by cases hq⟩
    | some col => exact ⟨rfl, fun q hq => by rw [← Option.some.inj hq]⟩
  | columns =>
    obtain rfl : col = ⟨band.restored line, false⟩ := hp
    have hother : rows' = rows := h.other .rows (by decide)
    simp only [shiftAlong, Axis.limit] at hold hnew
    simp only [reindex, Position.withAlong, Position.along, Position.move?, hold, hnew, hother]
    cases row.move? maxRows rows with
    | none => exact ⟨rfl, fun q hq => by cases hq⟩
    | some row => exact ⟨rfl, fun q hq => by rw [← Option.some.inj hq]⟩

/-- The rectangle between two positions on one line of an axis is level there, and taken to another
line it is the rectangle between the positions there. -/
theorem Reference.between_of_level {a b : Position} (ha : a.along axis = ⟨line, false⟩)
    (hb : b.along axis = ⟨line, false⟩) : (Reference.between a b).LevelAt axis line ∧
      Reference.between (reindex a axis dest) (reindex b axis dest) =
        (Reference.between a b).atLine axis dest := by
  have hsame (c : Coordinate) : inOrder c c = (c, c) := if_pos (Nat.le_refl _)
  obtain ⟨row, col⟩ := a
  obtain ⟨row', col'⟩ := b
  cases axis with
  | rows =>
    obtain rfl : row = ⟨line, false⟩ := ha
    obtain rfl : row' = ⟨line, false⟩ := hb
    simp only [between, LevelAt, atLine, reindex, first, last, Position.along, Position.withAlong,
      hsame, and_self]
  | columns =>
    obtain rfl : col = ⟨line, false⟩ := ha
    obtain rfl : col' = ⟨line, false⟩ := hb
    simp only [between, LevelAt, atLine, reindex, first, last, Position.along, Position.withAlong,
      hsame, and_self]

/-- **A level reference that moves stays level,** and moving it in parallel from another line leads
to the parallel place. -/
theorem Reference.LevelAt.move?_atLine (h : r.LevelAt axis (band.restored line))
    (hpar : Parallel axis band line dest rows columns rows' columns') :
    (r.atLine axis line).move? rows' columns' = (r.move? rows columns).map (·.atLine axis dest) ∧
      ∀ q, r.move? rows columns = some q → q.LevelAt axis (band.restored dest) := by
  cases r with
  | cell pos =>
    obtain ⟨hmove, hlevel⟩ := hpar.move?_reindex (p := pos) h.1
    constructor
    · simp only [Reference.atLine, move?, hmove, Option.map_map]
      rfl
    · intro q hq
      obtain ⟨new, hnew, rfl⟩ := Option.map_eq_some_iff.mp hq
      exact ⟨hlevel new hnew, hlevel new hnew⟩
  | area a b =>
    obtain ⟨hmoveA, hlevelA⟩ := hpar.move?_reindex (p := a) h.1
    obtain ⟨hmoveB, hlevelB⟩ := hpar.move?_reindex (p := b) h.2
    simp only [Reference.atLine, move?, hmoveA, hmoveB]
    cases ha : a.move? rows columns with
    | none => exact ⟨rfl, fun q hq => by cases hq⟩
    | some a' =>
      cases hb : b.move? rows columns with
      | none => exact ⟨rfl, fun q hq => by cases hq⟩
      | some b' =>
        obtain ⟨hlevel, hbetween⟩ := between_of_level (hlevelA a' ha) (hlevelB b' hb)
        exact ⟨congrArg some hbetween, fun q hq => Option.some.inj hq ▸ hlevel⟩

/-- **What a level reference reads like does not depend on when the lines are taken away:** first,
or once it has moved. -/
theorem Reference.LevelAt.moved?_atLine (h : r.LevelAt axis (band.restored line))
    (hpar : Parallel axis band line dest rows columns rows' columns') :
    (r.atLine axis line).moved? rows' columns' =
      (r.moved? rows columns).map (·.atLine axis dest) ∧
    ∀ q, r.moved? rows columns = some q → q.LevelAt axis (band.restored dest) := by
  obtain ⟨hdest, hstay⟩ := hpar.stay_iff
  unfold moved?
  by_cases hzero : rows = 0 ∧ columns = 0
  · obtain rfl : dest = line := hdest hzero
    rw [if_pos hzero, if_pos (hstay.mpr hzero)]
    exact ⟨rfl, fun q hq => Option.some.inj hq ▸ h⟩
  · rw [if_neg hzero, if_neg (hstay.not.mpr hzero)]
    exact h.move?_atLine hpar

end Level

end Formula

/-! ## 2. Level formulas -/

/-- **A formula whose references name no sheet and are level on an axis.** -/
def Formula.Expr.LevelAt (e : Expr) (axis : Axis) (line : Nat) : Prop :=
  ∀ sheet target, e.Mentions (.ref sheet target) → sheet = none ∧ target.LevelAt axis line

namespace Workbook

variable {wb wb' : Workbook} {sheet : SheetId} {axis : Axis} {band : Span} {range range' : Range}
  {e : Expr} {spot : Spot} {x : Key} {s : Sheet}

/-- A removal changes no names that a formula mentions. -/
theorem mentions_name_following_iff {name : String} :
    (e.mapRefs (wb.following sheet axis band sheet)).Mentions (.name name) ↔
      e.Mentions (.name name) := by
  rw [mentions_mapRefs_iff]
  constructor
  · rintro (⟨named, target, -, hm⟩ | ⟨name', hm, heq⟩)
    · unfold following at hm
      split at hm
      · obtain ⟨q, -, heq⟩ := mentions_refOrError_iff.mp hm
        cases heq
      · cases hm
    · obtain rfl := Mention.name.inj heq
      exact hm
  · intro hm
    exact .inr ⟨name, hm, rfl⟩

/-- **What a removal makes of the references of a level formula:** they are on the line that theirs
has become, if it is left. -/
theorem mentions_ref_following_iff {line : Nat} (h : e.LevelAt axis line) {named : Option String}
    {q : Reference} :
    (e.mapRefs (wb.following sheet axis band sheet)).Mentions (.ref named q) ↔
      ∃ target new, e.Mentions (.ref none target) ∧ band.renumber? line = some new ∧
        named = none ∧ q = target.atLine axis new := by
  have hfollowing (target : Reference) : wb.following sheet axis band sheet none target =
      refOrError none (target.without? axis band) := if_pos (beq_self_eq_true sheet)
  rw [mentions_mapRefs_iff]
  constructor
  · rintro (⟨sheet', target, hold, hm⟩ | ⟨name, -, heq⟩)
    · obtain ⟨rfl, hlevel⟩ := h sheet' target hold
      rw [hfollowing, hlevel.without?_eq, mentions_refOrError_iff] at hm
      obtain ⟨q', hq', heq⟩ := hm
      obtain ⟨new, hnew, rfl⟩ := Option.map_eq_some_iff.mp hq'
      obtain ⟨rfl, rfl⟩ := Mention.ref.inj heq
      exact ⟨target, new, hold, hnew, rfl, rfl⟩
    · cases heq
  · rintro ⟨target, new, hold, hnew, rfl, rfl⟩
    refine .inl ⟨none, target, hold, ?_⟩
    rw [hfollowing, (h none target hold).2.without?_eq, hnew]
    exact .ref none _

/-! ## 3. What a rule reads for a cell -/

/-- **A formula of a rule reads a cell for a cell of the range** if it mentions the one where it
stands for the other. -/
def RuleReadsAt (wb : Workbook) (sheet : SheetId) (range : Range) (e : Expr) (spot : Spot)
    (x : Key) : Prop :=
  ∃ m edge s,
    (e.moved (spot.row - range.rows.first : Nat) (spot.col - range.cols.first : Nat)).Mentions m ∧
      wb.Resolves ⟨sheet, spot⟩ m edge s ∧ edge.target.covers x = true

/-- **A formula of a rule reads a cell by a name.** -/
def ReadsByName (wb : Workbook) (sheet : SheetId) (e : Expr) (x : Key) : Prop :=
  ∃ name range, e.Mentions (.name name) ∧ wb.namedRange? sheet name = some range ∧
    (⟨sheet, range⟩ : Target).covers x = true

/-- **A formula that names no sheets reads what its references lead to and what it reads by
names.** -/
theorem ruleReadsAt_iff (hs : wb.sheet? sheet = some s)
    (hplain : ∀ named target, e.Mentions (.ref named target) → named = none) :
    wb.RuleReadsAt sheet range e spot x ↔
      (∃ target q, e.Mentions (.ref none target) ∧ target.moved?
        (spot.row - range.rows.first : Nat) (spot.col - range.cols.first : Nat) = some q ∧
          (⟨sheet, q.range⟩ : Target).covers x = true) ∨ wb.ReadsByName sheet e x := by
  constructor
  · rintro ⟨m', edge, s', hm', hres, hcovers⟩
    obtain ⟨m, hm, hmoved⟩ := mentions_moved_iff.mp hm'
    cases m with
    | ref named target =>
      obtain rfl := hplain named target hm
      obtain ⟨q, hq, rfl⟩ := Option.map_eq_some_iff.mp hmoved
      obtain ⟨id, hid, rfl, -⟩ := resolves_ref_iff.mp hres
      obtain rfl := Option.some.inj hid
      exact .inl ⟨target, q, hm, hq, hcovers⟩
    | name name =>
      obtain rfl := Option.some.inj hmoved
      obtain ⟨r, hr, rfl⟩ := Option.map_eq_some_iff.mp hres.edge_eq
      exact .inr ⟨name, r, hm, hr, hcovers⟩
  · rintro (⟨target, q, hm, hq, hcovers⟩ | ⟨name, r, hm, hr, hcovers⟩)
    · refine ⟨.ref none q, q.edge sheet, s, mentions_moved_iff.mpr ⟨_, hm, ?_⟩,
        resolves_ref_iff.mpr ⟨sheet, rfl, rfl, hs⟩, hcovers⟩
      exact congrArg (Option.map (Mention.ref none)) hq
    · exact ⟨.name name, _, s, mentions_moved_iff.mpr ⟨_, hm, rfl⟩,
        ⟨congrArg (Option.map _) hr, hs⟩, hcovers⟩

/-- The ranges that names stand for start on the axes. -/
theorem Tidy.starts_namedRange? (h : wb.Tidy) {name : String}
    (hr : wb.namedRange? sheet name = some range) : range.Starts := by
  obtain ⟨s, hs, hr⟩ := Option.bind_eq_some_iff.mp hr
  obtain ⟨n, hn, rfl⟩ := Option.map_eq_some_iff.mp hr
  exact Sheet.starts_of_holds ((h sheet s hs).names hn)

/-- **Names follow the cells.** -/
theorem readsByName_following_iff (h : wb.Tidy)
    (hlayout : wb'.layout = (wb.removeBand sheet axis band).layout) :
    wb'.ReadsByName sheet (e.mapRefs (wb.following sheet axis band sheet)) x ↔
      wb.ReadsByName sheet e (x.restored sheet axis band) := by
  have hnamed (name : String) : wb'.namedRange? sheet name =
      (wb.namedRange? sheet name).bind (·.without? axis band) := by
    rw [namedRange?_eq hlayout, namedRange?_removeBand, if_pos rfl]
  constructor
  · rintro ⟨name, left, hm, hleft, hcovers⟩
    rw [hnamed] at hleft
    obtain ⟨r, hr, hleft⟩ := Option.bind_eq_some_iff.mp hleft
    refine ⟨name, r, mentions_name_following_iff.mp hm, hr, ?_⟩
    simp only [Target.covers, Bool.and_eq_true, beq_iff_eq] at hcovers ⊢
    rw [restored_of_eq hcovers.1.symm, ← (Range.covers_without? (h.starts_namedRange? hr) hleft).2]
    exact hcovers
  · rintro ⟨name, r, hm, hr, hcovers⟩
    simp only [Target.covers, Bool.and_eq_true, beq_iff_eq, sheet_restored] at hcovers
    rw [restored_of_eq hcovers.1.symm] at hcovers
    have hstarts := h.starts_namedRange? hr
    cases hleft : r.without? axis band with
    | none =>
      rw [(Range.without?_eq_none_iff hstarts).mp hleft] at hcovers
      cases hcovers.2
    | some left =>
      refine ⟨name, left, mentions_name_following_iff.mpr hm, by rw [hnamed, hr]; exact hleft, ?_⟩
      simp only [Target.covers, Bool.and_eq_true, beq_iff_eq]
      rw [(Range.covers_without? hstarts hleft).2]
      exact hcovers

/-! ## 4. Rules that follow -/

/-- **A cell of a range that keeps its first line is as far from it as before,** in terms of what
the lines were. -/
theorem parallel_of_covers (hholds : s.holds range = true)
    (hleft : range.without? axis band = some range') {line : Nat}
    (hline : band.restored line = (range.along axis).first) (hspot : range'.covers spot = true) :
    Parallel axis band line (spot.along axis)
      ((spot.restored axis band).row - range.rows.first : Nat)
      ((spot.restored axis band).col - range.cols.first : Nat)
      (spot.row - range'.rows.first : Nat) (spot.col - range'.cols.first : Nat) := by
  have hstarts := Sheet.starts_of_holds hholds
  have hcovers := hspot
  rw [(Range.covers_without? hstarts hleft).2, Range.covers_iff_along] at hcovers
  have hcovered := Span.covers_iff.mp (hcovers axis)
  have hcovered' := Span.covers_iff.mp (Range.covers_iff_along.mp hspot axis)
  obtain ⟨t, ht, rfl⟩ := Option.map_eq_some_iff.mp hleft
  have hfirst := Span.first_of_without? (hstarts axis) ht hline
  have hlast := Sheet.last_lt_of_holds hholds axis
  have hextent := s.extent_le axis
  rw [Spot.restored, Spot.along_withAlong] at hcovered
  rw [Range.along_withAlong_self, hfirst] at hcovered'
  refine ⟨?_, ?_, fun other hother => ?_, by omega⟩
  · rw [shiftAlong_offset, Spot.restored, Spot.along_withAlong]
    omega
  · rw [shiftAlong_offset, Range.along_withAlong_self, hfirst]
    omega
  · rw [shiftAlong_offset, shiftAlong_offset, Range.along_withAlong_of_ne _ hother, Spot.restored,
      Spot.along_withAlong_of_ne _ hother]

/-- **A formula of a rule follows the cells** if it reads for every cell that is left of the range
what it read for it before, at the places where that is now. -/
def RuleFollows (wb wb' : Workbook) (sheet : SheetId) (axis : Axis) (band : Span)
    (range range' : Range) (e e' : Expr) : Prop :=
  ∀ spot, range'.covers spot = true → ∀ x,
    wb'.RuleReadsAt sheet range' e' spot x ↔
      wb.RuleReadsAt sheet range e (spot.restored axis band) (x.restored sheet axis band)

/-- A formula of a rule that reads by a name whatever it reads for the cells that are left of the
range, as far as that is left. -/
def NamesWhatItReads (wb : Workbook) (sheet : SheetId) (axis : Axis) (band : Span) (range : Range)
    (e : Expr) : Prop :=
  ∀ (spot : Spot) (x : Key), range.covers (spot.restored axis band) = true →
    wb.RuleReadsAt sheet range e (spot.restored axis band) (x.restored sheet axis band) →
      wb.ReadsByName sheet e (x.restored sheet axis band)

section Level

variable (h : wb.Tidy) (hs : wb.sheet? sheet = some s) {s' : Sheet}
  (hs' : wb'.sheet? sheet = some s')
  (hlayout : wb'.layout = (wb.removeBand sheet axis band).layout)
  (hlevel : e.LevelAt axis (range.along axis).first)
include h hs hs' hlayout hlevel

/-- **A level formula follows the cells if the first line of the range is left.** -/
theorem ruleFollows_of_first_left (hholds : s.holds range = true)
    (hleft : range.without? axis band = some range') {line : Nat}
    (hline : band.restored line = (range.along axis).first) :
    wb.RuleFollows wb' sheet axis band range range' e
      (e.mapRefs (wb.following sheet axis band sheet)) := by
  intro spot hspot x
  have hpar := parallel_of_covers hholds hleft hline hspot
  have hrenumber := Span.renumber?_eq_some_iff.mpr hline
  have hplain {named : Option String} {q : Reference}
      (hm : (e.mapRefs (wb.following sheet axis band sheet)).Mentions (.ref named q)) :
      named = none := by
    obtain ⟨-, -, -, -, hnone, -⟩ := (mentions_ref_following_iff hlevel).mp hm
    exact hnone
  have hmoved {target : Reference} (hm : e.Mentions (.ref none target)) := by
    have htarget := (hlevel none target hm).2
    rw [← hline] at htarget
    exact htarget.moved?_atLine hpar
  -- What a reference reads where it has moved to is what it read there.
  have hreads {target q : Reference} (hm : e.Mentions (.ref none target))
      (hq : target.moved? ((spot.restored axis band).row - range.rows.first : Nat)
        ((spot.restored axis band).col - range.cols.first : Nat) = some q) :
      (⟨sheet, (q.atLine axis (spot.along axis)).range⟩ : Target).covers x =
        (⟨sheet, q.range⟩ : Target).covers (x.restored sheet axis band) := by
    have hwords := Nat.lt_trans hpar.within (limit_lt_words axis)
    have hcovers := ((hmoved hm).2 q hq).covers_atLine hwords x.spot
    simp only [Target.covers, sheet_restored, hcovers]
    by_cases hx : x.sheet = sheet
    · rw [restored_of_eq hx]
    · rw [beq_false_of_ne (Ne.symm hx), Bool.false_and, Bool.false_and]
  rw [ruleReadsAt_iff hs' fun named q hm => hplain hm,
    ruleReadsAt_iff hs fun named target hm => (hlevel named target hm).1,
    readsByName_following_iff h hlayout]
  refine or_congr_left ?_
  constructor
  · rintro ⟨target', q', hm', hq', hcovers⟩
    obtain ⟨target, new, hm, hnew, -, rfl⟩ := (mentions_ref_following_iff hlevel).mp hm'
    obtain rfl := Option.some.inj (hnew.symm.trans hrenumber)
    rw [(hmoved hm).1] at hq'
    obtain ⟨q, hq, rfl⟩ := Option.map_eq_some_iff.mp hq'
    exact ⟨target, q, hm, hq, hreads hm hq ▸ hcovers⟩
  · rintro ⟨target, q, hm, hq, hcovers⟩
    refine ⟨target.atLine axis line, q.atLine axis (spot.along axis),
      (mentions_ref_following_iff hlevel).mpr ⟨target, line, hm, hrenumber, rfl, rfl⟩, ?_,
      (hreads hm hq).trans hcovers⟩
    rw [(hmoved hm).1, hq]
    rfl

omit hs in
/-- **If the first line of the range is removed, a level formula reads by names alone.** -/
theorem ruleReadsAt_of_first_removed
    (hgone : band.renumber? (range.along axis).first = none) :
    wb'.RuleReadsAt sheet range' (e.mapRefs (wb.following sheet axis band sheet)) spot x ↔
      wb.ReadsByName sheet e (x.restored sheet axis band) := by
  have hnone {named : Option String} {q : Reference} :
      ¬ (e.mapRefs (wb.following sheet axis band sheet)).Mentions (.ref named q) := by
    intro hm
    obtain ⟨-, new, -, hnew, -⟩ := (mentions_ref_following_iff hlevel).mp hm
    rw [hgone] at hnew
    cases hnew
  rw [ruleReadsAt_iff hs' fun named q hm => absurd hm hnone, readsByName_following_iff h hlayout]
  refine or_iff_right ?_
  rintro ⟨target, -, hm, -⟩
  exact hnone hm

/-- **A level formula follows the cells exactly if the first line of the range is left,** or it
reads by names whatever it reads. -/
theorem ruleFollows_iff (hholds : s.holds range = true)
    (hleft : range.without? axis band = some range') :
    wb.RuleFollows wb' sheet axis band range range' e
        (e.mapRefs (wb.following sheet axis band sheet)) ↔
      band.renumber? (range.along axis).first ≠ none ∨
        wb.NamesWhatItReads sheet axis band range e := by
  have hcovers := (Range.covers_without? (Sheet.starts_of_holds hholds) hleft).2
  cases hfirst : band.renumber? (range.along axis).first with
  | some line =>
    rw [Span.renumber?_eq_some_iff] at hfirst
    simp only [ne_eq, reduceCtorEq, not_false_eq_true, true_or, iff_true]
    exact ruleFollows_of_first_left h hs hs' hlayout hlevel hholds hleft hfirst
  | none =>
    rw [or_iff_right fun hne => hne rfl]
    constructor
    · intro hfollows spot x hspot hreads
      refine (ruleReadsAt_of_first_removed h hs' hlayout hlevel hfirst).mp
        ((hfollows spot ?_ x).mpr hreads)
      rw [hcovers]
      exact hspot
    · intro hnames spot hspot x
      rw [hcovers] at hspot
      rw [ruleReadsAt_of_first_removed h hs' hlayout hlevel hfirst]
      constructor
      · intro hnamed
        exact (ruleReadsAt_iff hs fun named target hm => (hlevel named target hm).1).mpr
          (.inr hnamed)
      · exact hnames spot x hspot

end Level

/-! ## 5. What becomes of a format -/

/-- **The format of a sheet that has a number.** -/
def format? (wb : Workbook) (sheet : SheetId) (id : Nat) : Option Format :=
  (wb.sheet? sheet).bind (·.formats.get? id)

theorem format?_onSheet (id : SheetId) {change : Sheet → Sheet}
    (h : ∀ s, (change s).formats = s.formats) {n : Nat} :
    (wb.onSheet id change).format? sheet n = wb.format? sheet n := by
  rw [format?, sheet?_onSheet, format?]
  split
  · rename_i hid
    subst hid
    cases wb.sheet? id with
    | none => rfl
    | some s => exact congrArg (·.get? n) (h s)
  · rfl

theorem format?_recalculateEach (keys : List Key) (n : Nat) :
    (wb.recalculateEach keys).1.format? sheet n = wb.format? sheet n := by
  induction keys generalizing wb with
  | nil => rfl
  | cons key keys ih =>
    rw [recalculateEach_cons_fst, ih]
    unfold recalculate
    split
    · rfl
    · refine format?_onSheet _ ?_
      exact fun _ => rfl

theorem format?_applyFormats (formats : List (SheetId × Format)) (n : Nat) :
    (wb.applyFormats formats).format? sheet n = wb.format? sheet n := by
  unfold applyFormats
  split
  · rename_i henabled
    clear henabled
    induction formats generalizing wb with
    | nil => rfl
    | cons f formats ih =>
      rw [List.foldl_cons, ih]
      refine format?_onSheet _ ?_
      exact fun _ => rfl
  · rfl

/-- Recalculating everything changes no formats. -/
theorem format?_calculate (wb : Workbook) (sheet : SheetId) (n : Nat) :
    wb.calculate.workbook.format? sheet n = wb.format? sheet n :=
  (format?_applyFormats _ n).trans (format?_recalculateEach wb.turns n)

/-- Finding everything again changes the triggers of a format. -/
theorem format?_rebuild (wb : Workbook) (sheet : SheetId) (n : Nat) :
    wb.rebuild.format? sheet n = (wb.format? sheet n).map (wb.retrigger sheet) := by
  rw [format?, rebuild, sheet?_onSheets, format?]
  cases wb.sheet? sheet with
  | none => rfl
  | some s => exact Table.get?_map ..

/-- **What a removal makes of a format of the sheet:** its range loses the lines, and its formulas
are changed as if they stood in a cell. -/
theorem format?_removeBand (wb : Workbook) (sheet : SheetId) (axis : Axis) (band : Span) (n : Nat) :
    (wb.removeBand sheet axis band).format? sheet n = (wb.format? sheet n).bind fun format =>
      (format.range.without? axis band).map fun range =>
        { format.mapExpr (·.mapRefs (wb.following sheet axis band sheet)) with range } := by
  rw [format?, removeBand, sheet?_onSheet, if_pos rfl, sheet?_onSheets, format?]
  cases wb.sheet? sheet with
  | none => rfl
  | some s =>
    simp only [Option.map_some, Option.bind_some, Sheet.formats_without, followSheet,
      Table.get?_filterMap, Table.get?_map, without_eq_mapRefs]
    cases s.formats.get? n <;> rfl

/-- **What removing lines makes of a format** of which something is left. -/
theorem exists_format?_deleteLines {n : Nat} {format : Format} {first count : Nat}
    (hformat : wb.format? sheet n = some format)
    (hok : (wb.deleteLines sheet axis first count).answer = .ok ())
    (hband : wb.removed? sheet axis first count = some band)
    (hleft : format.range.without? axis band = some range') :
    (wb.deleteLines sheet axis first count).workbook.layout =
        (wb.removeBand sheet axis band).layout ∧
      ∃ format', (wb.deleteLines sheet axis first count).workbook.format? sheet n = some format' ∧
        format'.range = range' ∧
        format'.rules = format.rules.map
          (·.mapExpr (·.mapRefs (wb.following sheet axis band sheet))) := by
  obtain ⟨s, -, -, hafter⟩ := (workbook_deleteLines hok).2 band hband
  rw [hafter]
  refine ⟨?_, (wb.removeBand sheet axis band).retrigger sheet
    { format.mapExpr (·.mapRefs (wb.following sheet axis band sheet)) with range := range' },
    ?_, rfl, rfl⟩
  · rw [(sameFormulas_calculate _).layout_eq, layout_rebuild]
  · rw [format?_calculate, format?_rebuild, format?_removeBand, hformat, Option.bind_some, hleft]
    rfl

/-- The ranges of formats lie on their sheets. -/
theorem Tidy.holds_format? (h : wb.Tidy) {n : Nat} {format : Format}
    (hformat : wb.format? sheet n = some format) :
    ∃ s, wb.sheet? sheet = some s ∧ s.holds format.range = true := by
  obtain ⟨s, hs, hformat⟩ := Option.bind_eq_some_iff.mp hformat
  exact ⟨s, hs, (h sheet s hs).formats hformat⟩

/-! ## 6. The theorem -/

/-- **When rules follow the cells.**  However many lines are removed from a sheet, as long as a cell
of the range of a format is left, the format is still there, its range covers the cells that are
left of its range, and every level formula of its rules reads for each of them what it read for it
before, at the places where that is now, exactly if the first line of the range is left or the
formula reads by names whatever it reads. -/
theorem ruleFollows_deleteLines_iff (h : wb.Reachable) {n : Nat} {format : Format}
    (hformat : wb.format? sheet n = some format) {first count : Nat}
    (hok : (wb.deleteLines sheet axis first count).answer = .ok ()) :
    let after := (wb.deleteLines sheet axis first count).workbook
    (wb.removed? sheet axis first count = none → after = wb) ∧
    ∀ band, wb.removed? sheet axis first count = some band →
      (∃ spot : Spot, format.range.covers (spot.restored axis band) = true) →
      let change (e : Expr) : Expr := e.mapRefs (wb.following sheet axis band sheet)
      ∃ format', after.format? sheet n = some format' ∧
        (∀ spot, format'.range.covers spot = format.range.covers (spot.restored axis band)) ∧
        format'.rules = format.rules.map (·.mapExpr change) ∧
        ∀ rule ∈ format.rules, ∀ f ∈ rule.condition.formulas, ∀ e, f.parsed = some e →
          e.LevelAt axis (format.range.along axis).first →
            (f.mapExpr change).parsed = some (change e) ∧
            (wb.RuleFollows after sheet axis band format.range format'.range e (change e) ↔
              band.renumber? (format.range.along axis).first ≠ none ∨
                wb.NamesWhatItReads sheet axis band format.range e) := by
  intro after
  refine ⟨(workbook_deleteLines hok).1, fun band hband ⟨spot, hspot⟩ => ?_⟩
  intro change
  obtain ⟨s, hs, hholds⟩ := h.tidy.holds_format? hformat
  have hstarts := Sheet.starts_of_holds hholds
  cases hleft : format.range.without? axis band with
  | none =>
    rw [(Range.without?_eq_none_iff hstarts).mp hleft] at hspot
    cases hspot
  | some range' =>
    obtain ⟨hlayout, format', hformat', rfl, hrules⟩ :=
      exists_format?_deleteLines hformat hok hband hleft
    obtain ⟨s', hs', -⟩ := Option.bind_eq_some_iff.mp hformat'
    refine ⟨format', hformat', (Range.covers_without? hstarts hleft).2, hrules,
      fun rule _ f _ e he hlevel => ⟨?_, ?_⟩⟩
    · rw [RuleFormula.mapExpr, he]
    · exact ruleFollows_iff h.tidy hs hs' hlayout hlevel hholds hleft

/-- A formula that mentions a single cell is level on its lines, if it does not fix them. -/
theorem levelAt_of_mentions_eq {cell : Spot}
    (h : e.mentions true = [(.ref none (.cell (.ofSpot cell)), true)]) (axis : Axis) :
    e.LevelAt axis (cell.along axis) := by
  intro named target hm
  obtain ⟨c, hmem⟩ := exists_mem_mentions hm true
  rw [h, List.mem_singleton] at hmem
  obtain ⟨rfl, rfl⟩ := Mention.ref.inj (Prod.mk.inj hmem).1
  refine ⟨rfl, ?_⟩
  cases axis <;> exact ⟨rfl, rfl⟩

/-- The row in front of a format is removed: the range moves up, and so does what its rule reads. -/
theorem ruleFollows_deleteLines_in_front :
    let f := RuleFormula.ofText "=B2=1"
    let rule : Rule := ⟨.expression f, 1, {}⟩
    let wb := ((Session.start {}).run [.addFormats ⟨0⟩ [(.make 1 0 3 1, [rule])]]).workbook
    let after := (wb.deleteLines ⟨0⟩ .rows 0 1).workbook
    wb.Reachable ∧ (wb.deleteLines ⟨0⟩ .rows 0 1).answer = .ok () ∧
      ∃ format format' e f' e', wb.format? ⟨0⟩ 0 = some format ∧
        after.format? ⟨0⟩ 0 = some format' ∧
        format.range = .make 1 0 3 1 ∧ f.parsed = some e ∧ e.LevelAt .rows 1 ∧
        (∀ spot, format'.range.covers spot =
          format.range.covers (spot.restored .rows ⟨0, 1, by decide⟩)) ∧
        format'.rules = [⟨.expression f', 1, {}⟩] ∧ f'.parsed = some e' ∧
        wb.RuleFollows after ⟨0⟩ .rows ⟨0, 1, by decide⟩ format.range format'.range e e' := by
  intro f rule wb after
  have hreach : wb.Reachable := ⟨_, _, rfl⟩
  have hformat : (wb.format? ⟨0⟩ 0).map (fun format => (format.range, format.rules)) =
      some (.make 1 0 3 1, [rule]) := rfl
  obtain ⟨hok, hband, hmentions⟩ : (wb.deleteLines ⟨0⟩ .rows 0 1).answer.isOk = true ∧
      wb.removed? ⟨0⟩ .rows 0 1 = some ⟨0, 1, by decide⟩ ∧
      f.parsed.map (·.mentions true) =
        some [(.ref none (.cell (.ofSpot ⟨1, 1⟩)), true)] := by decide +kernel
  obtain ⟨format, hfound, hdata⟩ := Option.map_eq_some_iff.mp hformat
  obtain ⟨hrange, hrules⟩ := Prod.mk.inj hdata
  obtain ⟨e, he, hmentioned⟩ := Option.map_eq_some_iff.mp hmentions
  have hlevel : e.LevelAt .rows (format.range.along .rows).first := by
    rw [hrange]
    exact levelAt_of_mentions_eq hmentioned .rows
  have hleft : format.range.covers ((⟨0, 0⟩ : Spot).restored .rows ⟨0, 1, by decide⟩) = true := by
    rw [hrange]
    decide
  replace hok := eq_ok_of_isOk hok
  obtain ⟨format', hformat', hcovers, hrules', hall⟩ :=
    (ruleFollows_deleteLines_iff hreach hfound hok).2 _ hband ⟨_, hleft⟩
  obtain ⟨hparsed, hiff⟩ := hall rule (by rw [hrules]; exact List.mem_singleton_self _) f
    (List.mem_singleton_self _) e he hlevel
  refine ⟨hreach, hok, format, format', e, _, _, hfound, hformat', hrange, he, ?_, hcovers, ?_,
    hparsed, hiff.mpr (.inl ?_)⟩
  · rw [hrange] at hlevel
    exact hlevel
  · rw [hrules', hrules]
    rfl
  · rw [hrange]
    decide

/-- **A rule is lost with the first line of its range.**  A format of `A1:A3` asks for the cells
beside its own, and the first row is removed.  What was `A2` is left, and read what was `B2`; now it
reads nothing, though both are still there. -/
theorem rule_lost_by_deleteLines :
    let f := RuleFormula.ofText "=B1=1"
    let rule : Rule := ⟨.expression f, 1, { bold := some true }⟩
    let wb := ((Session.start {}).run [.addFormats ⟨0⟩ [(.make 0 0 3 1, [rule])]]).workbook
    let after := (wb.deleteLines ⟨0⟩ .rows 0 1).workbook
    wb.Reachable ∧ (wb.deleteLines ⟨0⟩ .rows 0 1).answer = .ok () ∧
      wb.removed? ⟨0⟩ .rows 0 1 = some ⟨0, 1, by decide⟩ ∧
      ∃ format format' e f' e', wb.format? ⟨0⟩ 0 = some format ∧
        after.format? ⟨0⟩ 0 = some format' ∧
        format.range = .make 0 0 3 1 ∧ format'.range = .make 0 0 2 1 ∧ format.rules = [rule] ∧
        f.parsed = some e ∧ e.LevelAt .rows 0 ∧
        format'.rules = [⟨.expression f', 1, { bold := some true }⟩] ∧ f'.parsed = some e' ∧
        ¬ wb.RuleFollows after ⟨0⟩ .rows ⟨0, 1, by decide⟩ format.range format'.range e e' := by
  intro f rule wb after
  have hreach : wb.Reachable := ⟨_, _, rfl⟩
  have hformat : (wb.format? ⟨0⟩ 0).map (fun format => (format.range, format.rules)) =
      some (.make 0 0 3 1, [rule]) := rfl
  obtain ⟨hok, hband, hmentions⟩ : (wb.deleteLines ⟨0⟩ .rows 0 1).answer.isOk = true ∧
      wb.removed? ⟨0⟩ .rows 0 1 = some ⟨0, 1, by decide⟩ ∧
      f.parsed.map (·.mentions true) =
        some [(.ref none (.cell (.ofSpot ⟨0, 1⟩)), true)] := by decide +kernel
  replace hok := eq_ok_of_isOk hok
  obtain ⟨format, hfound, hdata⟩ := Option.map_eq_some_iff.mp hformat
  obtain ⟨hrange, hrules⟩ := Prod.mk.inj hdata
  obtain ⟨e, he, hmentioned⟩ := Option.map_eq_some_iff.mp hmentions
  obtain ⟨s, hs, hholds⟩ := hreach.tidy.holds_format? hfound
  have hlevel : e.LevelAt .rows (format.range.along .rows).first := by
    rw [hrange]
    exact levelAt_of_mentions_eq hmentioned .rows
  have hleft : format.range.without? .rows ⟨0, 1, by decide⟩ = some (.make 0 0 2 1) := by
    rw [hrange]
    decide
  obtain ⟨hlayout, format', hformat', hrange', hrules'⟩ :=
    exists_format?_deleteLines hfound hok hband hleft
  obtain ⟨s', hs', -⟩ := Option.bind_eq_some_iff.mp hformat'
  let change (e : Expr) : Expr := e.mapRefs (wb.following ⟨0⟩ .rows ⟨0, 1, by decide⟩ ⟨0⟩)
  refine ⟨hreach, hok, hband, format, format', e, f.mapExpr change, change e, hfound, hformat',
    hrange, hrange', hrules, he, ?_, ?_, ?_, fun hfollows => ?_⟩
  · rw [hrange] at hlevel
    exact hlevel
  · rw [hrules', hrules]
    rfl
  · rw [RuleFormula.mapExpr, he]
  · rw [hrange'] at hfollows
    rcases (ruleFollows_iff hreach.tidy hs hs' hlayout hlevel hholds hleft).mp hfollows with
      hfirst | hnames
    · rw [hrange] at hfirst
      exact hfirst rfl
    · -- The formula mentions no name, and read the cell that was `B2`.
      have hm : e.Mentions (.ref none (.cell (.ofSpot ⟨0, 1⟩))) := by
        have hmem : (.ref none (.cell (.ofSpot ⟨0, 1⟩)), true) ∈ e.mentions true := by
          rw [hmentioned]
          exact List.mem_singleton_self _
        exact mentions_of_mem hmem
      obtain ⟨name, -, hname, -⟩ := hnames ⟨0, 0⟩ ⟨⟨0⟩, ⟨0, 1⟩⟩ (by rw [hrange]; decide)
        ⟨.ref none (.cell (.ofSpot ⟨1, 1⟩)), _, s, by
          rw [hrange]; exact mentions_moved_iff.mpr ⟨_, hm, rfl⟩, ⟨rfl, hs⟩, by decide⟩
      obtain ⟨c, hmem⟩ := exists_mem_mentions hname true
      rw [hmentioned, List.mem_singleton] at hmem
      cases (Prod.mk.inj hmem).1

end Workbook

end Spreadsheet
