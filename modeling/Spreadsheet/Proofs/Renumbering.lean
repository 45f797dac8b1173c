/-
# Lines renumbered by a removal

* Removing a band of lines renumbers the lines that survive (`Span.renumber?`).  The renumbering is
  described from the other side: every new line was some line before (`Span.restored`), never one of
  the band, and later lines were later ones.
* Spots, tables of cells, ranges and references follow by computations of their own.  Each is compared
  with the lines that its result was before: what is found in a table stood where its spot is restored
  to (`Table.get?_without`), a range is left with exactly the lines that it covered
  (`Range.covers_without?`), and a reference with exactly what its range is left with
  (`Reference.range_without?`).
* So one renaming of lines describes all of them (`exists_renaming`).  Tables need that the end of the
  band is a word of the axis, as it is when the band lies on a sheet.
-/
import Mathlib.Logic.ExistsUnique
import Spreadsheet.Proofs.Addresses
import Spreadsheet.Proofs.Edits

namespace Spreadsheet.Grid

/-! ## 1. Lines -/

/-- **The line that has become `line`** by the removal of the band. -/
def Span.restored (band : Span) (line : Nat) : Nat :=
  if line < band.first then line else line + band.count

/-- **The new number of a line** after the removal of the band, unless it is one of the band. -/
def Span.renumber? (band : Span) (line : Nat) : Option Nat :=
  if line < band.first then some line
  else if band.first + band.count ≤ line then some (line - band.count)
  else none

/-- The ends of what is left of the lines from `first` to `last`. -/
def Span.remainder? (band : Span) (first last : Nat) : Option (Nat × Nat) :=
  let stop := band.first + band.count
  if band.first ≤ first ∧ last < stop then none
  else
    let newFirst :=
      if first < band.first then first
      else if stop ≤ first then first - band.count
      else band.first
    let newLast :=
      if last < band.first then last
      else if stop ≤ last then last - band.count
      else band.first - 1
    some (newFirst, newLast)

section Lines

variable {band : Span}

theorem Span.restored_lt_iff {a b : Nat} : band.restored a < band.restored b ↔ a < b := by
  unfold restored
  split <;> split <;> omega

theorem Span.restored_inj {a b : Nat} : band.restored a = band.restored b ↔ a = b := by
  unfold restored
  split <;> split <;> omega

theorem Span.le_restored (line : Nat) : line ≤ band.restored line := by
  unfold restored
  split <;> omega

/-- **A line is renumbered to the one that it is restored from.** -/
theorem Span.renumber?_eq_some_iff {line new : Nat} :
    band.renumber? line = some new ↔ band.restored new = line := by
  have hpos := band.count_pos
  unfold renumber? restored
  constructor
  · intro h
    split at h
    · simp only [Option.some.injEq] at h
      rw [if_pos (by omega)]
      omega
    · split at h
      · simp only [Option.some.injEq] at h
        rw [if_neg (by omega)]
        omega
      · cases h
  · intro h
    split at h
    · rw [if_pos (by omega), h]
    · rw [if_neg (by omega), if_pos (by omega), ← h, Nat.add_sub_cancel]

/-- The lines that are not renumbered are those of the band. -/
theorem Span.renumber?_eq_none_iff {line : Nat} :
    band.renumber? line = none ↔ band.first ≤ line ∧ line < band.first + band.count := by
  unfold renumber?
  constructor
  · intro h
    split at h
    · cases h
    · split at h
      · cases h
      · omega
  · rintro ⟨hfirst, hlast⟩
    rw [if_neg (by omega), if_neg (by omega)]

/-- **What is left of lines in order are the lines that were among them;** both ends are among the
lines, the band, and the line in front of it. -/
theorem Span.of_remainder?_eq_some {first last : Nat} {ends : Nat × Nat} (hle : first ≤ last)
    (h : band.remainder? first last = some ends) :
    ends.1 ≤ ends.2 ∧
      (∀ new, ends.1 ≤ new ∧ new ≤ ends.2 ↔
        first ≤ band.restored new ∧ band.restored new ≤ last) ∧
      (ends.1 = first ∨ ends.1 + band.count = first ∨ ends.1 = band.first) ∧
      (ends.2 = last ∨ ends.2 + band.count = last ∨ ends.2 + 1 = band.first) := by
  have hpos := band.count_pos
  unfold remainder? at h
  dsimp only at h
  split at h
  · cases h
  · obtain rfl := Option.some.inj h
    dsimp only [restored]
    refine ⟨?_, fun new => ?_, ?_, ?_⟩
    · split <;> split <;> (try split) <;> (try split) <;> omega
    · -- Six places of the ends by the band, and two of the new line.
      split <;> split <;> (try split) <;> (try split) <;> (try split) <;> omega
    · split
      · omega
      · split <;> omega
    · split
      · omega
      · split <;> omega

/-- What is left of lines in order is in order and does not go beyond them. -/
theorem Span.remainder?_le {band : Span} {first last : Nat} {ends : Nat × Nat} (hle : first ≤ last)
    (h : band.remainder? first last = some ends) :
    ends.1 ≤ ends.2 ∧ ends.1 ≤ first ∧ ends.2 ≤ last := by
  have hpos := band.count_pos
  unfold remainder? at h
  dsimp only at h
  split at h
  · cases h
  · rename_i hleft
    obtain rfl := Option.some.inj h
    dsimp only
    split <;> split <;> (try split) <;> (try split) <;> omega

/-- Nothing is left of lines in order exactly if no line was among them. -/
theorem Span.remainder?_eq_none_iff {first last : Nat} (hle : first ≤ last) :
    band.remainder? first last = none ↔
      ∀ new, ¬(first ≤ band.restored new ∧ band.restored new ≤ last) := by
  constructor
  · intro h new
    unfold remainder? at h
    dsimp only at h
    split at h
    · dsimp only [restored]
      split <;> omega
    · cases h
  · intro h
    cases hends : band.remainder? first last with
    | none => rfl
    | some ends =>
      obtain ⟨hends, hmem, -⟩ := of_remainder?_eq_some hle hends
      exact absurd ((hmem ends.1).mp ⟨Nat.le_refl _, hends⟩) (h ends.1)

/-- A span is left with what is left of its lines. -/
theorem Span.without?_eq (s : Span) (words : Nat) :
    s.without? words band = (band.remainder? s.first (s.last words)).map fun ends =>
      .make ends.1 (ends.2 - ends.1 + 1) := by
  unfold without? remainder?
  dsimp only
  split <;> rfl

/-- **A span on the axis is left with the lines that it covered.** -/
theorem Span.covers_of_without? {s t : Span} {words : Nat} (hs : s.first < words)
    (h : s.without? words band = some t) :
    t.first < words ∧ ∀ new, t.covers words new = s.covers words (band.restored new) := by
  rw [without?_eq] at h
  obtain ⟨ends, hends, rfl⟩ := Option.map_eq_some_iff.mp h
  have hfirst := first_le_last hs
  obtain ⟨hle, hmem, -⟩ := of_remainder?_eq_some hfirst hends
  have hlast : ends.2 ≤ s.last words :=
    Nat.le_trans (le_restored _) ((hmem ends.2).mp ⟨hle, Nat.le_refl _⟩).2
  have hword : s.last words < words := by
    unfold last
    omega
  refine ⟨by simp only [make]; omega, fun new => ?_⟩
  rw [Bool.eq_iff_iff, covers_iff, covers_iff, ← hmem new]
  simp only [make, last]
  omega

/-- The number of lines that are left of a span is a word, if the end of the band is one. -/
theorem Span.count_lt_of_without? {s t : Span} {words : Nat} (hs : s.first < words)
    (hband : band.first + band.count < words) (h : s.without? words band = some t) :
    t.count < words := by
  rw [without?_eq] at h
  obtain ⟨ends, hends, rfl⟩ := Option.map_eq_some_iff.mp h
  obtain ⟨hle, hmem, -⟩ := of_remainder?_eq_some (first_le_last hs) hends
  have hpos := band.count_pos
  have hword : s.last words < words := by
    unfold last
    omega
  have hlast := ((hmem ends.2).mp ⟨hle, Nat.le_refl _⟩).2
  -- So the last word is not among the lines that are left.
  have hends : ends.2 + 1 < words := by
    unfold restored at hlast
    split at hlast <;> omega
  simp only [make]
  omega

/-- Nothing is left of a span on the axis exactly if it covered no line that is left. -/
theorem Span.without?_eq_none_iff {s : Span} {words : Nat} (hs : s.first < words) :
    s.without? words band = none ↔ ∀ new, s.covers words (band.restored new) = false := by
  simp only [without?_eq, Option.map_eq_none_iff, remainder?_eq_none_iff (first_le_last hs),
    ← covers_iff, Bool.not_eq_true]

/-- **The ends of what is left of a span** are ends of it, as they are or after the band was taken
off, or stand at the edges of the band; no difference is below zero. -/
theorem Span.ends_of_without? {s t : Span} {words : Nat} (hs : s.first < words)
    (h : s.without? words band = some t) :
    (t.first = s.first ∨ t.first + band.count = s.first ∨ t.first = band.first) ∧
      (t.first + (t.count - 1) = s.last words ∨
        t.first + (t.count - 1) + band.count = s.last words ∨
        t.first + (t.count - 1) + 1 = band.first) := by
  rw [without?_eq] at h
  obtain ⟨ends, hends, rfl⟩ := Option.map_eq_some_iff.mp h
  obtain ⟨hle, -, hfirst, hlast⟩ := of_remainder?_eq_some (first_le_last hs) hends
  simp only [make]
  omega

end Lines

/-! ## 2. Spots and ranges -/

@[simp] theorem Spot.along_withAlong (s : Spot) (axis : Axis) (index : Nat) :
    (s.withAlong axis index).along axis = index := by
  cases axis <;> rfl

@[simp] theorem Spot.withAlong_withAlong (s : Spot) (axis : Axis) (i j : Nat) :
    (s.withAlong axis i).withAlong axis j = s.withAlong axis j := by
  cases axis <;> rfl

theorem Spot.along_withAlong_of_ne (s : Spot) {axis other : Axis} (h : other ≠ axis) (index : Nat) :
    (s.withAlong axis index).along other = s.along other := by
  cases axis <;> cases other <;> first | exact absurd rfl h | rfl

@[simp] theorem Spot.withAlong_along (s : Spot) (axis : Axis) :
    s.withAlong axis (s.along axis) = s := by
  cases axis <;> rfl

/-- The place that has become `s` by the removal of the band. -/
def Spot.restored (s : Spot) (axis : Axis) (band : Span) : Spot :=
  s.withAlong axis (band.restored (s.along axis))

section Places

variable {axis : Axis} {band : Span}

/-- A spot is moved as its line is renumbered. -/
theorem Spot.without?_eq (s : Spot) (axis : Axis) (band : Span) :
    s.without? axis band = (band.renumber? (s.along axis)).map (s.withAlong axis) := by
  unfold without? Span.renumber?
  dsimp only
  split
  · rfl
  · split <;> rfl

/-- **A spot is moved to the one that it is restored from.** -/
theorem Spot.without?_eq_some_iff {s new : Spot} :
    s.without? axis band = some new ↔ new.restored axis band = s := by
  rw [without?_eq, restored, Option.map_eq_some_iff]
  constructor
  · rintro ⟨line, hline, rfl⟩
    rw [Span.renumber?_eq_some_iff] at hline
    simp [hline]
  · intro h
    have hline : band.restored (new.along axis) = s.along axis := by
      rw [← h, along_withAlong]
    refine ⟨new.along axis, Span.renumber?_eq_some_iff.mpr hline, ?_⟩
    rw [← h]
    simp

theorem Spot.without?_restored (s : Spot) (axis : Axis) (band : Span) :
    (s.restored axis band).without? axis band = some s :=
  without?_eq_some_iff.mpr rfl

/-- Spots keep their order. -/
theorem Spot.compare_restored {s t : Spot} :
    compare (s.restored axis band) (t.restored axis band) = .lt ↔ compare s t = .lt := by
  rw [compare_eq_lt, compare_eq_lt]
  cases axis <;>
    simp [restored, withAlong, along, Span.restored_lt_iff, Span.restored_inj]

/-- **What is found in a table after a band was closed** stood where the spot is restored to. -/
theorem Table.get?_without {α : Type} (h : band.first + band.count < axis.words)
    (t : Table Spot α) (s : Spot) :
    (t.without axis band).get? s = t.get? (s.restored axis band) := by
  cases axis with
  | rows =>
    rw [without, get?_ofRows, get?_close h]
    exact t.get?_byRow (s.restored .rows band)
  | columns =>
    rw [without, get?_ofRows, get?_filter, get?_map]
    have hrow := t.get?_byRow (s.restored .columns band)
    change (t.byRow.get? s.row).bind (·.get? (band.restored s.col)) = _ at hrow
    rw [← hrow]
    cases t.byRow.get? s.row with
    | none => rfl
    | some columns =>
      have hcolumn : (columns.close Axis.columns.words band).get? s.col =
          columns.get? (band.restored s.col) := get?_close h columns s.col
      rw [Option.map_some, Option.bind_some, ← hcolumn, Option.filter_some]
      split
      · rfl
      · -- Nothing is found in a row without entries.
        rename_i hsize
        have hempty : (columns.close Axis.columns.words band).entries = [] := by
          simpa [size] using hsize
        simp [get?, hempty]

/-- **The entries of a table are moved or dropped when a band is closed,** and stay in order. -/
theorem Table.entries_without {α : Type} (h : band.first + band.count < axis.words)
    (t : Table Spot α) :
    (t.without axis band).entries = t.entries.filterMap fun e =>
      (e.1.without? axis band).map fun s => (s, e.2) := by
  refine entries_eq _ (List.pairwise_filterMap.mpr (t.ascending.imp ?_)) fun s v => ?_
  · intro a b hab a' ha b' hb
    obtain ⟨s, hs, rfl⟩ := Option.map_eq_some_iff.mp ha
    obtain ⟨s', hs', rfl⟩ := Option.map_eq_some_iff.mp hb
    rw [Spot.without?_eq_some_iff] at hs hs'
    rwa [← hs, ← hs', Spot.compare_restored] at hab
  · rw [get?_without h, get?_eq_some_iff, List.mem_filterMap]
    constructor
    · intro hmem
      exact ⟨_, hmem, by simp [Spot.without?_restored]⟩
    · rintro ⟨e, he, hs⟩
      obtain ⟨s', hs', heq⟩ := Option.map_eq_some_iff.mp hs
      obtain ⟨rfl, rfl⟩ := Prod.mk.inj heq
      rw [Spot.without?_eq_some_iff] at hs'
      rwa [hs']

/-- **A range that starts on the axes.** -/
def Range.Starts (r : Range) : Prop := ∀ axis, (r.along axis).first < axis.words

theorem Axis.forall_iff {P : Axis → Prop} : (∀ axis, P axis) ↔ P .rows ∧ P .columns := by
  constructor
  · intro h
    exact ⟨h .rows, h .columns⟩
  · intro h axis
    cases axis with
    | rows => exact h.1
    | columns => exact h.2

theorem Range.covers_iff_along {r : Range} {s : Spot} :
    r.covers s = true ↔ ∀ axis, (r.along axis).covers axis.words (s.along axis) = true := by
  rw [covers_iff, Axis.forall_iff]
  rfl

theorem Range.ext_along {r q : Range} (h : ∀ axis, r.along axis = q.along axis) : r = q := by
  obtain ⟨rows, cols⟩ := r
  obtain ⟨rows', cols'⟩ := q
  obtain rfl : rows = rows' := h .rows
  obtain rfl : cols = cols' := h .columns
  rfl

theorem Range.along_withAlong_self (r : Range) (axis : Axis) (t : Span) :
    (r.withAlong axis t).along axis = t := by
  cases axis <;> rfl

theorem Range.along_withAlong_of_ne (r : Range) {axis other : Axis} (h : other ≠ axis) (t : Span) :
    (r.withAlong axis t).along other = r.along other := by
  cases axis <;> cases other <;> first | exact absurd rfl h | rfl

/-- A range covers what its first cell becomes in a line that it covers. -/
theorem Range.Starts.covers_withAlong {r : Range} (hr : r.Starts) {line : Nat}
    (h : (r.along axis).covers axis.words line = true) :
    r.covers (r.first.withAlong axis line) = true := by
  rw [covers_iff_along]
  intro other
  by_cases hother : other = axis
  · subst hother
    rwa [Spot.along_withAlong]
  · have hfirst := Span.covers_iff.mpr ⟨Nat.le_refl _, Span.first_le_last (hr other)⟩
    rw [Spot.along_withAlong_of_ne _ hother]
    cases other <;> exact hfirst

/-- A range that starts on the axes covers its first cell. -/
theorem Range.Starts.covers_first {r : Range} (hr : r.Starts) : r.covers r.first = true :=
  (mem_cells (hr .rows) (hr .columns)).mp r.first_mem_cells

/-- Covering is a matter of both axes, each on its own. -/
theorem Range.covers_withAlong {r : Range} {s : Spot} {t : Span} {line : Nat}
    (h : t.covers axis.words (s.along axis) = (r.along axis).covers axis.words line) :
    (r.withAlong axis t).covers s = r.covers (s.withAlong axis line) := by
  cases axis with
  | rows => exact congrArg (· && _) h
  | columns => exact congrArg (_ && ·) h

/-- **A range is left with the cells that it covered.** -/
theorem Range.covers_without? {r q : Range} (hr : r.Starts) (h : r.without? axis band = some q) :
    q.Starts ∧ ∀ s, q.covers s = r.covers (s.restored axis band) := by
  obtain ⟨t, ht, rfl⟩ := Option.map_eq_some_iff.mp h
  obtain ⟨hstarts, hcovers⟩ := Span.covers_of_without? (hr axis) ht
  constructor
  · intro other
    by_cases hother : other = axis
    · subst hother
      rwa [along_withAlong_self]
    · rw [along_withAlong_of_ne _ hother]
      exact hr other
  · intro s
    exact covers_withAlong (hcovers (s.along axis))

/-- Nothing is left of a range exactly if it covered no cell that is left. -/
theorem Range.without?_eq_none_iff {r : Range} (hr : r.Starts) :
    r.without? axis band = none ↔ ∀ s : Spot, r.covers (s.restored axis band) = false := by
  unfold without?
  rw [Option.map_eq_none_iff, Span.without?_eq_none_iff (hr axis)]
  constructor
  · intro h s
    rw [Bool.eq_false_iff, ne_eq, covers_iff_along]
    intro hcovers
    have := hcovers axis
    rw [Spot.restored, Spot.along_withAlong, h] at this
    cases this
  · intro h new
    rw [Bool.eq_false_iff]
    intro hnew
    -- The range covers its first cell in that line.
    have hcovers : r.covers ((r.first.withAlong axis new).restored axis band) = true := by
      rw [Spot.restored, Spot.along_withAlong, Spot.withAlong_withAlong]
      exact hr.covers_withAlong hnew
    rw [h] at hcovers
    cases hcovers

end Places

/-- The place that has become `k` by the removal of lines from a sheet. -/
def Key.restored (k : Key) (lost : SheetId) (axis : Axis) (band : Span) : Key :=
  if k.sheet = lost then ⟨k.sheet, k.spot.restored axis band⟩ else k

section Keys

variable {k : Key} {lost : SheetId} {axis : Axis} {band : Span}

@[simp] theorem sheet_restored : (k.restored lost axis band).sheet = k.sheet := by
  unfold Key.restored
  split <;> rfl

theorem restored_of_eq (h : k.sheet = lost) :
    k.restored lost axis band = ⟨k.sheet, k.spot.restored axis band⟩ := if_pos h

theorem restored_of_ne (h : k.sheet ≠ lost) : k.restored lost axis band = k := if_neg h

end Keys

end Spreadsheet.Grid

namespace Spreadsheet.Formula

open Grid

/-! ## 3. References -/

/-- **A reference with its corners in order** and all indices on the axes. -/
def Reference.Ordered (r : Reference) : Prop :=
  ∀ axis, (r.first.along axis).index ≤ (r.last.along axis).index ∧
    (r.last.along axis).index < axis.words

theorem Reference.Proper.ordered {r : Reference} (h : r.Proper) : r.Ordered := by
  have hrows : maxRows ≤ Axis.rows.words := by decide
  have hcols : maxColumns ≤ Axis.columns.words := by decide
  cases r with
  | cell pos =>
    intro axis
    cases axis with
    | rows => exact ⟨Nat.le_refl _, Nat.lt_of_lt_of_le h.1 hrows⟩
    | columns => exact ⟨Nat.le_refl _, Nat.lt_of_lt_of_le h.2 hcols⟩
  | area first last =>
    obtain ⟨-, hlast, hrow, hcol⟩ := h
    intro axis
    cases axis with
    | rows => exact ⟨hrow, Nat.lt_of_lt_of_le hlast.1 hrows⟩
    | columns => exact ⟨hcol, Nat.lt_of_lt_of_le hlast.2 hcols⟩

/-- The lines of an ordered reference on an axis. -/
theorem Reference.along_range {r : Reference} (h : r.Ordered) (axis : Axis) :
    r.range.along axis = .make (r.first.along axis).index
      ((r.last.along axis).index - (r.first.along axis).index + 1) := by
  have hmake {a b : Nat} (hle : a ≤ b) : Span.between a b = .make a (b - a + 1) := by
    simp [Span.between, Span.make, hle]
  cases r with
  | cell pos => cases axis <;> simp [range, Range.single, Range.along, Span.single, Span.make,
      Position.spot, first, last, Position.along]
  | area a b =>
    have hle := (h axis).1
    cases axis with
    | rows => exact hmake hle
    | columns => exact hmake hle

/-- An ordered reference starts on the axes. -/
theorem Reference.starts_range {r : Reference} (h : r.Ordered) : r.range.Starts := by
  intro axis
  rw [along_range h]
  exact Nat.lt_of_le_of_lt (h axis).1 (h axis).2

section References

variable {axis : Axis} {band : Span}

theorem along_reindex (p : Position) (axis other : Axis) (index : Nat) :
    ((reindex p axis index).along other).index =
      if other = axis then index else (p.along other).index := by
  cases axis <;> cases other <;> rfl

/-- A single line is left with itself. -/
theorem remainder?_self (band : Span) (line : Nat) :
    band.remainder? line line = (band.renumber? line).map fun new => (new, new) := by
  have hpos := band.count_pos
  cases hline : band.renumber? line with
  | none =>
    rw [Span.renumber?_eq_none_iff] at hline
    exact if_pos hline
  | some new =>
    rw [Span.renumber?_eq_some_iff] at hline
    unfold Span.remainder?
    unfold Span.restored at hline
    dsimp only
    split at hline
    · rw [if_neg (by omega), if_pos (by omega), if_pos (by omega), hline]
      rfl
    · rw [if_neg (by omega), if_neg (by omega), if_pos (by omega), if_neg (by omega),
        if_pos (by omega), ← hline, Nat.add_sub_cancel]
      rfl

/-- A cell is referred to where its line is renumbered to. -/
theorem Reference.without?_cell (pos : Position) (axis : Axis) (band : Span) :
    (Reference.cell pos).without? axis band =
      (band.renumber? (pos.along axis).index).map fun line => .cell (reindex pos axis line) := by
  have hself : reindex pos axis (pos.along axis).index = pos := by cases axis <;> rfl
  unfold without? Span.renumber?
  dsimp only
  split
  · rw [Option.map_some, hself]
  · split <;> rfl

/-- Between two corners there is left what is left of their lines. -/
theorem Reference.without?_area (a b : Position) (axis : Axis) (band : Span) :
    (Reference.area a b).without? axis band =
      (band.remainder? (a.along axis).index (b.along axis).index).map fun ends =>
        .area (reindex a axis ends.1) (reindex b axis ends.2) := by
  unfold without? Span.remainder?
  dsimp only
  split <;> rfl

/-- **The corners of a reference after a removal** are the ends of what is left of its lines. -/
theorem Reference.without?_cases (r : Reference) (axis : Axis) (band : Span) :
    match band.remainder? (r.first.along axis).index (r.last.along axis).index with
    | none => r.without? axis band = none
    | some ends => ∃ q, r.without? axis band = some q ∧ ∀ other,
        (q.first.along other).index =
          (if other = axis then ends.1 else (r.first.along other).index) ∧
        (q.last.along other).index =
          (if other = axis then ends.2 else (r.last.along other).index) := by
  cases r with
  | cell pos =>
    simp only [first, last, remainder?_self, without?_cell]
    cases hline : band.renumber? (pos.along axis).index with
    | none => rfl
    | some line => exact ⟨_, rfl, fun other => ⟨along_reindex .., along_reindex ..⟩⟩
  | area a b =>
    simp only [first, last, without?_area]
    cases hends : band.remainder? (a.along axis).index (b.along axis).index with
    | none => rfl
    | some ends => exact ⟨_, rfl, fun other => ⟨along_reindex .., along_reindex ..⟩⟩

/-- **A reference is left with what its range is left with,** again in order. -/
theorem Reference.range_without? {r : Reference} (h : r.Ordered) (axis : Axis) (band : Span) :
    (r.without? axis band).map (·.range) = r.range.without? axis band ∧
      ∀ q, r.without? axis band = some q → q.Ordered := by
  have hlast : (r.range.along axis).last axis.words = (r.last.along axis).index := by
    have := h axis
    rw [along_range h]
    simp only [Span.make, Span.last]
    omega
  have hcases := r.without?_cases axis band
  rw [Range.without?, Span.without?_eq, hlast, along_range h]
  simp only [Span.make]
  cases hends : band.remainder? (r.first.along axis).index (r.last.along axis).index with
  | none =>
    simp only [hends] at hcases
    simp [hcases]
  | some ends =>
    simp only [hends] at hcases
    obtain ⟨q, hq, hindex⟩ := hcases
    obtain ⟨hle, -, hmost⟩ := Span.remainder?_le (h axis).1 hends
    have hordered : q.Ordered := by
      intro other
      rw [(hindex other).1, (hindex other).2]
      split
      · rename_i hother
        exact ⟨hle, Nat.lt_of_le_of_lt hmost (hother ▸ (h axis).2)⟩
      · exact h other
    refine ⟨?_, fun q' hq' => Option.some.inj (hq.symm.trans hq') ▸ hordered⟩
    rw [hq, Option.map_some, Option.map_some, Option.map_some]
    refine congrArg some (Range.ext_along fun other => ?_)
    rw [along_range hordered, (hindex other).1, (hindex other).2]
    by_cases hother : other = axis
    · subst hother
      rw [if_pos rfl, if_pos rfl, Range.along_withAlong_self]
      rfl
    · rw [if_neg hother, if_neg hother, ← along_range h, Range.along_withAlong_of_ne _ hother]

/-- **The corners of what is left of a reference** are corners of it, as they are or after the band
was taken off, or stand at the edges of the band; no difference is below zero. -/
theorem Reference.ends_of_without? {r q : Reference} (h : r.Ordered)
    (hq : r.without? axis band = some q) :
    ((q.first.along axis).index = (r.first.along axis).index ∨
        (q.first.along axis).index + band.count = (r.first.along axis).index ∨
        (q.first.along axis).index = band.first) ∧
      ((q.last.along axis).index = (r.last.along axis).index ∨
        (q.last.along axis).index + band.count = (r.last.along axis).index ∨
        (q.last.along axis).index + 1 = band.first) := by
  have hcases := r.without?_cases axis band
  cases hends : band.remainder? (r.first.along axis).index (r.last.along axis).index with
  | none =>
    simp only [hends] at hcases
    rw [hcases] at hq
    cases hq
  | some ends =>
    simp only [hends] at hcases
    obtain ⟨q', hq', hindex⟩ := hcases
    obtain rfl : q' = q := Option.some.inj (hq'.symm.trans hq)
    rw [(hindex axis).1, (hindex axis).2, if_pos rfl, if_pos rfl]
    exact (Span.of_remainder?_eq_some (h axis).1 hends).2.2

theorem onGrid_reindex {p : Position} {axis : Axis} {index : Nat} (hp : p.OnGrid)
    (hindex : index ≤ (p.along axis).index) : (reindex p axis index).OnGrid := by
  obtain ⟨hrow, hcol⟩ := hp
  cases axis with
  | rows => exact ⟨Nat.lt_of_le_of_lt hindex hrow, hcol⟩
  | columns => exact ⟨hrow, Nat.lt_of_le_of_lt hindex hcol⟩

/-- **What is left of a proper reference after a removal is proper.** -/
theorem Reference.proper_of_without? {r q : Reference} {axis : Axis} {band : Span}
    (hr : r.Proper) (h : r.without? axis band = some q) : q.Proper := by
  cases r with
  | cell pos =>
    rw [without?_cell] at h
    obtain ⟨index, hindex, rfl⟩ := Option.map_eq_some_iff.mp h
    rw [Span.renumber?_eq_some_iff] at hindex
    exact onGrid_reindex hr (hindex ▸ Span.le_restored index)
  | area first last =>
    obtain ⟨hfirst, hlast, hrow, hcol⟩ := hr
    rw [without?_area] at h
    obtain ⟨ends, hends, rfl⟩ := Option.map_eq_some_iff.mp h
    cases axis with
    | rows =>
      obtain ⟨hle, hle₁, hle₂⟩ := Span.remainder?_le hrow hends
      exact ⟨onGrid_reindex hfirst hle₁, onGrid_reindex hlast hle₂, hle, hcol⟩
    | columns =>
      obtain ⟨hle, hle₁, hle₂⟩ := Span.remainder?_le hcol hends
      exact ⟨onGrid_reindex hfirst hle₁, onGrid_reindex hlast hle₂, hrow, hle⟩

end References

end Spreadsheet.Formula

namespace Spreadsheet

open Grid Formula

/-! ## 4. Sheets -/

theorem limit_lt_words (axis : Axis) : axis.limit < axis.words := by
  cases axis <;> decide

namespace Sheet

variable {s : Sheet} {axis : Axis} {band : Span}

/-- The spots of a sheet are those within its extents. -/
theorem check_eq_ok_iff_along {spot : Spot} {u : Unit} :
    s.check spot = .ok u ↔ ∀ axis, spot.along axis < s.extent axis := by
  rw [Workbook.check_eq_ok_iff, Axis.forall_iff]
  rfl

theorem extent_le (s : Sheet) (axis : Axis) : s.extent axis ≤ axis.limit := by
  cases axis with
  | rows => exact s.rows_le
  | columns => exact s.cols_le

theorem extent_pos (s : Sheet) (axis : Axis) : 0 < s.extent axis := by
  cases axis with
  | rows => exact s.rows_pos
  | columns => exact s.cols_pos

/-- A range of a sheet ends on it. -/
theorem last_lt_of_holds {range : Range} (h : s.holds range = true) (axis : Axis) :
    (range.along axis).last axis.words < s.extent axis := by
  simp only [holds, Range.fits, Bool.and_eq_true, decide_eq_true_eq] at h
  revert axis
  exact Axis.forall_iff.mpr h

/-- A range of a sheet starts on the axes. -/
theorem starts_of_holds {range : Range} (h : s.holds range = true) : range.Starts := fun axis =>
  Span.first_lt_words (last_lt_of_holds h axis)
    (Nat.lt_of_le_of_lt (s.extent_le axis) (limit_lt_words axis))

/-- A sheet keeps at least one line. -/
theorem extent_without (s : Sheet) (axis : Axis) (band : Span) (other : Axis) :
    (s.without axis band).extent other =
      if other = axis then max 1 (s.extent axis - band.count) else s.extent other := by
  have hwithin {n : Nat} (other : Axis) (hn : n ≤ s.extent other) :
      extentWithin other n = max 1 n := by
    rw [extentWithin, Nat.min_eq_left (Nat.le_trans hn (s.extent_le other))]
  have hself (other : Axis) : extentWithin other (s.extent other) = s.extent other := by
    rw [hwithin other (Nat.le_refl _)]
    have := s.extent_pos other
    omega
  cases axis <;> cases other
  · exact hwithin .rows (Nat.sub_le ..)
  · exact hself .columns
  · exact hself .rows
  · exact hwithin .columns (Nat.sub_le ..)

/-- **What has become of a spot of the sheet is a spot of the sheet.** -/
theorem check_without {spot : Spot} (hband : band.first + band.count ≤ s.extent axis)
    (h : s.check (spot.restored axis band) = .ok ()) :
    (s.without axis band).check spot = .ok () := by
  rw [check_eq_ok_iff_along] at h ⊢
  intro other
  have hother := h other
  rw [extent_without]
  by_cases haxis : other = axis
  · subst haxis
    rw [Spot.restored, Spot.along_withAlong] at hother
    unfold Span.restored at hother
    rw [if_pos rfl]
    split at hother <;> omega
  · rw [Spot.restored, Spot.along_withAlong_of_ne _ haxis] at hother
    rwa [if_neg haxis]

/-- The cells of a sheet that loses lines are moved, and those that fall off its end are lost. -/
theorem cells_without (s : Sheet) (axis : Axis) (band : Span) :
    (s.without axis band).cells = (s.cells.without axis band).filter fun spot _ =>
      spot.row < (s.without axis band).rows && spot.col < (s.without axis band).cols := by
  cases axis <;> rfl

/-- The end of a band of lines of a sheet is a word of the axis. -/
theorem band_lt_words (hband : band.first + band.count ≤ s.extent axis) :
    band.first + band.count < axis.words :=
  Nat.lt_of_le_of_lt (Nat.le_trans hband (s.extent_le axis)) (limit_lt_words axis)

/-- What stands at a spot stood where the spot is restored to. -/
theorem cell?_without {spot : Spot} (hband : band.first + band.count ≤ s.extent axis)
    (h : s.check (spot.restored axis band) = .ok ()) :
    (s.without axis band).cell? spot = s.cell? (spot.restored axis band) := by
  have hnew := Workbook.check_eq_ok_iff.mp (check_without hband h)
  rw [cell?, cells_without, Table.get?_filter, Table.get?_without (band_lt_words hband), cell?]
  cases s.cells.get? (spot.restored axis band) with
  | none => rfl
  | some c => simp [hnew]

/-- **Nothing stands on what is left of a sheet that did not stand on it before.** -/
theorem cell?_restored_of_without {spot : Spot} {c : Cell}
    (hband : band.first + band.count ≤ s.extent axis)
    (h : (s.without axis band).cell? spot = some c) :
    s.cell? (spot.restored axis band) = some c := by
  rw [cell?, cells_without, Table.get?_filter, Option.filter_eq_some_iff,
    Table.get?_without (band_lt_words hband)] at h
  exact h.1

/-- **Every cell that survives is moved to its place,** in order, and no other cell is there. -/
theorem entries_without (hband : band.first + band.count ≤ s.extent axis)
    (hcells : ∀ spot c, s.cell? spot = some c → s.check spot = .ok ()) :
    (s.without axis band).cells.entries = s.cells.entries.filterMap fun e =>
      (e.1.without? axis band).map fun spot => (spot, e.2) := by
  rw [cells_without, ← Table.entries_without (band_lt_words hband)]
  refine List.filter_eq_self.mpr fun e he => ?_
  have hmoved := (Table.get?_eq_some_iff _).mpr he
  rw [Table.get?_without (band_lt_words hband)] at hmoved
  have hnew := Workbook.check_eq_ok_iff.mp (check_without hband (hcells _ e.2 hmoved))
  simpa using hnew

end Sheet

/-! ## 5. One renaming -/

/-- **A renaming of lines by which everything is renumbered** when the band is removed. -/
structure Renames (axis : Axis) (band : Span) (rename : Nat → Option Nat) : Prop where
  /-- The lines of the band are those that have no new number. -/
  none_iff : ∀ line, rename line = none ↔ band.first ≤ line ∧ line < band.first + band.count
  /-- The other lines keep their order. -/
  lt_iff : ∀ {a b a' b'}, rename a = some a' → rename b = some b' → (a' < b' ↔ a < b)
  /-- The new numbers have no gaps. -/
  onto : ∀ new, ∃ line, rename line = some new
  /-- What is taken off a number is not more than the number. -/
  exact : ∀ {line new}, rename line = some new → new = line ∨ new + band.count = line
  /-- Single spots. -/
  spot : ∀ s : Spot, s.without? axis band = (rename (s.along axis)).map (s.withAlong axis)
  /-- The cells of a table: each is moved or dropped, and none takes the place of another. -/
  table : band.first + band.count < axis.words → ∀ t : Table Spot Cell,
    (t.without axis band).entries = t.entries.filterMap fun e =>
      (rename (e.1.along axis)).map fun line => (e.1.withAlong axis line, e.2)
  /-- The cells of a sheet that is cut down afterwards. -/
  sheet : ∀ s : Sheet, band.first + band.count ≤ s.extent axis →
    (∀ spot c, s.cell? spot = some c → s.check spot = .ok ()) →
    (s.without axis band).cells.entries =
      s.cells.entries.filterMap fun e => (rename (e.1.along axis)).map fun line =>
        (e.1.withAlong axis line, e.2)
  /-- Ranges of which nothing is left. -/
  range_none : ∀ {r : Range}, r.Starts → (r.without? axis band = none ↔
    ∀ s : Spot, r.covers s = true → rename (s.along axis) = none)
  /-- Ranges of which something is left. -/
  range_some : ∀ {r q : Range}, r.Starts → r.without? axis band = some q → q.Starts ∧
    ∀ new : Spot, q.covers new = true ↔
      ∃ old line, r.covers old = true ∧ rename (old.along axis) = some line ∧
        new = old.withAlong axis line
  /-- The number of lines that are left of a range is a word. -/
  range_count : ∀ {r q : Range}, r.Starts → band.first + band.count < axis.words →
    r.without? axis band = some q → (q.along axis).count < axis.words
  /-- What is taken off the ends of a range is not more than they are. -/
  range_ends : ∀ {r q : Range}, r.Starts → r.without? axis band = some q →
    let old := r.along axis
    let new := q.along axis
    (new.first = old.first ∨ new.first + band.count = old.first ∨ new.first = band.first) ∧
      (new.first + (new.count - 1) = old.last axis.words ∨
        new.first + (new.count - 1) + band.count = old.last axis.words ∨
        new.first + (new.count - 1) + 1 = band.first)
  /-- References: what they are left with is what their ranges are left with. -/
  reference : ∀ {r : Reference}, r.Ordered →
    (r.without? axis band).map (·.range) = r.range.without? axis band ∧
      ∀ q, r.without? axis band = some q → q.Ordered
  /-- What is taken off their corners is not more than they are. -/
  reference_ends : ∀ {r q : Reference}, r.Ordered → r.without? axis band = some q →
    ((q.first.along axis).index = (r.first.along axis).index ∨
        (q.first.along axis).index + band.count = (r.first.along axis).index ∨
        (q.first.along axis).index = band.first) ∧
      ((q.last.along axis).index = (r.last.along axis).index ∨
        (q.last.along axis).index + band.count = (r.last.along axis).index ∨
        (q.last.along axis).index + 1 = band.first)
  /-- A reference to a cell follows the cell and keeps its marks. -/
  reference_cell : ∀ pos : Position, (Reference.cell pos).without? axis band =
    (rename (pos.along axis).index).map fun line => .cell (reindex pos axis line)
  /-- Both corners of a reference keep their marks and stay on the other axis. -/
  reference_area : ∀ {a b : Position} {q : Reference},
    (Reference.area a b).without? axis band = some q →
      ∃ first last, q = .area (reindex a axis first) (reindex b axis last)
  /-- Formulas: the references that point at the sheet, with `#REF!` for those without a rest. -/
  formula : ∀ (e : Expr) (pointsThere : Option String → Bool),
    e.without pointsThere axis band.first band.count = e.mapRefs fun name r =>
      if pointsThere name then
        (r.without? axis band).elim (.error .ref) fun q => .ref name q
      else .ref name r

/-- Renumbering lines is such a renaming. -/
theorem renames_renumber? (axis : Axis) (band : Span) : Renames axis band band.renumber? where
  none_iff _ := Span.renumber?_eq_none_iff
  lt_iff := by
    intro a b a' b' ha hb
    rw [Span.renumber?_eq_some_iff] at ha hb
    rw [← ha, ← hb, Span.restored_lt_iff]
  onto new := ⟨band.restored new, Span.renumber?_eq_some_iff.mpr rfl⟩
  exact := by
    intro line new h
    rw [Span.renumber?_eq_some_iff] at h
    unfold Span.restored at h
    split at h <;> omega
  spot s := s.without?_eq axis band
  table hwords t := by
    rw [Table.entries_without hwords]
    simp only [Spot.without?_eq, Option.map_map]
    rfl
  sheet s hband hcells := by
    rw [Sheet.entries_without hband hcells]
    simp only [Spot.without?_eq, Option.map_map]
    rfl
  range_none := by
    intro r hr
    rw [Range.without?_eq_none_iff hr]
    constructor
    · intro h s hs
      refine Option.eq_none_iff_forall_ne_some.mpr fun line hline => ?_
      rw [Span.renumber?_eq_some_iff] at hline
      have := h (s.withAlong axis line)
      simp [Spot.restored, hline, hs] at this
    · intro h s
      refine Bool.eq_false_iff.mpr fun hs => ?_
      have := h _ hs
      rw [Spot.restored, Spot.along_withAlong, Span.renumber?_eq_some_iff.mpr rfl] at this
      cases this
  range_some := by
    intro r q hr hq
    obtain ⟨hstarts, hcovers⟩ := Range.covers_without? hr hq
    refine ⟨hstarts, fun new => ?_⟩
    rw [hcovers]
    constructor
    · intro h
      refine ⟨_, new.along axis, h, Span.renumber?_eq_some_iff.mpr ?_, ?_⟩ <;>
        simp [Spot.restored]
    · rintro ⟨old, line, hold, hline, rfl⟩
      rw [Span.renumber?_eq_some_iff] at hline
      simpa [Spot.restored, hline] using hold
  range_count := by
    intro r q hr hband hq
    obtain ⟨t, ht, rfl⟩ := Option.map_eq_some_iff.mp hq
    have hcount := Span.count_lt_of_without? (hr axis) hband ht
    cases axis <;> exact hcount
  range_ends := by
    intro r q hr hq
    obtain ⟨t, ht, rfl⟩ := Option.map_eq_some_iff.mp hq
    have hends := Span.ends_of_without? (hr axis) ht
    cases axis <;> exact hends
  reference h := Reference.range_without? h axis band
  reference_ends h hq := Reference.ends_of_without? h hq
  reference_cell pos := Reference.without?_cell pos axis band
  reference_area := by
    intro a b q hq
    rw [Reference.without?_area] at hq
    obtain ⟨ends, -, rfl⟩ := Option.map_eq_some_iff.mp hq
    exact ⟨ends.1, ends.2, rfl⟩
  formula e pointsThere := by
    rw [Expr.without, dif_pos band.count_pos]
    refine congrArg (Expr.mapRefs · e) (funext fun name => funext fun r => ?_)
    split
    · cases r.without? axis band <;> rfl
    · rfl

/-- **Whatever is removed from either axis, one renaming of lines describes what happens to spots,
cells, ranges and references.**  Where no line is removed nothing happens. -/
theorem exists_renaming (axis : Axis) :
    (∀ band : Span, ∃! rename, Renames axis band rename) ∧
      ∀ start : Nat,
        (∀ (e : Expr) (pointsThere : Option String → Bool),
          e.without pointsThere axis start 0 = e) ∧
        ∀ (wb : Workbook) (id : SheetId), (wb.deleteLines id axis start 0).workbook = wb := by
  constructor
  · intro band
    refine ⟨band.renumber?, renames_renumber? axis band, fun rename h => funext fun line => ?_⟩
    have hspot := h.spot ((⟨0, 0⟩ : Spot).withAlong axis line)
    rw [Spot.along_withAlong, Spot.without?_eq, Spot.along_withAlong] at hspot
    have halong := congrArg (Option.map (Spot.along · axis)) hspot
    simpa [Option.map_map, Function.comp_def] using halong.symm
  · intro start
    refine ⟨fun e pointsThere => rfl, fun wb id => ?_⟩
    unfold Workbook.deleteLines
    cases wb.sheet id with
    | error e => rfl
    | ok s =>
      rw [Reply.guard_ok]
      cases s.check ((⟨0, 0⟩ : Spot).withAlong axis start) with
      | error e => rfl
      | ok u =>
        rw [Reply.guard_ok]
        simp [Reply.keep]

end Spreadsheet
