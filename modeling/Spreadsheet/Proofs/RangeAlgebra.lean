/-
# Ranges as sets of cells

* A span covers the lines from its first one on, as many as it counts, as far as there are lines
  (`Span.within`).  Its first line and its count are words (`Span.Worded`), so the lines from the
  first to the last are counted by a word, too, and nothing is cut off when a span is made from the
  ends of others.
* Hence inclusion, meeting and what spans have in common are those of the sets of their lines, and
  so for ranges, whose cells are made of a line of each of two spans (`Range.AskedAsSets`).
* The cells are passed in a walk that goes one step to the right or to the start of the next row.
  The walk lists every cell once, row by row (`Range.walks_cells`).
* Cutting to a sheet is having in common with it, wherever there is something in common.  Else, an
  axis on which a range starts beyond the sheet is left with the last line, and the other one is
  clipped (`Range.CutAsSets`).

No sum that is formed on the way is beyond a word and no difference below zero, up to the last word
itself (`range_algebra`).
-/
import Mathlib.Data.Set.Basic
import Spreadsheet.Grid.Range
import Spreadsheet.Proofs.CheckedWords

namespace Spreadsheet.Grid

/-! ## 1. Spans as sets of lines -/

namespace Span

variable {s t : Span} {words limit line : Nat}

/-- **The lines of a span:** from the first on as many as it counts, as far as there are lines. -/
def within (s : Span) (words : Nat) : Set Nat :=
  {line | s.first ≤ line ∧ line < s.first + s.count ∧ line < words}

/-- **A span made of words.** -/
structure Worded (s : Span) (words : Nat) : Prop where
  first_lt : s.first < words
  count_lt : s.count < words

theorem worded_make {first count : Nat} (hwords : 1 < words) (hfirst : first < words)
    (hcount : count < words) : (make first count).Worded words :=
  ⟨hfirst, Nat.max_lt.mpr ⟨hcount, hwords⟩⟩

theorem covers_iff_mem_within (hs : s.first < words) :
    s.covers words line = true ↔ line ∈ s.within words := by
  have hpos := s.count_pos
  rw [covers_iff, last, within, Set.mem_ofPred_eq]
  omega

theorem first_mem_within (hs : s.first < words) : s.first ∈ s.within words :=
  (covers_iff_mem_within hs).mp (covers_iff.mpr ⟨Nat.le_refl _, first_le_last hs⟩)

theorem last_mem_within (hs : s.first < words) : s.last words ∈ s.within words :=
  (covers_iff_mem_within hs).mp (covers_iff.mpr ⟨first_le_last hs, Nat.le_refl _⟩)

/-- **A span includes another exactly if the lines of that are lines of it.** -/
theorem includes_iff_subset (hs : s.first < words) (ht : t.first < words) :
    s.includes words t = true ↔ t.within words ⊆ s.within words := by
  constructor
  · intro h line hline
    rw [← covers_iff_mem_within hs]
    exact covers_of_includes h ((covers_iff_mem_within ht).mpr hline)
  · intro h
    have hfirst := covers_iff.mp ((covers_iff_mem_within hs).mpr (h (first_mem_within ht)))
    have hlast := covers_iff.mp ((covers_iff_mem_within hs).mpr (h (last_mem_within ht)))
    simp only [includes, Bool.and_eq_true, decide_eq_true_eq]
    exact ⟨hfirst.1, hlast.2⟩

/-- **Spans meet exactly if they share a line.** -/
theorem meets_iff_nonempty (hs : s.first < words) (ht : t.first < words) :
    s.meets words t = true ↔ (s.within words ∩ t.within words).Nonempty := by
  simp only [meets, Bool.and_eq_true, decide_eq_true_eq]
  constructor
  · rintro ⟨hst, hts⟩
    have hsle := first_le_last hs
    have htle := first_le_last ht
    refine ⟨max s.first t.first, ?_, ?_⟩
    · rw [← covers_iff_mem_within hs, covers_iff]
      omega
    · rw [← covers_iff_mem_within ht, covers_iff]
      omega
  · rintro ⟨line, hline, hline'⟩
    rw [← covers_iff_mem_within hs, covers_iff] at hline
    rw [← covers_iff_mem_within ht, covers_iff] at hline'
    omega

/-- The lines from the first to the last are no more than the span counts. -/
theorem last_sub_first_lt (s : Span) (words : Nat) : s.last words - s.first < s.count := by
  have hpos := s.count_pos
  unfold last
  omega

theorem first_common (s : Span) (words : Nat) (t : Span) :
    (s.common words t).first = max s.first t.first := rfl

/-- What spans have in common has as many lines as there are between its ends: their number is not
cut. -/
theorem count_common (hs : s.Worded words) :
    (s.common words t).count =
      min (s.last words) (t.last words) - max s.first t.first + 1 := by
  have hcount := hs.count_lt
  have hlines := s.last_sub_first_lt words
  simp only [common, make]
  omega

theorem last_common (hs : s.Worded words) (ht : t.first < words) (h : s.meets words t = true) :
    (s.common words t).last words = min (s.last words) (t.last words) := by
  have hle := first_le_last hs.first_lt
  have hle' := first_le_last ht
  have hword : s.last words ≤ words - 1 := Nat.min_le_right _ _
  simp only [meets, Bool.and_eq_true, decide_eq_true_eq] at h
  rw [last, first_common, count_common hs]
  omega

/-- **What spans that meet have in common are the lines that they share.** -/
theorem within_common (hs : s.Worded words) (ht : t.first < words) (h : s.meets words t = true) :
    (s.common words t).within words = s.within words ∩ t.within words := by
  have hfirst : (s.common words t).first < words := Nat.max_lt.mpr ⟨hs.first_lt, ht⟩
  ext line
  rw [Set.mem_inter_iff, ← covers_iff_mem_within hs.first_lt, ← covers_iff_mem_within ht,
    ← covers_iff_mem_within hfirst, covers_iff, covers_iff, covers_iff, last_common hs ht h,
    first_common]
  omega

/-! ## 2. Spans cut to an axis -/

theorem eq_of_first_of_count (hfirst : s.first = t.first) (hcount : s.count = t.count) : s = t := by
  obtain ⟨first, count, hpos⟩ := s
  obtain ⟨first', count', hpos'⟩ := t
  obtain rfl := hfirst
  obtain rfl := hcount
  rfl

theorem first_cut (hlimit : 1 ≤ limit) : (s.cut words limit).first = min s.first (limit - 1) := by
  simp only [cut, make, Nat.max_eq_left hlimit]

theorem count_cut (hlimit : 1 ≤ limit) :
    (s.cut words limit).count = min (s.last words) (limit - 1) - min s.first (limit - 1) + 1 := by
  simp only [cut, make, Nat.max_eq_left hlimit]
  omega

/-- **A span that is cut** ends where it did, but not beyond the last line. -/
theorem last_cut (hs : s.first < words) (hlimit : 1 ≤ limit) :
    (s.cut words limit).last words = min (s.last words) (limit - 1) := by
  have hle := first_le_last hs
  have hword : s.last words ≤ words - 1 := Nat.min_le_right _ _
  rw [last, first_cut hlimit, count_cut hlimit]
  omega

/-- **Cutting twice is cutting once.** -/
theorem cut_cut (hs : s.first < words) (hlimit : 1 ≤ limit) :
    (s.cut words limit).cut words limit = s.cut words limit := by
  refine eq_of_first_of_count ?_ ?_
  · rw [first_cut hlimit, first_cut hlimit, min_assoc, min_self]
  · rw [count_cut hlimit, last_cut hs hlimit, first_cut hlimit, count_cut hlimit, min_assoc,
      min_assoc, min_self]

/-- A span that starts beyond the axis is left with the last line. -/
theorem cut_of_beyond (hs : s.first < words) (hlimit : 1 ≤ limit) (h : limit ≤ s.first) :
    s.cut words limit = single (limit - 1) := by
  have hle := first_le_last hs
  refine eq_of_first_of_count ?_ ?_
  · rw [first_cut hlimit]
    exact Nat.min_eq_right (by omega)
  · rw [count_cut hlimit, Nat.min_eq_right (show limit - 1 ≤ s.first by omega),
      Nat.min_eq_right (by omega), Nat.sub_self]
    rfl

/-- The last line of the axis. -/
theorem last_make_zero (hlimit : 1 ≤ limit) (hwords : limit < words) :
    (make 0 limit).last words = limit - 1 := by
  simp only [last, make]
  omega

/-- A span that is cut lies on the axis. -/
theorem within_cut_subset (hs : s.first < words) (hlimit : 1 ≤ limit) (hwords : limit < words) :
    (s.cut words limit).within words ⊆ (make 0 limit).within words := by
  have hfirst : (s.cut words limit).first < words := by
    rw [first_cut hlimit]
    omega
  intro line hline
  rw [← covers_iff_mem_within hfirst, covers_iff, last_cut hs hlimit] at hline
  rw [← covers_iff_mem_within (show 0 < words by omega), covers_iff, last_make_zero hlimit hwords]
  exact ⟨Nat.zero_le _, by omega⟩

/-- **A span that starts on the axis is clipped:** that is what it has in common with the axis. -/
theorem cut_eq_common (hs : s.Worded words) (hlimit : 1 ≤ limit) (hwords : limit < words)
    (h : s.first < limit) : s.cut words limit = s.common words (make 0 limit) := by
  have hzero : (make 0 limit).first = 0 := rfl
  refine eq_of_first_of_count ?_ ?_
  · rw [first_cut hlimit, first_common, hzero]
    omega
  · rw [count_cut hlimit, count_common hs, last_make_zero hlimit hwords, hzero]
    omega

end Span

/-! ## 3. Ranges as sets of cells -/

namespace Range

variable {r q c : Range}

/-- **A range made of words.** -/
def Worded (r : Range) : Prop :=
  ∃ row height col width, row < Axis.rows.words ∧ height < Axis.rows.words ∧
    col < Axis.columns.words ∧ width < Axis.columns.words ∧ r = .make row col height width

theorem Worded.rows (h : r.Worded) : r.rows.Worded Axis.rows.words := by
  obtain ⟨row, height, col, width, hrow, hheight, -, -, rfl⟩ := h
  exact Span.worded_make (by decide) hrow hheight

theorem Worded.cols (h : r.Worded) : r.cols.Worded Axis.columns.words := by
  obtain ⟨row, height, col, width, -, -, hcol, hwidth, rfl⟩ := h
  exact Span.worded_make (by decide) hcol hwidth

/-- **The cells of a range:** those in one of its rows and in one of its columns. -/
def area (r : Range) : Set Spot :=
  {s | s.row ∈ r.rows.within Axis.rows.words ∧ s.col ∈ r.cols.within Axis.columns.words}

/-- The cells of a sheet. -/
def sheet (rows columns : Nat) : Range := .make 0 0 rows columns

/-- **Two ranges are asked about as about the sets of their cells.** -/
structure AskedAsSets (r q : Range) : Prop where
  covers_iff : ∀ s, r.covers s = true ↔ s ∈ r.area
  includes_iff : r.includes q = true ↔ q.area ⊆ r.area
  meets_iff : r.meets q = true ↔ (r.area ∩ q.area).Nonempty
  area_common : ∀ c, r.common? q = some c → c.area = r.area ∩ q.area
  common_none_iff : r.common? q = none ↔ r.area ∩ q.area = ∅

theorem covers_iff_mem_area (hr : r.Worded) {s : Spot} : r.covers s = true ↔ s ∈ r.area := by
  rw [covers_iff, Span.covers_iff_mem_within hr.rows.first_lt,
    Span.covers_iff_mem_within hr.cols.first_lt, area, Set.mem_ofPred_eq]

theorem first_mem_area (hr : r.Worded) : r.first ∈ r.area :=
  ⟨Span.first_mem_within hr.rows.first_lt, Span.first_mem_within hr.cols.first_lt⟩

/-- The sets of rows and of columns can be told from the set of cells. -/
theorem area_subset_iff (hq : q.Worded) : q.area ⊆ r.area ↔
    q.rows.within Axis.rows.words ⊆ r.rows.within Axis.rows.words ∧
      q.cols.within Axis.columns.words ⊆ r.cols.within Axis.columns.words := by
  obtain ⟨hfirstRow, hfirstCol⟩ := first_mem_area hq
  constructor
  · intro h
    exact ⟨fun row hrow => (@h ⟨row, q.first.col⟩ ⟨hrow, hfirstCol⟩).1,
      fun col hcol => (@h ⟨q.first.row, col⟩ ⟨hfirstRow, hcol⟩).2⟩
  · rintro ⟨hrows, hcols⟩ s ⟨hrow, hcol⟩
    exact ⟨hrows hrow, hcols hcol⟩

theorem inter_nonempty_iff : (r.area ∩ q.area).Nonempty ↔
    (r.rows.within Axis.rows.words ∩ q.rows.within Axis.rows.words).Nonempty ∧
      (r.cols.within Axis.columns.words ∩ q.cols.within Axis.columns.words).Nonempty := by
  constructor
  · rintro ⟨s, ⟨hrow, hcol⟩, hrow', hcol'⟩
    exact ⟨⟨s.row, hrow, hrow'⟩, s.col, hcol, hcol'⟩
  · rintro ⟨⟨row, hrow, hrow'⟩, col, hcol, hcol'⟩
    exact ⟨⟨row, col⟩, ⟨hrow, hcol⟩, hrow', hcol'⟩

theorem meets_iff_inter_nonempty (hr : r.Worded) (hq : q.Worded) :
    r.meets q = true ↔ (r.area ∩ q.area).Nonempty := by
  rw [meets, Bool.and_eq_true, inter_nonempty_iff,
    Span.meets_iff_nonempty hr.rows.first_lt hq.rows.first_lt,
    Span.meets_iff_nonempty hr.cols.first_lt hq.cols.first_lt]

/-- **What ranges have in common are the cells that they share.** -/
theorem area_common (hr : r.Worded) (hq : q.Worded) (h : r.common? q = some c) :
    c.area = r.area ∩ q.area := by
  unfold common? at h
  split at h
  · rename_i hmeets
    obtain ⟨hrows, hcols⟩ := Bool.and_eq_true_iff.mp hmeets
    rw [← Option.some.inj h]
    ext s
    rw [area, Set.mem_ofPred_eq, Span.within_common hr.rows hq.rows.first_lt hrows,
      Span.within_common hr.cols hq.cols.first_lt hcols]
    exact and_and_and_comm
  · cases h

/-- **Ranges of words are asked about as sets of cells.** -/
theorem askedAsSets (hr : r.Worded) (hq : q.Worded) : AskedAsSets r q where
  covers_iff _ := covers_iff_mem_area hr
  includes_iff := by
    rw [includes, Bool.and_eq_true, area_subset_iff hq,
      Span.includes_iff_subset hr.rows.first_lt hq.rows.first_lt,
      Span.includes_iff_subset hr.cols.first_lt hq.cols.first_lt]
  meets_iff := meets_iff_inter_nonempty hr hq
  area_common _ := area_common hr hq
  common_none_iff := by
    rw [← Set.not_nonempty_iff_eq_empty, ← meets_iff_inter_nonempty hr hq, common?]
    split
    · rename_i hmeets
      exact iff_of_false (Option.some_ne_none _) (not_not_intro hmeets)
    · rename_i hapart
      exact iff_of_true rfl hapart

/-! ## 4. The walk through the cells -/

/-- The cell behind a cell in the walk through a range: the next one in the row, or else the first
one of the next row. -/
def after (r : Range) (s : Spot) : Option (Option Spot) :=
  if s.col < r.lastCol then do return some ⟨s.row, ← Checked.add Axis.columns.words s.col 1⟩
  else if s.row < r.lastRow then do
    return some ⟨← Checked.add Axis.rows.words s.row 1, r.cols.first⟩
  else some none

/-- **The walk through a range** from a cell, or from behind the last one, and the cells that it
passes. -/
inductive Walks (r : Range) : Option Spot → List Spot → Prop
  | done : Walks r none []
  | step {s : Spot} {next : Option Spot} {rest : List Spot}
      (hnext : r.after s = some next) (hrest : Walks r next rest) :
      Walks r (some s) (s :: rest)

/-- There is one walk from each cell. -/
theorem Walks.unique {start : Option Spot} {l m : List Spot} (hl : r.Walks start l)
    (hm : r.Walks start m) : l = m := by
  induction hl generalizing m with
  | done => cases hm; rfl
  | step hnext _ ih =>
    cases hm with
    | step hnext' hrest' =>
      obtain rfl := Option.some.inj (hnext.symm.trans hnext')
      rw [ih hrest']

/-- Through a row, and on from behind its last cell. -/
theorem walks_row {row : Nat} {next : Option Spot} {tail : List Spot}
    (hnext : r.after ⟨row, r.lastCol⟩ = some next) (htail : r.Walks next tail) :
    ∀ n col : Nat, col + n = r.lastCol →
      r.Walks (some ⟨row, col⟩) ((List.range' col (n + 1)).map (Spot.mk row) ++ tail) := by
  intro n
  induction n with
  | zero =>
    rintro col rfl
    exact .step hnext htail
  | succ n ih =>
    intro col hcol
    have hword : r.lastCol ≤ Axis.columns.words - 1 := Nat.min_le_right _ _
    have hafter : r.after ⟨row, col⟩ = some (some ⟨row, col + 1⟩) := by
      rw [after, if_pos (by dsimp only; omega), Checked.add_bind (by dsimp only; omega)]
      rfl
    exact .step hafter (ih (col + 1) (by omega))

/-- Through the rows, each from its first cell. -/
theorem walks_rows (hr : r.Worded) : ∀ n row : Nat, row + n = r.lastRow →
    r.Walks (some ⟨row, r.cols.first⟩) ((List.range' row (n + 1)).flatMap fun row =>
      (r.cols.lines Axis.columns.words).map (Spot.mk row)) := by
  have hcols : r.cols.first ≤ r.lastCol := Span.first_le_last hr.cols.first_lt
  have hrow {row : Nat} {next : Option Spot} {tail : List Spot}
      (hnext : r.after ⟨row, r.lastCol⟩ = some next) (htail : r.Walks next tail) :
      r.Walks (some ⟨row, r.cols.first⟩)
        ((r.cols.lines Axis.columns.words).map (Spot.mk row) ++ tail) :=
    walks_row hnext htail (r.lastCol - r.cols.first) r.cols.first (by omega)
  intro n
  induction n with
  | zero =>
    intro row hlast
    have hafter : r.after ⟨row, r.lastCol⟩ = some none := by
      rw [after, if_neg (Nat.lt_irrefl _), if_neg (by dsimp only; omega)]
    exact hrow hafter .done
  | succ n ih =>
    intro row hlast
    have hword : r.lastRow ≤ Axis.rows.words - 1 := Nat.min_le_right _ _
    have hafter : r.after ⟨row, r.lastCol⟩ = some (some ⟨row + 1, r.cols.first⟩) := by
      rw [after, if_neg (Nat.lt_irrefl _), if_pos (by dsimp only; omega),
        Checked.add_bind (by dsimp only; omega)]
      rfl
    exact hrow hafter (ih (row + 1) (by omega))

/-- **The walk from the first cell passes the cells,** and nothing else. -/
theorem walks_first_iff (hr : r.Worded) {l : List Spot} :
    r.Walks (some r.first) l ↔ l = r.cells := by
  have hrows : r.rows.first ≤ r.lastRow := Span.first_le_last hr.rows.first_lt
  have hcells : r.Walks (some r.first) r.cells :=
    walks_rows hr (r.lastRow - r.rows.first) r.rows.first (by omega)
  exact ⟨fun h => h.unique hcells, fun h => h ▸ hcells⟩

/-- **The cells are in order,** row by row. -/
theorem pairwise_cells (r : Range) : r.cells.Pairwise fun a b => compare a b = .lt := by
  have hlines (s : Span) (words : Nat) : (s.lines words).Pairwise (· < ·) :=
    List.pairwise_lt_range'
  refine List.pairwise_flatMap.mpr ⟨fun row _ => ?_, ?_⟩
  · refine List.pairwise_map.mpr ((hlines r.cols Axis.columns.words).imp ?_)
    intro a b h
    exact Spot.compare_eq_lt.mpr (.inr ⟨rfl, h⟩)
  · refine (hlines _ _).imp fun h a ha b hb => ?_
    obtain ⟨_, _, rfl⟩ := List.mem_map.mp ha
    obtain ⟨_, _, rfl⟩ := List.mem_map.mp hb
    exact Spot.compare_eq_lt.mpr (.inl h)

/-- **The cells of a range are listed once each, row by row,** by a walk. -/
structure ListsCells (r : Range) : Prop where
  mem_iff : ∀ s, s ∈ r.cells ↔ s ∈ r.area
  rowByRow : r.cells.Pairwise fun a b => compare a b = .lt
  walks_iff : ∀ l, r.Walks (some r.first) l ↔ l = r.cells

theorem listsCells (hr : r.Worded) : ListsCells r where
  mem_iff _ := (mem_cells hr.rows.first_lt hr.cols.first_lt).trans (covers_iff_mem_area hr)
  rowByRow := r.pairwise_cells
  walks_iff _ := walks_first_iff hr

/-! ## 5. Cutting to a sheet -/

/-- **A range is cut to a sheet:** to what it has in common with the sheet, if there is anything,
and else axis by axis, to the last line where it starts beyond the sheet. -/
structure CutAsSets (r : Range) (rows columns : Nat) : Prop where
  fits : (r.cut rows columns).fits rows columns = true
  area_subset : (r.cut rows columns).area ⊆ (sheet rows columns).area
  eq_common : ∀ c, r.common? (sheet rows columns) = some c → r.cut rows columns = c
  rows_beyond : rows ≤ r.rows.first → (r.cut rows columns).rows = .single (rows - 1)
  rows_within : r.rows.first < rows → (r.cut rows columns).rows.first = r.rows.first ∧
    (r.cut rows columns).lastRow = min r.lastRow (rows - 1)
  cols_beyond : columns ≤ r.cols.first → (r.cut rows columns).cols = .single (columns - 1)
  cols_within : r.cols.first < columns → (r.cut rows columns).cols.first = r.cols.first ∧
    (r.cut rows columns).lastCol = min r.lastCol (columns - 1)
  cut_cut : (r.cut rows columns).cut rows columns = r.cut rows columns

variable {rows columns : Nat}

/-- What a range has in common with the sheet is the range cut to it. -/
theorem cut_eq_of_common? (hr : r.Worded) (hrows : 1 ≤ rows ∧ rows < Axis.rows.words)
    (hcolumns : 1 ≤ columns ∧ columns < Axis.columns.words) {c : Range}
    (h : r.common? (sheet rows columns) = some c) : r.cut rows columns = c := by
  unfold common? at h
  split at h
  · rename_i hmeets
    simp only [meets, Span.meets, Bool.and_eq_true, decide_eq_true_eq] at hmeets
    have hlastRow := Span.last_make_zero hrows.1 hrows.2
    have hlastCol := Span.last_make_zero hcolumns.1 hcolumns.2
    obtain ⟨⟨hrow, -⟩, hcol, -⟩ := hmeets
    rw [← Option.some.inj h, cut,
      Span.cut_eq_common hr.rows hrows.1 hrows.2 (by rw [sheet, make, hlastRow] at hrow; omega),
      Span.cut_eq_common hr.cols hcolumns.1 hcolumns.2
        (by rw [sheet, make, hlastCol] at hcol; omega)]
    rfl
  · cases h

/-- **A range of words is cut to a sheet as sets are.** -/
theorem cutAsSets (hr : r.Worded) (hrows : 1 ≤ rows ∧ rows < Axis.rows.words)
    (hcolumns : 1 ≤ columns ∧ columns < Axis.columns.words) : CutAsSets r rows columns := by
  have hrow := hr.rows.first_lt
  have hcol := hr.cols.first_lt
  have hlastRow : (r.cut rows columns).lastRow = min r.lastRow (rows - 1) :=
    Span.last_cut hrow hrows.1
  have hlastCol : (r.cut rows columns).lastCol = min r.lastCol (columns - 1) :=
    Span.last_cut hcol hcolumns.1
  have hfirstRow : (r.cut rows columns).rows.first = min r.rows.first (rows - 1) :=
    Span.first_cut hrows.1
  have hfirstCol : (r.cut rows columns).cols.first = min r.cols.first (columns - 1) :=
    Span.first_cut hcolumns.1
  exact {
    fits := by
      simp only [fits, Bool.and_eq_true, decide_eq_true_eq]
      omega
    area_subset := fun s hs => ⟨Span.within_cut_subset hrow hrows.1 hrows.2 hs.1,
      Span.within_cut_subset hcol hcolumns.1 hcolumns.2 hs.2⟩
    eq_common := fun c => cut_eq_of_common? hr hrows hcolumns
    rows_beyond := Span.cut_of_beyond hrow hrows.1
    rows_within := fun h => ⟨by omega, hlastRow⟩
    cols_beyond := Span.cut_of_beyond hcol hcolumns.1
    cols_within := fun h => ⟨by omega, hlastCol⟩
    cut_cut := congrArg₂ Range.mk (Span.cut_cut hrow hrows.1) (Span.cut_cut hcol hcolumns.1) }

end Range

/-! ## 6. Ranges computed in words -/

namespace Checked

/-- The lines shared by spans that meet. -/
def common (words : Nat) (s t : Span) : Option Span := do
  let first := max s.first t.first
  let last := min (s.last words) (t.last words)
  return .make first (min ((← sub last first) + 1) (words - 1))

/-- The span cut to an axis. -/
def cut (words limit : Nat) (s : Span) : Option Span := do
  let highest ← sub (max limit 1) 1
  let first := min s.first highest
  return .make first (← add words (← sub (min (s.last words) highest) first) 1)

/-- The cells that two ranges share, if any. -/
def commonRange (r q : Range) : Option (Option Range) :=
  if r.meets q then do
    return some ⟨← common Axis.rows.words r.rows q.rows, ← common Axis.columns.words r.cols q.cols⟩
  else
    some none

/-- The range cut to a sheet. -/
def cutRange (r : Range) (rows columns : Nat) : Option Range := do
  return ⟨← cut Axis.rows.words rows r.rows, ← cut Axis.columns.words columns r.cols⟩

section Spans

variable {s t : Span} {words limit : Nat}

theorem common_eq (hs : s.first < words) (ht : t.first < words) (h : s.meets words t = true) :
    common words s t = some (s.common words t) := by
  have hle := Span.first_le_last hs
  have hle' := Span.first_le_last ht
  simp only [Span.meets, Bool.and_eq_true, decide_eq_true_eq] at h
  unfold common
  dsimp only
  rw [sub_bind (by omega)]
  rfl

theorem cut_eq (hs : s.Worded words) : cut words limit s = some (s.cut words limit) := by
  have hle := Span.first_le_last hs.first_lt
  have hlines := s.last_sub_first_lt words
  have hcount := hs.count_lt
  unfold cut
  rw [sub_bind (by omega)]
  dsimp only
  rw [sub_bind (by omega), add_bind (by omega)]
  rfl

end Spans

theorem commonRange_eq {r q : Range} (hr : r.Worded) (hq : q.Worded) :
    commonRange r q = some (r.common? q) := by
  unfold commonRange Range.common?
  split
  · rename_i hmeets
    obtain ⟨hrows, hcols⟩ := Bool.and_eq_true_iff.mp hmeets
    rw [common_eq hr.rows.first_lt hq.rows.first_lt hrows,
      common_eq hr.cols.first_lt hq.cols.first_lt hcols]
    rfl
  · rfl

theorem cutRange_eq {r : Range} (hr : r.Worded) (rows columns : Nat) :
    cutRange r rows columns = some (r.cut rows columns) := by
  rw [cutRange, cut_eq hr.rows, cut_eq hr.cols]
  rfl

end Checked

/-! ## 7. The algebra of ranges -/

/-- **The algebra of ranges is that of sets of cells,** for all ranges made of words: questions
about them, the list of their cells and the cut to any sheet; and what is computed for an answer
never leaves the words. -/
theorem range_algebra {r q : Range} (hr : r.Worded) (hq : q.Worded) :
    r.AskedAsSets q ∧ r.ListsCells ∧
      (∀ rows columns, 1 ≤ rows ∧ rows < Axis.rows.words →
        1 ≤ columns ∧ columns < Axis.columns.words → r.CutAsSets rows columns) ∧
      Checked.commonRange r q = some (r.common? q) ∧
      ∀ rows columns, Checked.cutRange r rows columns = some (r.cut rows columns) :=
  ⟨Range.askedAsSets hr hq, Range.listsCells hr, fun _ _ hrows hcolumns =>
    Range.cutAsSets hr hrows hcolumns, Checked.commonRange_eq hr hq, Checked.cutRange_eq hr⟩

/-- A range that is stopped by the last row and the last column, and one that starts in the second
row and leaves out the last column. -/
theorem range_algebra_at_last_cell :
    (Range.make 0xFFFFFFFE 0xFFFD 5 9).Worded ∧ (Range.make 1 0 0xFFFFFFFF 0xFFFF).Worded ∧
      (Range.make 0xFFFFFFFE 0xFFFD 2 2).area =
        (Range.make 0xFFFFFFFE 0xFFFD 5 9).area ∩ (Range.make 1 0 0xFFFFFFFF 0xFFFF).area ∧
      (Range.make 0xFFFFFFFE 0xFFFD 5 9).ListsCells ∧
      (Range.make 0xFFFFFFFE 0xFFFD 5 9).CutAsSets 100 0xFFFF ∧
      Checked.cutRange (Range.make 0xFFFFFFFE 0xFFFD 5 9) 100 0xFFFF =
        some (Range.make 99 0xFFFD 1 2) := by
  have hr : (Range.make 0xFFFFFFFE 0xFFFD 5 9).Worded :=
    ⟨0xFFFFFFFE, 5, 0xFFFD, 9, by decide, by decide, by decide, by decide, rfl⟩
  have hq : (Range.make 1 0 0xFFFFFFFF 0xFFFF).Worded :=
    ⟨1, 0xFFFFFFFF, 0, 0xFFFF, by decide, by decide, by decide, by decide, rfl⟩
  obtain ⟨hsets, hcells, hcut, -, hwords⟩ := range_algebra hr hq
  exact ⟨hr, hq, hsets.area_common _ (by decide), hcells, hcut 100 0xFFFF (by decide) (by decide),
    hwords 100 0xFFFF⟩

end Spreadsheet.Grid
