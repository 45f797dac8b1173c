/-
# Spans of lines

* A *span* is a run of neighbouring lines on one axis: a first line and a count that is at least
  one.  Its last line stops at the last word of the axis.
* A range of cells is one span of rows and one of columns, so every question about ranges is
  asked here, once for both axes.
-/
import Spreadsheet.Grid.Spot

namespace Spreadsheet.Grid

/-! ## 1. The type -/

/-- **A run of lines,** given by the first of them and their number. -/
structure Span where
  first : Nat
  count : Nat
  count_pos : 0 < count
deriving DecidableEq, Repr

/-- The span with at least one line. -/
def Span.make (first count : Nat) : Span := ⟨first, max count 1, by omega⟩

/-- The span of a single line. -/
def Span.single (line : Nat) : Span := ⟨line, 1, Nat.one_pos⟩

/-- The span from one line to another, whichever comes first. -/
def Span.between (a b : Nat) : Span := ⟨min a b, max a b - min a b + 1, Nat.succ_pos _⟩

/-- **The last line,** at most the last word of an axis with that many words. -/
def Span.last (s : Span) (words : Nat) : Nat := min (s.first + (s.count - 1)) (words - 1)

/-! ## 2. Questions -/

/-- Whether a line belongs to the span. -/
def Span.covers (s : Span) (words line : Nat) : Bool :=
  s.first ≤ line && line ≤ s.last words

/-- Whether all lines of `t` belong to `s`. -/
def Span.includes (s : Span) (words : Nat) (t : Span) : Bool :=
  s.first ≤ t.first && t.last words ≤ s.last words

/-- Whether the spans share a line. -/
def Span.meets (s : Span) (words : Nat) (t : Span) : Bool :=
  s.first ≤ t.last words && t.first ≤ s.last words

/-- The lines in order. -/
def Span.lines (s : Span) (words : Nat) : List Nat :=
  List.range' s.first (s.last words - s.first + 1)

/-- A span that starts on the axis ends there, not before its start. -/
theorem Span.first_le_last {s : Span} {words : Nat} (h : s.first < words) :
    s.first ≤ s.last words := by
  unfold last
  omega

theorem Span.covers_iff {s : Span} {words line : Nat} :
    s.covers words line = true ↔ s.first ≤ line ∧ line ≤ s.last words := by
  simp [covers]

/-- **A span covers what a span covers that it includes.** -/
theorem Span.covers_of_includes {s t : Span} {words line : Nat} (h : s.includes words t = true)
    (hline : t.covers words line = true) : s.covers words line = true := by
  simp only [includes, Bool.and_eq_true, decide_eq_true_eq] at h
  rw [covers_iff] at hline ⊢
  omega

/-- A span that ends before the last word starts on the axis. -/
theorem Span.first_lt_words {s : Span} {words limit : Nat} (h : s.last words < limit)
    (hlimit : limit < words) : s.first < words := by
  unfold last at h
  omega

/-- **The lines are those that the span covers.** -/
theorem Span.mem_lines {s : Span} {words line : Nat} (h : s.first < words) :
    line ∈ s.lines words ↔ s.covers words line = true := by
  have hle := first_le_last h
  rw [covers_iff, lines, List.mem_range'_1]
  omega

/-! ## 3. Cutting -/

/-- The lines shared by spans that meet; their number is a word too. -/
def Span.common (s : Span) (words : Nat) (t : Span) : Span :=
  let first := max s.first t.first
  let last := min (s.last words) (t.last words)
  .make first (min (last - first + 1) (words - 1))

/-- The span cut to an axis of `limit` lines.  A span beyond it falls on its last line. -/
def Span.cut (s : Span) (words limit : Nat) : Span :=
  let highest := max limit 1 - 1
  let first := min s.first highest
  .make first (min (s.last words) highest - first + 1)

/-- The span of a signed count: a negative count grows backwards from the line.  Cut to an axis
of `limit` lines. -/
def Span.signed (limit : Nat) (line count : Int) : Span :=
  let ends : Int × Int :=
    if 0 ≤ count then (line, line + max count 1 - 1) else (line + count + 1, line)
  let highest : Int := (limit : Int) - 1
  let first := max 0 (min ends.1 highest)
  let last := max first (min ends.2 highest)
  .make first.toNat (last - first + 1).toNat

/-! ## 4. Removal -/

/-- **What is left of a span after `band` was removed.**  Lines before the band keep their numbers,
those behind it move up; an end that is lost falls on the edge of the band. -/
def Span.without? (s : Span) (words : Nat) (band : Span) : Option Span :=
  let stop := band.first + band.count
  let first := s.first
  let last := s.last words
  if band.first ≤ first ∧ last < stop then none
  else
    let newFirst :=
      if first < band.first then first
      else if stop ≤ first then first - band.count
      else band.first
    let newLast :=
      if last < band.first then last
      else if stop ≤ last then last - band.count
      else band.first - 1
    some (.make newFirst (newLast - newFirst + 1))

end Spreadsheet.Grid
