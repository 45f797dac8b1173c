/-
# Tables row by row

* The entries of a table of spots stand in rows, and each row is a table of its columns.  Rows
  without entries are not kept.
* A band of lines is closed where the lines are the keys: the table is split where the band starts,
  and what stood behind the band is put back under lower numbers.  Rows are closed in the table of
  rows, columns in every row.
-/
import Spreadsheet.Grid.Span
import Spreadsheet.Grid.Table

namespace Spreadsheet.Grid

/-! ## 1. Rows -/

namespace Table

variable {α : Type}

/-- Puts an entry into its row, a new one if there is none. -/
def putInRow (rows : Table Nat (Table Nat α)) (e : Spot × α) : Table Nat (Table Nat α) :=
  rows.put e.1.row (((rows.get? e.1.row).getD .empty).put e.1.col e.2)

/-- **The rows of a table of spots.** -/
def byRow (t : Table Spot α) : Table Nat (Table Nat α) := t.entries.foldl putInRow .empty

/-- **The table of spots that has these rows.** -/
def ofRows (rows : Table Nat (Table Nat α)) : Table Spot α where
  entries := rows.entries.flatMap fun row => row.2.entries.map fun e => (⟨row.1, e.1⟩, e.2)
  ascending := by
    refine List.pairwise_flatMap.mpr ⟨fun row _ => ?_, rows.ascending.imp fun {row row'} hrow => ?_⟩
    · refine List.pairwise_map.mpr (row.2.ascending.imp fun hcol => ?_)
      exact Spot.compare_eq_lt.mpr (.inr ⟨rfl, Nat.compare_eq_lt.mp hcol⟩)
    · intro e he e' he'
      obtain ⟨d, -, rfl⟩ := List.mem_map.mp he
      obtain ⟨d', -, rfl⟩ := List.mem_map.mp he'
      exact Spot.compare_eq_lt.mpr (.inl (Nat.compare_eq_lt.mp hrow))

/-- What is found at a spot is found in its row. -/
theorem get?_ofRows (rows : Table Nat (Table Nat α)) (s : Spot) :
    (ofRows rows).get? s = (rows.get? s.row).bind (·.get? s.col) := by
  refine Option.ext fun v => ?_
  rw [get?_eq_some_iff, Option.bind_eq_some_iff]
  simp only [ofRows, List.mem_flatMap, List.mem_map, Prod.mk.injEq, get?_eq_some_iff]
  constructor
  · rintro ⟨row, hrow, e, he, rfl, rfl⟩
    exact ⟨row.2, hrow, he⟩
  · rintro ⟨columns, hrow, he⟩
    exact ⟨(s.row, columns), hrow, (s.col, v), he, rfl, rfl⟩

/-- What was put into a row is found there, and the rest as before. -/
theorem get?_putInRow (rows : Table Nat (Table Nat α)) (e : Spot × α) (s : Spot) :
    ((putInRow rows e).get? s.row).bind (·.get? s.col) =
      if e.1 = s then some e.2 else (rows.get? s.row).bind (·.get? s.col) := by
  obtain ⟨⟨row, col⟩, v⟩ := e
  obtain ⟨row', col'⟩ := s
  unfold putInRow
  by_cases hrow : row = row'
  · subst hrow
    rw [get?_put_self, Option.bind_some, get?_put]
    cases rows.get? row <;> simp
  · rw [get?_put_of_ne _ _ hrow, if_neg fun heq => hrow (congrArg Spot.row heq)]

/-- **What is found at a spot of a table is found in its row.** -/
theorem get?_byRow (t : Table Spot α) (s : Spot) :
    (t.byRow.get? s.row).bind (·.get? s.col) = t.get? s := by
  have hfold (entries : List (Spot × α)) (rows : Table Nat (Table Nat α)) (t : Table Spot α)
      (h : ∀ s : Spot, (rows.get? s.row).bind (·.get? s.col) = t.get? s) (s : Spot) :
      ((entries.foldl putInRow rows).get? s.row).bind (·.get? s.col) =
        (entries.foldl (fun t e => t.put e.1 e.2) t).get? s := by
    induction entries generalizing rows t with
    | nil => exact h s
    | cons e entries ih =>
      refine ih _ _ fun s => ?_
      rw [get?_putInRow, get?_put, h]
  rw [byRow, hfold t.entries .empty .empty fun _ => rfl, foldl_put_entries]

/-! ## 2. Closing a band -/

/-- The entries in front of a key, and the others. -/
def splitOff (t : Table Nat α) (k : Nat) : Table Nat α × Table Nat α :=
  (t.filter fun j _ => j < k, t.filter fun j _ => k ≤ j)

/-- Puts an entry back that stood behind a band. -/
def putBack (stop count : Nat) (t : Table Nat α) (e : Nat × α) : Table Nat α :=
  if stop ≤ e.1 then t.put (e.1 - count) e.2 else t

/-- **Closes a band of lines** on an axis with that many words.  The end of the band is a word. -/
def close (t : Table Nat α) (words : Nat) (band : Span) : Table Nat α :=
  let stop := min (band.first + band.count) (words - 1)
  let (front, rest) := t.splitOff band.first
  rest.entries.foldl (putBack stop band.count) front

/-- **Closes a band of lines of a table of spots.**  Rows that lose all their entries are gone. -/
def without (t : Table Spot α) (axis : Axis) (band : Span) : Table Spot α :=
  match axis with
  | .rows => ofRows (t.byRow.close axis.words band)
  | .columns => ofRows ((t.byRow.map fun _ columns => columns.close axis.words band).filter
      fun _ columns => columns.size != 0)

/-- What is put back does not touch the lines in front of the band, and those behind it are found
where they went to. -/
theorem get?_foldl_putBack {first count k : Nat} {entries : List (Nat × α)}
    (h : Ascending entries) (t : Table Nat α) :
    (entries.foldl (putBack (first + count) count) t).get? k =
      if k < first then t.get? k
      else ((entries.find? fun e => compare e.1 (k + count) == .eq).map (·.2)).or (t.get? k) := by
  induction entries generalizing t with
  | nil => simp
  | cons e rest ih =>
    obtain ⟨hhead, hrest⟩ := List.pairwise_cons.mp h
    rw [List.foldl_cons, ih hrest, putBack]
    split
    · rename_i hfront
      split
      · rw [get?_put_of_ne]
        omega
      · rfl
    · by_cases hkey : e.1 = k + count
      · -- It is put where it is looked for, and nothing behind it comes there.
        have hnone : rest.find? (fun d => compare d.1 (k + count) == .eq) = none := by
          refine List.find?_eq_none.mpr fun d hd => ?_
          have hlt := Nat.compare_eq_lt.mp (hhead d hd)
          simp only [beq_iff_eq, Nat.compare_eq_eq]
          omega
        have hk : e.1 - count = k := by omega
        rw [if_pos (by omega), hk, get?_put_self, hnone]
        simp [hkey]
      · have hne : (compare e.1 (k + count) == .eq) = false := by
          simpa [Nat.compare_eq_eq] using hkey
        rw [List.find?_cons, hne]
        split
        · rw [get?_put_of_ne]
          omega
        · rfl

/-- **What is found at a line after a band was closed** stood on the line that this was, if the end
of the band is a word. -/
theorem get?_close {words : Nat} {band : Span} (h : band.first + band.count < words)
    (t : Table Nat α) (k : Nat) :
    (t.close words band).get? k = t.get? (if k < band.first then k else k + band.count) := by
  have hstop : min (band.first + band.count) (words - 1) = band.first + band.count := by omega
  have hget {keep : Nat → α → Bool} (j : Nat) (hj : ∀ v, keep j v = true) :
      (t.filter keep).get? j = t.get? j := by
    rw [get?_filter]
    cases t.get? j with
    | none => rfl
    | some v => simp [hj]
  unfold close splitOff
  dsimp only
  rw [hstop, get?_foldl_putBack (t.filter _).ascending]
  split
  · rename_i hfront
    exact hget k fun _ => by simpa using hfront
  · rename_i hfront
    have hgone : (t.filter fun j _ => j < band.first).get? k = none := by
      rw [get?_filter]
      cases t.get? k with
      | none => rfl
      | some v => simp; omega
    rw [hgone, Option.or_none]
    exact hget (k + band.count) fun _ => by simp; omega

end Table

end Spreadsheet.Grid
